import EventDigest.Delivery

/-! # Tasks

A task writes to the journal, makes deliveries and may fail; what it wrote and delivered before it
failed stays. It cannot reach the store.
-/
set_option autoImplicit false
namespace EventDigest

structure Desk (β : Type) where
  journal : Journal
  deliveries : List Delivery
  outside : β

abbrev Task (β α : Type) := ExceptT Fault (StateM (Desk β)) α

namespace Task
variable {β α : Type}

def log (entry : Entry) : Task β Unit :=
  modify fun desk => { desk with journal := desk.journal ++ [entry] }

def deliver (delivery : Delivery) : Task β Unit :=
  modify fun desk => { desk with deliveries := desk.deliveries ++ [delivery] }

def ask (question : β → α × β) : Task β α :=
  modifyGet fun desk =>
    let (answer, outside) := question desk.outside
    (answer, { desk with outside })

def ofExcept : Except Fault α → Task β α
  | .ok a => pure a
  | .error fault => throw fault

def ofPublish : Except PublishFault α → Task β α
  | .ok a => pure a
  | .error fault => throw (.publish fault)

end EventDigest.Task
