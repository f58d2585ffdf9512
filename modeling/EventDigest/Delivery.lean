import EventDigest.Notification
import EventDigest.Config

/-! # Deliveries

What leaves the system: a request to a web address, a mail session, or a rehearsed call that goes
nowhere. A transport answers requests and the calls of a session from the state of the world
outside.
-/
set_option autoImplicit false
namespace EventDigest

structure Target where
  name : String
  addresses : List String
  deriving DecidableEq, Repr

/-- The time limit is a number as it was configured, whole or not. -/
structure HttpRequest where
  url : String
  body : String
  headers : Fields String
  timeout : Json
  deriving Repr

structure HttpResponse where
  status : Int
  text : String
  deriving Repr

inductive MailContent
  | plain (text : String)
  | alternative (text html : String)
  deriving DecidableEq, Repr

/-- The header lines for sender and recipients are in normal form. -/
structure MailMessage where
  subject : String
  sender : String
  recipientLine : String
  content : MailContent
  deriving DecidableEq, Repr

inductive MailCall
  | connect (host : String) (port : Int)
  | hello
  | startTls
  | login (user password : String)
  | send (message : MailMessage)
  | quit
  deriving DecidableEq, Repr

inductive Delivery
  | http (request : HttpRequest)
  | mail (calls : List MailCall) (accepted : Option MailMessage)
  | rehearsed (notification : Notification) (config : Config) (targets : Option (List Target))
  deriving Repr

/-- How the world outside answers; it may remember what it was asked. -/
structure Transport (β : Type) where
  post : HttpRequest → β → Except Fault HttpResponse × β
  mail : MailCall → β → Except Fault Unit × β

end EventDigest
