import EventDigest.Proofs.Errands
import EventDigest.Run

/-! # Steady publishers

A task is steady when nothing that was journaled, delivered or asked before it makes a difference:
it ends alike and delivers the same. A registry of steady publishers delivers steadily; the standard
one does when the transport gives its answers without regard to what it was asked before.
-/
set_option autoImplicit false
namespace EventDigest
variable {β α γ : Type}

namespace Task

def Steady (task : Task β α) : Prop :=
  ∀ desk other : Desk β, (task.start other).1 = (task.start desk).1 ∧
    ∃ made, (task.start desk).2.deliveries = desk.deliveries ++ made ∧
      (task.start other).2.deliveries = other.deliveries ++ made

theorem Steady.of_idle {task : Task β α} {answer : Except Fault α}
    (h : ∀ desk, ∃ after, task.start desk = (answer, after) ∧ desk.Idle after) : task.Steady := by
  intro desk other
  obtain ⟨_, hDesk, hIdle⟩ := h desk
  obtain ⟨_, hOther, hOtherIdle⟩ := h other
  rw [hDesk, hOther]
  refine ⟨rfl, [], ?_, ?_⟩
  · rw [hIdle.deliveries, List.append_nil]
  · rw [hOtherIdle.deliveries, List.append_nil]

theorem steady_pure (a : α) : (pure a : Task β α).Steady :=
  .of_idle fun desk => ⟨desk, rfl, .refl desk⟩

theorem steady_throw (fault : Fault) : (throw fault : Task β α).Steady :=
  .of_idle fun desk => ⟨desk, rfl, .refl desk⟩

theorem steady_log (entry : Entry) : (log entry : Task β Unit).Steady :=
  .of_idle fun desk => ⟨_, start_log entry desk, rfl, rfl⟩

theorem steady_ofExcept (answer : Except Fault α) : (ofExcept answer : Task β α).Steady :=
  .of_idle fun desk => ⟨desk, start_ofExcept answer desk, .refl desk⟩

theorem steady_ofPublish (answer : Except PublishFault α) : (ofPublish answer : Task β α).Steady :=
  .of_idle fun desk => ⟨desk, start_ofPublish answer desk, .refl desk⟩

theorem steady_deliver (delivery : Delivery) : (deliver delivery : Task β Unit).Steady :=
  fun _ _ => ⟨rfl, [delivery], rfl, rfl⟩

theorem steady_ask {question : β → α × β}
    (h : ∀ outside other, (question other).1 = (question outside).1) : (ask question).Steady := by
  intro desk other
  rw [start_ask, start_ask]
  refine ⟨congrArg Except.ok (h desk.outside other.outside), [], ?_, ?_⟩
  · rw [List.append_nil]
  · rw [List.append_nil]

/-- What follows needs to be steady only for values that the first task can end with. -/
theorem Steady.bind {task : Task β α} {next : α → Task β γ} (h : task.Steady)
    (hNext : ∀ desk a, (task.start desk).1 = .ok a → (next a).Steady) :
    (task >>= next).Steady := by
  intro desk other
  obtain ⟨hAnswer, made, hMade, hOther⟩ := h desk other
  rw [start_bind, start_bind]
  rcases hFirst : task.start desk with ⟨fault | a, mid⟩
  · rcases hSecond : task.start other with ⟨answer, last⟩
    rw [hFirst] at hAnswer hMade
    rw [hSecond] at hAnswer hOther
    dsimp only at hAnswer
    subst hAnswer
    exact ⟨rfl, made, hMade, hOther⟩
  · rcases hSecond : task.start other with ⟨answer, last⟩
    have hFollows := hNext desk a (by rw [hFirst])
    rw [hFirst] at hAnswer hMade
    rw [hSecond] at hAnswer hOther
    dsimp only at hAnswer hMade hOther
    subst hAnswer
    obtain ⟨hEnd, more, hMore, hLast⟩ := hFollows mid last
    refine ⟨hEnd, made ++ more, ?_, ?_⟩
    · rw [hMore, hMade, List.append_assoc]
    · rw [hLast, hOther, List.append_assoc]

end Task

/-- What the publisher does depends on nothing but what it is given. -/
structure Publisher.Steady (publisher : Publisher β) : Prop where
  inform : ∀ ctx notification config, (publisher.inform ctx notification config).Steady
  informTargets : ∀ ctx notification config targets,
    (publisher.informTargets ctx notification config targets).Steady

theorem Publisher.Steady.untargeted {className : String}
    {inform : Context → Notification → Config → Task β Unit}
    (h : ∀ ctx notification config, (inform ctx notification config).Steady) :
    (Publisher.untargeted className inform).Steady where
  inform := h
  informTargets _ _ _ _ := Task.steady_throw _

/-- Every construction yields the same, however often it was tried; a publisher that it yields is
steady. -/
structure Registration.Steady (registration : Registration β) (settings : Settings) : Prop where
  construct : ∀ outside other, (registration.construct settings other).1 =
    (registration.construct settings outside).1
  publisher : ∀ outside publisher,
    (registration.construct settings outside).1 = .ok (.publisher publisher) → publisher.Steady

namespace Registry

def Steady (registry : Registry β) (settings : Settings) : Prop :=
  ∀ key registration, registry.find? key = some registration → registration.Steady settings

variable {registry : Registry β} {settings : Settings}

/-- A registration is found for a descriptor, by its key. -/
theorem registrationOf_eq_ok {descriptor : Option Descriptor} {registration : Registration β}
    (h : registry.registrationOf descriptor = .ok registration) :
    ∃ d, descriptor = some d ∧ registry.find? d.key = some registration := by
  unfold Registry.registrationOf at h
  split at h
  · cases h
  · rename_i d
    split at h
    · cases h
    · split at h
      · cases h
      · rename_i found hKey
        cases h
        exact ⟨d, rfl, hKey⟩

theorem Steady.registrationOf (h : registry.Steady settings) {descriptor : Option Descriptor}
    {registration : Registration β}
    (hFound : registry.registrationOf descriptor = .ok registration) :
    registration.Steady settings := by
  obtain ⟨d, _, hKey⟩ := registrationOf_eq_ok hFound
  exact h _ _ hKey

theorem usable?_eq_some {targeted : Bool} {made : Product β} {publisher : Publisher β}
    (h : usable? targeted made = some publisher) : made = .publisher publisher := by
  cases made with
  | thing name => cases h
  | publisher p =>
    unfold usable? at h
    dsimp only at h
    by_cases hRefused : (targeted && !p.isTargeted) = true
    · rw [if_pos hRefused] at h
      cases h
    · rw [if_neg hRefused, Option.some.injEq] at h
      rw [h]

theorem Steady.resolve (h : registry.Steady settings) (descriptor : Option Descriptor) :
    (registry.resolve settings descriptor).Steady := by
  unfold Registry.resolve
  split
  · exact Task.steady_throw _
  · rename_i registration hFound
    refine (Task.steady_ask (h.registrationOf hFound).construct).bind fun _ answer _ => ?_
    split
    · exact Task.steady_throw _
    · split
      · exact Task.steady_pure _
      · exact Task.steady_throw _

/-- What a descriptor resolves to is what its registration constructs. -/
theorem resolve_eq_ok {descriptor : Option Descriptor} {desk : Desk β}
    {registration : Registration β} {publisher : Publisher β}
    (h : ((registry.resolve settings descriptor).start desk).1 = .ok (registration, publisher)) :
    registry.registrationOf descriptor = .ok registration ∧
      (registration.construct settings desk.outside).1 = .ok (.publisher publisher) := by
  unfold Registry.resolve at h
  split at h
  · cases h
  · rename_i found hFound
    rw [Task.start_bind, Task.start_ask] at h
    dsimp only at h
    split at h
    · cases h
    · rename_i made hMade
      split at h
      · rename_i usable hUsable
        cases h
        rw [usable?_eq_some hUsable] at hMade
        exact ⟨hFound, hMade⟩
      · cases h

theorem Steady.publisher (h : registry.Steady settings) {descriptor : Option Descriptor}
    {desk : Desk β} {registration : Registration β} {publisher : Publisher β}
    (hResolved : ((registry.resolve settings descriptor).start desk).1 =
      .ok (registration, publisher)) : publisher.Steady := by
  obtain ⟨hFound, hMade⟩ := resolve_eq_ok hResolved
  exact (h.registrationOf hFound).publisher _ _ hMade

theorem Steady.dispatch (h : registry.Steady settings) (logger : String) (ctx : Context)
    (notification : Notification) (descriptor : Option Descriptor) (config : Config)
    (targets : List Target) :
    (registry.dispatch settings logger ctx notification descriptor config targets).Steady := by
  refine (h.resolve descriptor).bind ?_
  rintro desk ⟨registration, publisher⟩ hResolved
  have hPublisher := h.publisher hResolved
  dsimp only
  split
  · exact (Task.steady_log _).bind fun _ _ _ =>
      hPublisher.informTargets ctx notification config targets
  · exact (Task.steady_log _).bind fun _ _ _ => hPublisher.inform ctx notification config

/-- A registration that always constructs the same publisher is steady when that publisher is. -/
theorem steady_always {key : String} {targeted : Bool} {make : Settings → Publisher β}
    (h : (make settings).Steady) : Registration.Steady ⟨key, targeted, always make⟩ settings where
  construct _ _ := rfl
  publisher _ _ hMade := by
    cases hMade
    exact h

end Registry

namespace Executor

theorem steady_deliver {executor : Executor β}
    (h : executor.registry.Steady executor.settings) (ctx : Context) (notification : Notification)
    (descriptor : Option Descriptor) (config : Config) (targets : List Target) :
    (executor.deliver ctx notification descriptor config targets).Steady := by
  have hDispatch := fun merged => h.dispatch logger ctx notification descriptor merged targets
  cases descriptor with
  | none => exact hDispatch config
  | some descriptor =>
    unfold deliver
    dsimp only
    split
    · exact (Task.steady_log _).bind fun _ _ _ => hDispatch _
    · exact hDispatch _

end Executor

/-- The transport gives its answers without regard to what it was asked before. -/
structure Transport.Steady (transport : Transport β) : Prop where
  post : ∀ request outside other,
    (transport.post request other).1 = (transport.post request outside).1
  mail : ∀ call outside other, (transport.mail call other).1 = (transport.mail call outside).1

namespace Publisher
variable {transport : Transport β}

theorem steady_console : (console : Publisher β).Steady :=
  .untargeted fun _ _ _ => (Task.steady_ofExcept _).bind fun _ _ _ => Task.steady_log _

theorem steady_webhook (h : transport.Steady) (timeout : Json) :
    (webhook transport timeout).Steady := by
  refine .untargeted fun ctx notification config => ?_
  refine (Task.steady_ofExcept _).bind fun _ request _ => ?_
  refine (Task.steady_deliver _).bind fun _ _ _ => ?_
  refine (Task.steady_ask (h.post request)).bind fun _ answer _ => ?_
  split
  · exact Task.steady_pure _
  · exact Task.steady_throw _

theorem converse_steady (h : transport.Steady) (calls : List MailCall) (outside other : β) :
    (converse transport calls other).1 = (converse transport calls outside).1 := by
  induction calls generalizing outside other with
  | nil => rfl
  | cons call rest ih =>
    have hFirst := h.mail call outside other
    unfold converse
    rcases hOne : transport.mail call outside with ⟨answer, mid⟩
    rcases hTwo : transport.mail call other with ⟨again, last⟩
    rw [hOne, hTwo] at hFirst
    dsimp only at hFirst
    subst hFirst
    cases again with
    | error fault => rfl
    | ok => simp only [ih mid last]

theorem holdSession_steady (h : transport.Steady) (account : MailAccount) (host : String)
    (message : MailMessage) (outside other : β) :
    (holdSession transport account host message other).1 =
      (holdSession transport account host message outside).1 := by
  have hFirst := h.mail (.connect host account.port) outside other
  unfold holdSession
  dsimp only
  rcases hOne : transport.mail (.connect host account.port) outside with ⟨answer, mid⟩
  rcases hTwo : transport.mail (.connect host account.port) other with ⟨again, last⟩
  rw [hOne, hTwo] at hFirst
  dsimp only at hFirst
  subst hFirst
  cases again with
  | error fault => rfl
  | ok =>
    have hTalk := converse_steady h (account.calls message) mid last
    dsimp only
    rcases hOneEnd : converse transport (account.calls message) mid with ⟨⟨made, fault⟩, closing⟩
    rcases hTwoEnd : converse transport (account.calls message) last with ⟨talk, late⟩
    rw [hOneEnd, hTwoEnd] at hTalk
    dsimp only at hTalk
    subst hTalk
    have hQuit := h.mail .quit closing late
    dsimp only
    rw [hQuit]

theorem steady_mail (h : transport.Steady) (account : MailAccount) :
    (mail transport account).Steady := by
  have hSend : ∀ ctx notification config addresses,
      (sendMail transport account ctx notification config addresses).Steady := by
    intro ctx notification config addresses
    refine (Task.steady_ofExcept _).bind ?_
    rintro _ ⟨host, message⟩ _
    refine (Task.steady_ask (holdSession_steady h account host message)).bind fun _ session _ => ?_
    refine (Task.steady_deliver _).bind fun _ _ _ => ?_
    split
    · exact Task.steady_log _
    · exact Task.steady_throw _
  constructor
  · intro ctx notification config
    exact (Task.steady_ofPublish _).bind fun _ addresses _ =>
      hSend ctx notification config addresses
  · intro ctx notification config targets
    exact (Task.steady_ofPublish _).bind fun _ addresses _ => hSend ctx notification config _

end Publisher

theorem Registry.steady_standard {transport : Transport β} (h : transport.Steady)
    (settings : Settings) : (standard transport).Steady settings := by
  intro key registration hFound
  rcases standard_find? hFound with ⟨_, rfl⟩ | ⟨_, rfl⟩ | ⟨_, rfl⟩
  · exact steady_always Publisher.steady_console
  · exact steady_always (Publisher.steady_webhook h settings.webhookTimeout)
  · exact steady_always (Publisher.steady_mail h (.ofSettings settings))

end EventDigest
