import EventDigest.Proofs.Errands

/-! # Attempts to deliver

An attempt is one use of the transport: a posted request, or one mail session from its opening on.
A session opens one connection, hands over at most one message and stops at the first call that
fails. Whether an attempt succeeded is read off what the transport answered.
-/
set_option autoImplicit false
namespace EventDigest
variable {β : Type}

/-- A call of a mail session with what it answered. -/
structure Exchange where
  call : MailCall
  answer : Except Fault Unit

inductive Attempt
  | request (request : HttpRequest) (answer : Except Fault HttpResponse)
  | session (transcript : List Exchange)

namespace MailCall

def isConnect : MailCall → Bool
  | connect _ _ => true
  | _ => false

def isSend : MailCall → Bool
  | send _ => true
  | _ => false

end MailCall

def Exchange.passed (call : MailCall) : Exchange := ⟨call, .ok ()⟩

/-- The message that the exchange handed over, if it did. -/
def Exchange.accepted? : Exchange → Option MailMessage
  | ⟨.send message, .ok ()⟩ => some message
  | _ => none

namespace Attempt

/-- The request was answered with a status from 200 to 299, or the server accepted the message. -/
def Succeeded : Attempt → Prop
  | request _ (.ok response) => 200 ≤ response.status ∧ response.status ≤ 299
  | request _ (.error _) => False
  | session transcript => ∃ message, ⟨.send message, .ok ()⟩ ∈ transcript

/-- What the desk records of an attempt. -/
def delivery : Attempt → Delivery
  | .request sent _ => .http sent
  | .session transcript =>
    .mail (transcript.map (·.call)) (transcript.findSome? (·.accepted?))

end Attempt

namespace Transport

/-- The calls of the transcript were made one after another and so answered. -/
inductive Holds (transport : Transport β) : List Exchange → β → β → Prop
  | silent (outside : β) : Holds transport [] outside outside
  | said (call : MailCall) (answer : Except Fault Unit) (rest : List Exchange)
    (before mid after : β) (hCall : transport.mail call before = (answer, mid))
    (hRest : Holds transport rest mid after) :
    Holds transport (⟨call, answer⟩ :: rest) before after

theorem Holds.append {transport : Transport β} {first second : List Exchange} {before mid after : β}
    (h₁ : transport.Holds first before mid) (h₂ : transport.Holds second mid after) :
    transport.Holds (first ++ second) before after := by
  induction h₁ with
  | silent outside => exact h₂
  | said call answer rest before mid after hCall _ ih =>
    exact .said call answer _ before mid _ hCall (ih h₂)

theorem Holds.last {transport : Transport β} {first : List Exchange} {call : MailCall}
    {answer : Except Fault Unit} {before after : β}
    (h : transport.Holds (first ++ [⟨call, answer⟩]) before after) :
    ∃ mid, transport.mail call mid = (answer, after) := by
  induction first generalizing before with
  | nil =>
    cases h with
    | said _ _ _ _ mid _ hCall hRest =>
      cases hRest
      exact ⟨before, hCall⟩
  | cons exchange rest ih =>
    cases h with
    | said _ _ _ _ mid _ _ hRest => exact ih hRest

/-- A server that accepted a message lets the session be left. -/
def Leaves (transport : Transport β) : Prop :=
  ∀ message before after, transport.mail (.send message) before = (.ok (), after) →
    (transport.mail .quit after).1 = .ok ()

/-- The attempt was made once, and so answered. A session opens one connection and hands over at
most one message. -/
inductive Makes (transport : Transport β) : Attempt → β → β → Prop
  | request (request : HttpRequest) (answer : Except Fault HttpResponse) (before after : β)
    (hPost : transport.post request before = (answer, after)) :
    Makes transport (.request request answer) before after
  | session (transcript : List Exchange) (before after : β)
    (hHolds : transport.Holds transcript before after)
    (hConnects : transcript.countP (·.call.isConnect) = 1)
    (hSends : transcript.countP (·.call.isSend) ≤ 1) :
    Makes transport (.session transcript) before after

/-- The attempts were made one after another. -/
inductive MakesAll (transport : Transport β) : List Attempt → β → β → Prop
  | none (outside : β) : MakesAll transport [] outside outside
  | more (attempt : Attempt) (rest : List Attempt) (before mid after : β)
    (hFirst : transport.Makes attempt before mid) (hRest : MakesAll transport rest mid after) :
    MakesAll transport (attempt :: rest) before after

theorem MakesAll.append {transport : Transport β} {first second : List Attempt}
    {before mid after : β} (h₁ : transport.MakesAll first before mid)
    (h₂ : transport.MakesAll second mid after) :
    transport.MakesAll (first ++ second) before after := by
  induction h₁ with
  | none outside => exact h₂
  | more attempt rest before mid after hFirst _ ih =>
    exact .more attempt _ before mid _ hFirst (ih h₂)

end Transport

/-- Between two desks the attempts were made in order, and nothing else left the system. -/
structure Desk.Uses (transport : Transport β) (attempts : List Attempt) (before after : Desk β) :
    Prop where
  deliveries : after.deliveries = before.deliveries ++ attempts.map (·.delivery)
  made : transport.MakesAll attempts before.outside after.outside

namespace Desk
variable {transport : Transport β} {before mid after : Desk β}

theorem Idle.uses (h : before.Idle after) : Uses transport [] before after where
  deliveries := by rw [h.deliveries, List.map_nil, List.append_nil]
  made := h.outside ▸ .none _

theorem Uses.append {first second : List Attempt} (h₁ : Uses transport first before mid)
    (h₂ : Uses transport second mid after) : Uses transport (first ++ second) before after where
  deliveries := by rw [h₂.deliveries, h₁.deliveries, List.map_append, List.append_assoc]
  made := h₁.made.append h₂.made

theorem Uses.trans_idle {attempts : List Attempt} (h : Uses transport attempts before mid)
    (hIdle : mid.Idle after) : Uses transport attempts before after where
  deliveries := hIdle.deliveries.trans h.deliveries
  made := hIdle.outside ▸ h.made

theorem Idle.trans_uses {attempts : List Attempt} (hIdle : before.Idle mid)
    (h : Uses transport attempts mid after) : Uses transport attempts before after where
  deliveries := hIdle.deliveries ▸ h.deliveries
  made := hIdle.outside ▸ h.made

theorem Uses.of_makes {attempt : Attempt}
    (hDeliveries : after.deliveries = before.deliveries ++ [attempt.delivery])
    (hMakes : transport.Makes attempt before.outside after.outside) :
    Uses transport [attempt] before after :=
  ⟨hDeliveries, .more _ _ _ _ _ hMakes (.none _)⟩

end Desk

namespace Publisher

/-- A conversation takes place up to its end, or up to the first call that fails. -/
inductive Conversed (calls : List MailCall) : List Exchange → Option Fault → Prop
  | through : Conversed calls (calls.map Exchange.passed) none
  | broken (said unsaid : List MailCall) (call : MailCall) (fault : Fault)
    (hCalls : calls = said ++ call :: unsaid) :
    Conversed calls (said.map Exchange.passed ++ [⟨call, .error fault⟩]) (some fault)

theorem conversed_converse (transport : Transport β) (calls : List MailCall) (outside : β) :
    ∃ transcript, transport.Holds transcript outside (converse transport calls outside).2 ∧
      (converse transport calls outside).1.1 = transcript.map (·.call) ∧
      Conversed calls transcript (converse transport calls outside).1.2 := by
  induction calls generalizing outside with
  | nil => exact ⟨[], .silent _, rfl, .through⟩
  | cons call rest ih =>
    rw [converse]
    rcases hCall : transport.mail call outside with ⟨fault | u, mid⟩
    · exact ⟨[⟨call, .error fault⟩], .said _ _ _ _ _ _ hCall (.silent _), rfl,
        .broken [] rest call fault rfl⟩
    · obtain ⟨transcript, hHolds, hMade, hConversed⟩ := ih mid
      refine ⟨.passed call :: transcript, .said _ _ _ _ _ _ hCall hHolds, ?_, ?_⟩
      · rw [List.map_cons, ← hMade]
        rfl
      · dsimp only
        generalize (converse transport rest mid).1.2 = fault? at hConversed
        cases hConversed with
        | through => exact .through
        | broken said unsaid other fault hCalls =>
          exact .broken (call :: said) unsaid other fault (by rw [hCalls]; rfl)

/-- How far the transcript of a conversation got. -/
theorem Conversed.prefix {calls : List MailCall} {transcript : List Exchange}
    {fault? : Option Fault} (h : Conversed calls transcript fault?) :
    transcript.map (·.call) <+: calls := by
  have hPassed : ∀ said : List MailCall, (said.map Exchange.passed).map (·.call) = said := by
    intro said
    rw [List.map_map]
    exact List.map_id said
  cases h with
  | through => exact ⟨[], by rw [hPassed, List.append_nil]⟩
  | broken said unsaid call fault hCalls =>
    rw [List.map_append, hPassed, hCalls]
    exact ⟨unsaid, by simp⟩

/-- A message that is handed over last is accepted when nothing failed, and only then. -/
theorem Conversed.accepted {calls : List MailCall} {message : MailMessage}
    {transcript : List Exchange} {fault? : Option Fault}
    (hQuiet : ∀ call ∈ calls, call.isSend = false)
    (h : Conversed (calls ++ [.send message]) transcript fault?) :
    transcript.findSome? (·.accepted?) = if fault?.isNone then some message else none := by
  have hPassed : ∀ said : List MailCall, (∀ call ∈ said, call.isSend = false) →
      (said.map Exchange.passed).findSome? (·.accepted?) = none := by
    intro said hSaid
    rw [List.findSome?_eq_none_iff]
    intro exchange hMem
    obtain ⟨call, hCall, rfl⟩ := List.mem_map.mp hMem
    have hOther := hSaid call hCall
    cases call with
    | send => cases hOther
    | _ => rfl
  cases h with
  | through =>
    rw [List.map_append, List.findSome?_append, hPassed calls hQuiet]
    rfl
  | broken said unsaid call fault hCalls =>
    -- What was said before the break ends before the message, so it hands nothing over.
    have hWhole : said ≠ calls ++ [.send message] := by
      rintro rfl
      simpa using congrArg List.length hCalls
    have hSaid : said <+: calls :=
      (List.prefix_concat_iff.mp ⟨call :: unsaid, hCalls.symm⟩).resolve_left hWhole
    have hFailed : Exchange.accepted? ⟨call, .error fault⟩ = none := by
      cases call <;> rfl
    rw [List.findSome?_append, hPassed said fun call hCall => hQuiet call (hSaid.mem hCall),
      List.findSome?_singleton, hFailed]
    rfl

/-- A session is refused, or it opens, takes its course and is left. -/
inductive Proceeds (transport : Transport β) (account : MailAccount) (host : String)
    (message : MailMessage) (outside after : β) : MailSession → Prop
  | refused (fault : Fault)
    (hOpening : transport.mail (.connect host account.port) outside = (.error fault, after)) :
    Proceeds transport account host message outside after
      ⟨[.connect host account.port], false, some fault⟩
  | opened (mid late : β) (transcript : List Exchange) (fault? : Option Fault)
    (closing : Except Fault Unit)
    (hOpening : transport.mail (.connect host account.port) outside = (.ok (), mid))
    (hHolds : transport.Holds transcript mid late)
    (hConversed : Conversed (account.calls message) transcript fault?)
    (hQuit : transport.mail .quit late = (closing, after)) (closingFault : Option Fault)
    (hClosing : ∀ fault, closingFault = some fault ↔ closing = .error fault) :
    Proceeds transport account host message outside after
      ⟨.connect host account.port :: transcript.map (·.call) ++ [.quit], fault?.isNone,
        closingFault.or fault?⟩

theorem proceeds_holdSession (transport : Transport β) (account : MailAccount) (host : String)
    (message : MailMessage) (outside : β) :
    Proceeds transport account host message outside
      (holdSession transport account host message outside).2
      (holdSession transport account host message outside).1 := by
  rcases hOpening : transport.mail (.connect host account.port) outside with ⟨fault | u, mid⟩
  · simp only [holdSession, hOpening]
    exact .refused fault hOpening
  · obtain ⟨transcript, hHolds, hMade, hConversed⟩ :=
      conversed_converse transport (account.calls message) mid
    rcases hConverse : converse transport (account.calls message) mid with ⟨⟨made, fault?⟩, late⟩
    rw [hConverse] at hHolds hMade hConversed
    dsimp only at hMade
    subst hMade
    rcases hQuit : transport.mail .quit late with ⟨fault | u, after⟩
    · simp only [holdSession, hOpening, hConverse, hQuit]
      exact .opened mid late transcript fault? _ hOpening hHolds hConversed hQuit _ (by simp)
    · simp only [holdSession, hOpening, hConverse, hQuit]
      exact .opened mid late transcript fault? _ hOpening hHolds hConversed hQuit _ (by simp)

/-- The message is handed over once, at the end of the calls. -/
theorem MailAccount.calls_eq (account : MailAccount) (message : MailMessage) :
    ∃ first, account.calls message = first ++ [.send message] ∧
      ∀ call ∈ first, call.isSend = false ∧ call.isConnect = false := by
  refine ⟨_, rfl, ?_⟩
  intro call hCall
  rcases List.mem_append.mp hCall with hCall | hCall
  · rcases List.mem_cons.mp hCall with rfl | hCall
    · exact ⟨rfl, rfl⟩
    · split at hCall
      · rw [List.mem_cons, List.mem_singleton] at hCall
        rcases hCall with rfl | rfl
        · exact ⟨rfl, rfl⟩
        · exact ⟨rfl, rfl⟩
      · cases hCall
  · split at hCall
    · obtain rfl := List.mem_singleton.mp hCall
      exact ⟨rfl, rfl⟩
    · cases hCall

theorem MailAccount.count_calls (account : MailAccount) (message : MailMessage) :
    (account.calls message).countP MailCall.isConnect = 0 ∧
      (account.calls message).countP MailCall.isSend = 1 := by
  obtain ⟨first, hCalls, hFirst⟩ := account.calls_eq message
  have hNone : first.countP MailCall.isConnect = 0 ∧ first.countP MailCall.isSend = 0 := by
    constructor
    · exact List.countP_eq_zero.mpr fun call hCall => by simp [hFirst call hCall]
    · exact List.countP_eq_zero.mpr fun call hCall => by simp [hFirst call hCall]
  rw [hCalls, List.countP_append, List.countP_append, hNone.1, hNone.2]
  exact ⟨rfl, rfl⟩

section
variable {transport : Transport β} {account : MailAccount} {host : String} {message : MailMessage}
  {outside after : β} {session : MailSession}

/-- A session is one attempt, and it succeeds when the message is accepted. -/
theorem Proceeds.exists_transcript
    (h : Proceeds transport account host message outside after session) :
    ∃ transcript, transport.Makes (.session transcript) outside after ∧
      session.calls = transcript.map (·.call) ∧
      transcript.findSome? (·.accepted?) = if session.accepted then some message else none := by
  cases h with
  | refused fault hOpening =>
    exact ⟨[⟨_, .error fault⟩], .session _ _ _ (.said _ _ _ _ _ _ hOpening (.silent _)) rfl
      (Nat.zero_le _), rfl, rfl⟩
  | opened mid late transcript fault? closing hOpening hHolds hConversed hQuit =>
    obtain ⟨hNoConnect, hOneSend⟩ := account.count_calls message
    have hCount : ∀ p : MailCall → Bool,
        transcript.countP (p ∘ (·.call)) ≤ (account.calls message).countP p := by
      intro p
      rw [← List.countP_map]
      exact hConversed.prefix.sublist.countP_le
    have hConnects := hCount MailCall.isConnect
    have hSends := hCount MailCall.isSend
    rw [hNoConnect, Nat.le_zero] at hConnects
    rw [hOneSend] at hSends
    obtain ⟨first, hCalls, hFirst⟩ := account.calls_eq message
    rw [hCalls] at hConversed
    have hAccepted := hConversed.accepted fun call hCall => (hFirst call hCall).1
    refine ⟨⟨.connect host account.port, .ok ()⟩ :: transcript ++ [⟨.quit, closing⟩],
      .session _ _ _ ?_ ?_ ?_, ?_, ?_⟩
    · exact .said _ _ _ _ _ _ hOpening (hHolds.append (.said _ _ _ _ _ _ hQuit (.silent _)))
    · rw [List.cons_append, List.countP_cons, List.countP_append]
      exact congrArg (· + 0 + 1) hConnects
    · rw [List.cons_append, List.countP_cons, List.countP_append]
      exact hSends
    · rw [List.map_append, List.map_cons]
      rfl
    · rw [List.cons_append, List.findSome?_cons_of_isNone (by rfl), List.findSome?_append,
        hAccepted]
      cases fault? <;> rfl

/-- Where an accepted session can be left, its fault tells whether the message was accepted. -/
theorem Proceeds.fault_eq_none_iff (hLeaves : transport.Leaves)
    (h : Proceeds transport account host message outside after session) :
    session.fault = none ↔ session.accepted = true := by
  cases h with
  | refused fault hOpening => simp
  | opened mid late transcript fault? closing _ hHolds hConversed hQuit closingFault hClosing =>
    cases hConversed with
    | broken said unsaid call fault => simp
    | through =>
      obtain ⟨first, hCalls, _⟩ := account.calls_eq message
      rw [hCalls, List.map_append] at hHolds
      obtain ⟨prior, hSend⟩ := hHolds.last
      have hLeft := hLeaves message prior late hSend
      rw [hQuit] at hLeft
      have hNone : closingFault = none := by
        rw [Option.eq_none_iff_forall_ne_some]
        intro fault hFault
        rw [(hClosing fault).mp hFault] at hLeft
        cases hLeft
      rw [hNone]
      exact iff_of_true rfl rfl

end

theorem MailSession.reported?_eq_none_iff (session : MailSession) :
    session.reported? = none ↔ session.fault = none :=
  Option.map_eq_none_iff

theorem isAccepted_iff (status : Int) : isAccepted status = true ↔ 200 ≤ status ∧ status ≤ 299 := by
  rw [isAccepted, decide_eq_true_eq, Int.fdiv_eq_ediv_of_nonneg status (by decide)]
  omega

theorem requestFault?_eq_none_iff (request : HttpRequest) (answer : Except Fault HttpResponse) :
    requestFault? request.url answer = none ↔ (Attempt.request request answer).Succeeded := by
  cases answer with
  | error fault => simp [requestFault?, Attempt.Succeeded]
  | ok response => simp [requestFault?, Attempt.Succeeded, isAccepted_iff]

end Publisher

theorem Answer.ofFault?_eq_ok_iff {ε : Type} (fault? : Option ε) :
    Answer.ofFault? fault? = .ok () ↔ fault? = none := by
  cases fault? <;> simp [Answer.ofFault?]

theorem Attempt.succeeded_session_iff (transcript : List Exchange) :
    (session transcript).Succeeded ↔ (transcript.findSome? (·.accepted?)).isSome = true := by
  rw [List.findSome?_isSome_iff]
  constructor
  · rintro ⟨message, hMem⟩
    exact ⟨_, hMem, rfl⟩
  · rintro ⟨exchange, hMem, hAccepted⟩
    unfold Exchange.accepted? at hAccepted
    split at hAccepted
    · exact ⟨_, hMem⟩
    · cases hAccepted

end EventDigest
