import EventDigest.Proofs.Errands
import EventDigest.Proofs.Groups

/-! # Headers of a mail

A header holds no line boundary. The subject of a mail shows the prefix of the configuration and the
name of the rule, so a mail can be written when these two stay on one line and its addresses can be
read; a mail or a request that fails for any other reason fails its group.
-/
set_option autoImplicit false
namespace EventDigest
open Time

namespace Text

/-- Nowhere in the text a line ends. -/
def OneLine (s : String) : Prop := ∀ c ∈ s.toList, isLineBoundary c = false

instance (s : String) : Decidable (OneLine s) :=
  List.decidableBAll (fun c => isLineBoundary c = false) s.toList

theorem oneLine_append_iff (s t : String) : OneLine (s ++ t) ↔ OneLine s ∧ OneLine t := by
  simp only [OneLine, String.toList_append, List.mem_append, or_imp, forall_and]

theorem isLineBoundary_of_isDigit {c : Char} (h : c.isDigit = true) :
    isLineBoundary c = false := by
  simp only [Char.isDigit, ge_iff_le, Bool.and_eq_true, decide_eq_true_eq, UInt32.le_iff_toNat_le]
    at h
  have hBounds : 48 ≤ c.toNat ∧ c.toNat ≤ 57 := h
  simp only [isLineBoundary, Bool.or_eq_false_iff, Bool.and_eq_false_iff, decide_eq_false_iff_not,
    beq_eq_false_iff_ne]
  omega

theorem oneLine_toString (n : Int) : OneLine (toString n) := by
  have hDigits : ∀ m : Nat, OneLine m.repr := by
    intro m c hc
    rw [Nat.toList_repr] at hc
    exact isLineBoundary_of_isDigit (Nat.isDigit_of_mem_toDigits (by decide) (by decide) hc)
  cases n with
  | ofNat m => exact hDigits m
  | negSucc m => exact (oneLine_append_iff _ _).mpr ⟨by decide, hDigits _⟩

theorem mem_of_mem_trimmed {s : List Char} {c : Char} (h : c ∈ trimmed s) : c ∈ s := by
  have hBehind := (List.dropWhile_sublist _).mem (List.mem_reverse.mp h)
  exact (List.dropWhile_sublist _).mem (List.mem_reverse.mp hBehind)

theorem oneLine_trim {s : String} (h : OneLine s) : OneLine (trim s) := by
  intro c hc
  rw [trim, String.toList_ofList] at hc
  exact h c (mem_of_mem_trimmed hc)

theorem spansLines_eq_false {s : List Char} (h : ∀ c ∈ s, isLineBoundary c = false) :
    spansLines s = false := by
  induction s using spansLines.induct with
  | case1 => rfl
  | case2 rest => exact absurd (h '\r' (List.mem_cons_self ..)) (by decide)
  | case3 c rest hReturn hBoundary =>
    rw [h c (List.mem_cons_self ..)] at hBoundary
    cases hBoundary
  | case4 c rest hReturn hOther ih =>
    rw [spansLines, if_neg hOther]
    · exact ih fun d hd => h d (List.mem_cons_of_mem _ hd)
    · exact hReturn

end Text

namespace Notification

/-- The title of a digest shows the name of its rule and nothing else that could end a line. -/
theorem oneLine_title {ruleName scope : String} {digest : Digest} {now : Stamp}
    {zone : Zone} {n : Notification}
    (h : announce ruleName scope digest now zone = .ok n) (hName : Text.OneLine ruleName) :
    Text.OneLine n.title := by
  obtain ⟨⟨titleNoun, leadNoun⟩, hNouns, hTitle⟩ := title_of_announce h
  have hNoun : Text.OneLine titleNoun := by
    cases hGroup : digest.group with
    | other name =>
      rw [hGroup] at hNouns
      cases hNouns
    | _ =>
      rw [hGroup] at hNouns
      obtain ⟨rfl, _⟩ := Prod.mk.inj (Option.some.inj hNouns)
      decide
  have hNew : Text.OneLine " new " := by decide
  have hIn : Text.OneLine " in " := by decide
  have hComponents : Text.OneLine "component(s) in Scheduled Rule '" := by decide
  rw [hTitle, titleText]
  simp only [Text.oneLine_append_iff]
  exact ⟨⟨⟨⟨⟨⟨Text.oneLine_toString _, hNew⟩, hNoun⟩, hIn⟩, Text.oneLine_toString _⟩, by decide⟩,
    ⟨hComponents, hName⟩, by decide⟩

end Notification

namespace Publisher

/-- A request that cannot be made fails its group. -/
theorem webhookRequest_merged {timeout : Json} {ctx : Context} {n : Notification} {d : Descriptor}
    {config : Config} {fault : Fault}
    (h : webhookRequest timeout ctx n (config.merged d) = .error fault) :
    ∃ reason, fault = .publish reason := by
  obtain ⟨contentType, hContentType⟩ := config.contentType_merged d
  obtain ⟨body, hBody⟩ := config.renderBody_merged d n
  rcases Answer.bind_eq_error_iff.mp h with h | ⟨url, _, h⟩
  · obtain ⟨reason, _, rfl⟩ := Answer.mapError_eq_error_iff.mp h
    exact ⟨reason, rfl⟩
  · dsimp only at h
    split at h
    · cases h
      exact ⟨_, rfl⟩
    · rcases Answer.bind_eq_error_iff.mp h with h | ⟨_, _, h⟩
      · rw [hContentType] at h
        cases h
      · rcases Answer.bind_eq_error_iff.mp h with h | ⟨_, _, h⟩
        · rw [hBody] at h
          cases h
        · rcases Answer.bind_eq_error_iff.mp h with h | ⟨_, _, h⟩
          · obtain ⟨reason, _, rfl⟩ := Answer.mapError_eq_error_iff.mp h
            exact ⟨reason, rfl⟩
          · cases h

/-- A header of a mail that cannot show what it has to. -/
inductive UnfitHeader (account : MailAccount) (title subjectStart : String)
    (recipients : List String) : Fault → Prop
  | subject (hBreak : ¬(Text.OneLine subjectStart ∧ Text.OneLine title)) :
    UnfitHeader account title subjectStart recipients .headerLineBreak
  | sender (fault : Fault) (hSender : addressHeaderOf account.sender = .error fault) :
    UnfitHeader account title subjectStart recipients fault
  | recipients (fault : Fault)
    (hRecipients : addressHeaderOf (String.intercalate ", " recipients) = .error fault) :
    UnfitHeader account title subjectStart recipients fault

theorem headerOf_subjectOf {subjectStart title : String} {fault : Fault}
    (h : headerOf (subjectOf subjectStart title) = .error fault) :
    fault = .headerLineBreak ∧ ¬(Text.OneLine subjectStart ∧ Text.OneLine title) := by
  unfold headerOf at h
  split at h
  · rename_i hBreak
    cases h
    refine ⟨rfl, ?_⟩
    rintro ⟨hStart, hTitle⟩
    have hGap : Text.OneLine " " := by decide
    have hSubject : Text.OneLine (subjectOf subjectStart title) := by
      refine Text.oneLine_trim ?_
      simp only [Text.oneLine_append_iff]
      exact ⟨⟨hStart, hGap⟩, hTitle⟩
    rw [Text.spansLines_eq_false hSubject] at hBreak
    cases hBreak
  · cases h

theorem composeMail_merged {account : MailAccount} {ctx : Context} {n : Notification}
    {d : Descriptor} {config : Config} {addresses : List String} {fault : Fault}
    (h : composeMail account ctx n (config.merged d) addresses = .error fault) :
    (∃ reason, fault = .publish reason) ∨
      ∃ subjectStart, config.textField Key.subjectPrefix = .ok subjectStart ∧
        UnfitHeader account n.title subjectStart (recipientsOf addresses) fault := by
  obtain ⟨content, hContent⟩ := config.mailContent_merged d n
  unfold composeMail at h
  dsimp only at h
  split at h
  · cases h
    exact .inl ⟨_, rfl⟩
  · split at h
    · cases h
      exact .inl ⟨_, rfl⟩
    · rw [Config.textField_merged d config (by decide) (by decide)] at h
      rcases Answer.bind_eq_error_iff.mp h with h | ⟨subjectStart, hSubjectStart, h⟩
      · obtain ⟨reason, _, rfl⟩ := Answer.mapError_eq_error_iff.mp h
        exact .inl ⟨reason, rfl⟩
      · refine .inr ⟨subjectStart, Answer.mapError_eq_ok_iff.mp hSubjectStart, ?_⟩
        rcases Answer.bind_eq_error_iff.mp h with hSubject | ⟨_, _, h⟩
        · obtain ⟨rfl, hBreak⟩ := headerOf_subjectOf hSubject
          exact .subject hBreak
        · rcases Answer.bind_eq_error_iff.mp h with hSender | ⟨_, _, h⟩
          · exact .sender fault hSender
          · rcases Answer.bind_eq_error_iff.mp h with hRecipients | ⟨_, _, h⟩
            · exact .recipients fault hRecipients
            · rcases Answer.bind_eq_error_iff.mp h with h | ⟨_, _, h⟩
              · rw [hContent] at h
                cases h
              · cases h

end Publisher

end EventDigest
