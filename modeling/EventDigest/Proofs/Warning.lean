import EventDigest.Proofs.Admission

/-! # The warning about the token

The check of the settings warns about a token that is absent or short and says that requests will be
rejected. Admission asks for the expected token whatever its length, so the warning tells the truth
about an absent token only: a short one is let in as any other.
-/
set_option autoImplicit false
namespace EventDigest

namespace Text

/-- No character is lost in lower case. -/
theorem length_le_lowerAfter (before s : List Char) : s.length ≤ (lowerAfter before s).length := by
  induction s generalizing before with
  | nil => exact Nat.zero_le _
  | cons c rest ih =>
    have hRest := ih (c :: before)
    have hImage : 0 < (lowerChar c).length := List.length_pos_iff.mpr (lowerChar_ne_nil c)
    rw [lowerAfter, List.length_append, List.length_cons]
    split
    · rw [List.length_singleton]
      omega
    · omega

theorem length_le_lower (s : String) : s.length ≤ (lower s).length := by
  rw [lower, String.length_ofList, ← String.length_toList]
  exact length_le_lowerAfter [] s.toList

end Text

namespace Auth

/-- The tokens that are well known are short, so the length decides alone. -/
theorem isWeak_iff (token : Option String) :
    isWeak token = true ↔ (Text.trim (token.getD "")).length < leastLength := by
  have hKnown : ∀ word ∈ wellKnown, word.length < leastLength := by decide
  simp only [isWeak, Bool.or_eq_true, decide_eq_true_eq, List.contains_iff_mem]
  constructor
  · rintro ((hEmpty | hShort) | hWord)
    · rw [hEmpty]
      decide
    · exact hShort
    · exact Nat.lt_of_le_of_lt (Text.length_le_lower _) (hKnown _ hWord)
  · exact fun hShort => .inl (.inr hShort)

end Auth

namespace Settings

def tokenWarning : Entry :=
  .warning checkLogger "SN_AUTH_TOKEN is weak or missing; API requests will be rejected."

/-- The warning is given when the check is on and the expected token is short. -/
theorem tokenWarning_mem_check_iff (zones : Time.Zones) (env : Environment) (settings : Settings) :
    tokenWarning ∈ (check zones env settings).2 ↔
      Auth.isOff env = false ∧ (Auth.expectedToken env).length < Auth.leastLength := by
  have hInfo : ∀ message, tokenWarning ≠ .info checkLogger message :=
    fun _ h => Severity.noConfusion (congrArg Entry.severity h)
  have hError : ∀ message, tokenWarning ≠ .error checkLogger message :=
    fun _ h => Severity.noConfusion (congrArg Entry.severity h)
  have hWeak := Auth.isWeak_iff (Fields.get? env "SN_AUTH_TOKEN")
  have hToken : ∀ host zone : Journal, tokenWarning ∉ host → tokenWarning ∉ zone →
      (tokenWarning ∈ (if !Auth.isOff env && Auth.isWeak (Fields.get? env "SN_AUTH_TOKEN") then
          [tokenWarning] else []) ++ host ++ zone ↔
        Auth.isOff env = false ∧ (Auth.expectedToken env).length < Auth.leastLength) := by
    intro host zone hHost hZone
    rw [List.append_assoc, List.mem_append, or_iff_left (by simp [hHost, hZone]),
      Auth.expectedToken, ← hWeak]
    cases Auth.isOff env <;> cases Auth.isWeak (Fields.get? env "SN_AUTH_TOKEN") <;> simp
  have hHost : tokenWarning ∉ (if settings.mailHost.getD "" = "" then
      [Entry.info checkLogger
        "SMTP_HOST not set; email publisher deliveries will fail until configured."] else []) := by
    split
    · rw [List.mem_singleton]
      exact hInfo _
    · exact List.not_mem_nil
  unfold check
  dsimp only
  split
  · have hNone := hToken _ [] hHost List.not_mem_nil
    rwa [List.append_nil] at hNone
  · refine hToken _ _ hHost ?_
    rw [List.mem_singleton]
    exact hError _

end Settings

namespace Auth

/-- Where a token is expected, the header that carries it as it is configured is not denied. -/
theorem exists_header_not_denied {env : Environment} (h : expectedToken env ≠ "") :
    ∃ authorization, ∀ denial, verdict env authorization ≠ .ok (some denial) := by
  refine ⟨some ("Bearer" ++ " " ++ (Fields.get? env "SN_AUTH_TOKEN").getD ""), ?_⟩
  have hPresents : Presents
      (some ("Bearer" ++ " " ++ (Fields.get? env "SN_AUTH_TOKEN").getD "")) (expectedToken env) :=
    ⟨"Bearer", _, rfl, by decide, rfl, h⟩
  intro denial hDenied
  cases hOff : isOff env with
  | true =>
    rw [verdict_of_off hOff] at hDenied
    cases hDenied
  | false =>
    by_cases hTokens : Incomparable (expectedToken env) (expectedToken env)
    · rw [verdict_of_incomparable hOff hPresents hTokens] at hDenied
      cases hDenied
    · rw [verdict_of_comparable hOff hPresents hTokens, if_pos rfl] at hDenied
      cases hDenied

/-- Where the check warns about the token, every header is denied only if there is no token at all;
a token that is merely short is let in, or breaks the check when it is not ASCII. -/
theorem denies_all_iff_of_warned {zones : Time.Zones} {env : Environment} {settings : Settings}
    (hWarned : Settings.tokenWarning ∈ (settings.check zones env).2) :
    (expectedToken env).length < leastLength ∧
      ((∀ authorization, ∃ denial, verdict env authorization = .ok (some denial)) ↔
        expectedToken env = "") ∧
      ∀ authorization,
        (verdict env authorization = .ok none ↔
          Presents authorization (expectedToken env) ∧ isAscii (expectedToken env) = true) ∧
        ∀ fault, verdict env authorization = .error fault ↔ fault = .tokenNotAscii ∧
          ∃ token, Presents authorization token ∧ Incomparable token (expectedToken env) := by
  obtain ⟨hOn, hShort⟩ := (Settings.tokenWarning_mem_check_iff zones env settings).mp hWarned
  have hAdmitted : ∀ authorization, verdict env authorization = .ok none ↔
      Presents authorization (expectedToken env) ∧ isAscii (expectedToken env) = true := by
    intro authorization
    rw [verdict_eq_admitted_iff, hOn]
    simp
  have hBroken : ∀ authorization fault, verdict env authorization = .error fault ↔
      fault = .tokenNotAscii ∧
        ∃ token, Presents authorization token ∧ Incomparable token (expectedToken env) := by
    intro authorization fault
    rw [verdict_eq_error_iff, and_iff_right hOn]
  refine ⟨hShort, ⟨?_, ?_⟩, fun authorization => ⟨hAdmitted authorization, hBroken authorization⟩⟩
  · intro hAll
    by_contra hToken
    obtain ⟨authorization, hNone⟩ := exists_header_not_denied hToken
    obtain ⟨denial, hDenied⟩ := hAll authorization
    exact hNone denial hDenied
  · intro hToken authorization
    rcases hVerdict : verdict env authorization with fault | _ | denial
    · obtain ⟨_, _, _, hExpected, _⟩ := (hBroken authorization fault).mp hVerdict
      exact (hExpected hToken).elim
    · obtain ⟨⟨_, _, _, _, _, hExpected⟩, _⟩ := (hAdmitted authorization).mp hVerdict
      exact (hExpected hToken).elim
    · exact ⟨denial, rfl⟩

namespace Sample

/-- What the check of standard settings reports about a token. -/
def reported (token : String) : Journal :=
  (Settings.standard.check .universal (guardedBy token)).2

end Sample

theorem denies_all_iff_of_warned_at_two_tokens :
    Settings.tokenWarning ∈ Sample.reported " " ∧
      (∀ authorization, ∃ denial,
        verdict (Sample.guardedBy " ") authorization = .ok (some denial)) ∧
      Settings.tokenWarning ∈ Sample.reported "changeme" ∧
      verdict (Sample.guardedBy "changeme") (some "bearer changeme") = .ok none := by
  have hBlank : Settings.tokenWarning ∈ Sample.reported " " :=
    (Settings.tokenWarning_mem_check_iff _ _ _).mpr (by decide +kernel)
  have hKnown : Settings.tokenWarning ∈ Sample.reported "changeme" :=
    (Settings.tokenWarning_mem_check_iff _ _ _).mpr (by decide +kernel)
  refine ⟨hBlank, ?_, hKnown, ?_⟩
  · rw [Sample.reported] at hBlank
    exact (denies_all_iff_of_warned hBlank).2.1.mpr (by decide +kernel)
  · rw [Sample.reported] at hKnown
    exact (((denies_all_iff_of_warned hKnown).2.2 _).1).mpr
      ⟨⟨"bearer", "changeme", by decide +kernel⟩, by decide +kernel⟩

/-- The check announces that requests will be rejected, and the weakest token is let in. -/
theorem weak_token_admitted :
    Settings.tokenWarning ∈ Sample.reported "demo-token" ∧
      verdict (Sample.guardedBy "demo-token") (some "Bearer demo-token") = .ok none :=
  ⟨(Settings.tokenWarning_mem_check_iff _ _ _).mpr (by decide +kernel), by decide +kernel⟩

end Auth

end EventDigest
