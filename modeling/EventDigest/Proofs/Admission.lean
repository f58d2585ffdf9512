import EventDigest.Api
import EventDigest.Proofs.Performed

/-! # Admission

The scheme of a header is compared in lower case, and the lower case of a text beyond ASCII never
begins with an ASCII letter of the scheme; so a header presents a token exactly when it is the
scheme in any case, one space and a rest that is not blank. A token is then let in when it is the
expected one and ASCII; two tokens of which one goes beyond ASCII cannot be compared, and the check
itself breaks, on equal tokens too.
-/
set_option autoImplicit false
namespace EventDigest

namespace Text
open CaseTable

theorem runImage_eq_some {runs : List (Nat × Nat × Nat × Nat)} {n image : Nat}
    (h : runImage runs n = some image) :
    ∃ first last stride base, (first, last, stride, base) ∈ runs ∧ n ≤ last ∧
      image = base + (n - first) := by
  obtain ⟨⟨first, last, stride, base⟩, hMem, hRun⟩ := List.exists_of_findSome?_eq_some h
  dsimp only at hRun
  split at hRun
  · rename_i hCovered
    simp only [Bool.and_eq_true, decide_eq_true_eq] at hCovered
    exact ⟨first, last, stride, base, hMem, hCovered.1.2, (Option.some.inj hRun).symm⟩
  · cases hRun

/-- The letter is ASCII, and no character beyond ASCII becomes it in lower case. -/
def OnlyAscii (letter : Char) : Prop :=
  letter.toNat < 128 ∧ ∀ c : Char, 128 ≤ c.toNat → letter ∉ lowerChar c

/-- The tables of the lower case never lead to the code point. -/
def missesTables (n : Nat) : Bool :=
  lowerRuns.all (fun (first, last, _, base) => n < base || base + (last - first) < n) &&
    lowerExpansions.all fun (_, image) => image.all fun m => (Char.ofNat m).toNat ≠ n

theorem toNat_ofNat_of_pos {n : Nat} (h : 0 < (Char.ofNat n).toNat) :
    (Char.ofNat n).toNat = n := by
  by_cases hValid : n.isValidChar
  · have hChar : Char.ofNat n = Char.ofNatAux n hValid := dif_pos hValid
    exact congrArg Char.toNat hChar
  · have hChar : Char.ofNat n = '\x00' := dif_neg hValid
    rw [hChar] at h
    exact absurd h (by decide)

theorem onlyAscii_of_missesTables {letter : Char} (hPos : 0 < letter.toNat)
    (hAscii : letter.toNat < 128) (h : missesTables letter.toNat = true) : OnlyAscii letter := by
  simp only [missesTables, Bool.and_eq_true, decide_eq_true_eq, List.all_eq_true, Bool.or_eq_true]
    at h
  obtain ⟨hRuns, hExpansions⟩ := h
  refine ⟨hAscii, fun c hc hMem => ?_⟩
  rw [lowerChar, if_neg (by omega)] at hMem
  split at hMem
  · rename_i image hLookup
    obtain ⟨m, hm, rfl⟩ := List.mem_map.mp hMem
    obtain ⟨earlier, later, hTable, _⟩ := List.lookup_eq_some_iff.mp hLookup
    exact hExpansions (c.toNat, image) (by simp [hTable]) m hm rfl
  · rw [List.mem_singleton] at hMem
    subst hMem
    cases hImage : runImage lowerRuns c.toNat with
    | none =>
      rw [hImage, Option.map_none, Option.getD_none] at hAscii
      omega
    | some image =>
      obtain ⟨first, last, stride, base, hRun, hLast, rfl⟩ := runImage_eq_some hImage
      rw [hImage, Option.map_some, Option.getD_some] at hPos hAscii hRuns
      have hBounds := hRuns _ hRun
      rw [toNat_ofNat_of_pos hPos] at hAscii hBounds
      dsimp only at hBounds
      omega

theorem onlyAscii_of_mem {word : String}
    (hMisses : ∀ n ∈ word.toList.map Char.toNat, 0 < n ∧ n < 128 ∧ missesTables n = true)
    {c : Char} (hc : c ∈ word.toList) : OnlyAscii c := by
  obtain ⟨hPos, hAscii, hTables⟩ := hMisses c.toNat (List.mem_map_of_mem hc)
  exact onlyAscii_of_missesTables hPos hAscii hTables

theorem toLower_eq_self_of_not_upper {c : Char} (h : c.toNat < 65 ∨ 90 < c.toNat) :
    c.toLower = c := by
  refine dif_neg fun hUpper => ?_
  have hFrom : 65 ≤ c.toNat := UInt32.le_iff_toNat_le.mp hUpper.1
  have hUpTo : c.toNat ≤ 90 := UInt32.le_iff_toNat_le.mp hUpper.2
  omega

theorem toLower_eq_self {c : Char} (h : 128 ≤ c.toNat) : c.toLower = c :=
  toLower_eq_self_of_not_upper (by omega)

theorem eq_space_of_toLower {c : Char} (h : c.toLower = ' ') : c = ' ' := by
  unfold Char.toLower at h
  split at h
  · rename_i hUpper
    have hFrom : 65 ≤ c.val.toNat := UInt32.le_iff_toNat_le.mp hUpper.1
    have hUpTo : c.val.toNat ≤ 90 := UInt32.le_iff_toNat_le.mp hUpper.2
    have hCode : (c.val + ('a'.val - 'A'.val)).toNat = 32 := congrArg Char.toNat h
    have hShift : ('a'.val - 'A'.val).toNat = 32 := by decide
    rw [UInt32.toNat_add] at hCode
    omega
  · exact h

theorem lowerChar_ne_nil (c : Char) : lowerChar c ≠ [] := by
  rw [lowerChar]
  split
  · simp
  · split
    · rename_i image hLookup
      obtain ⟨earlier, later, hTable, _⟩ := List.lookup_eq_some_iff.mp hLookup
      have hImages : ∀ entry ∈ lowerExpansions, entry.2 ≠ [] := by decide
      have hImage := hImages (c.toNat, image) (by simp [hTable])
      simpa using hImage
    · simp

/-- A text that begins beyond ASCII begins with no letter that ASCII alone leads to, in lower case
either. -/
theorem not_isPrefixOf_lowerAfter {letter c : Char} (hLetter : OnlyAscii letter)
    (hc : 128 ≤ c.toNat) (word before s : List Char) :
    ¬(letter :: word).isPrefixOf (lowerAfter before (c :: s)) = true := by
  rw [lowerAfter]
  split
  · have hFinal : letter ≠ 'ς' := by
      rintro rfl
      exact absurd hLetter.1 (by decide)
    have hSmall : letter ≠ 'σ' := by
      rintro rfl
      exact absurd hLetter.1 (by decide)
    simp only [List.cons_append, List.isPrefixOf, Bool.and_eq_true, beq_iff_eq]
    grind
  · obtain ⟨d, more, hImage⟩ := List.exists_cons_of_ne_nil (lowerChar_ne_nil c)
    have hNot := hLetter.2 c hc
    rw [hImage] at hNot ⊢
    simp only [List.cons_append, List.isPrefixOf, Bool.and_eq_true, beq_iff_eq]
    rintro ⟨rfl, _⟩
    exact hNot (List.mem_cons_self ..)

/-- What begins a text in lower case is the lower case of what begins the text, as far as it
consists of letters that ASCII alone leads to. -/
theorem isPrefixOf_lowerAfter_iff {word : List Char} (hWord : ∀ c ∈ word, OnlyAscii c)
    (before s : List Char) :
    word.isPrefixOf (lowerAfter before s) = true ↔
      ∃ name rest, s = name ++ rest ∧ name.map Char.toLower = word := by
  induction word generalizing before s with
  | nil => simp
  | cons letter word ih =>
    have hLetter := hWord letter (List.mem_cons_self ..)
    have hRest := ih fun c hc => hWord c (List.mem_cons_of_mem _ hc)
    cases s with
    | nil => simp [lowerAfter]
    | cons c s =>
      have hNames : (∃ name rest, c :: s = name ++ rest ∧ name.map Char.toLower = letter :: word) ↔
          c.toLower = letter ∧ ∃ name rest, s = name ++ rest ∧ name.map Char.toLower = word := by
        constructor
        · rintro ⟨_ | ⟨d, name⟩, rest, hSplit, hName⟩
          · cases hName
          · obtain ⟨rfl, rfl⟩ := List.cons.inj hSplit
            obtain ⟨rfl, rfl⟩ := List.cons.inj hName
            exact ⟨rfl, name, rest, rfl, rfl⟩
        · rintro ⟨rfl, name, rest, rfl, rfl⟩
          exact ⟨c :: name, rest, rfl, rfl⟩
      rw [hNames]
      by_cases hc : c.toNat < 128
      · have hSigma : c ≠ 'Σ' := by
          rintro rfl
          exact absurd hc (by decide)
        rw [lowerAfter, if_neg hSigma, lowerChar, if_pos hc]
        simp only [List.cons_append, List.nil_append, List.isPrefixOf, Bool.and_eq_true, beq_iff_eq,
          hRest]
        exact and_congr_left' eq_comm
      · refine iff_of_false (not_isPrefixOf_lowerAfter hLetter (by omega) word before s) ?_
        rintro ⟨rfl, _⟩
        rw [toLower_eq_self (by omega)] at hLetter
        exact hc hLetter.1

end Text

namespace Auth

theorem onlyAscii_of_mem_scheme {c : Char} (hc : c ∈ scheme.toList) : Text.OnlyAscii c := by
  have hCodes : scheme.toList.map Char.toNat = [98, 101, 97, 114, 101, 114, 32] := by decide
  refine Text.onlyAscii_of_mem ?_ hc
  rw [hCodes]
  decide

/-- The header is the scheme in any case, one space and a rest that holds the token. -/
def Presents (authorization : Option String) (token : String) : Prop :=
  ∃ name carried, authorization = some (name ++ " " ++ carried) ∧
    Environment.asciiLower name = "bearer" ∧ token = Text.trim carried ∧ token ≠ ""

theorem startsWith_scheme_iff (header : String) :
    Text.startsWith scheme (Text.lower header) = true ↔
      ∃ name carried, header = name ++ " " ++ carried ∧ Environment.asciiLower name = "bearer" := by
  rw [Text.startsWith, Text.lower, String.toList_ofList,
    Text.isPrefixOf_lowerAfter_iff fun c hc => onlyAscii_of_mem_scheme hc]
  have hScheme : scheme.toList = "bearer".toList ++ [' '] := by decide
  rw [hScheme]
  constructor
  · rintro ⟨start, carried, hHeader, hStart⟩
    obtain ⟨name, space, rfl, hName, hSpace⟩ := List.map_eq_append_iff.mp hStart
    obtain ⟨c, rfl, hc⟩ := List.map_eq_singleton_iff.mp hSpace
    obtain rfl := Text.eq_space_of_toLower hc
    refine ⟨String.ofList name, String.ofList carried, ?_, ?_⟩
    · apply String.toList_injective
      simpa using hHeader
    · rw [Environment.asciiLower, String.toList_ofList, hName, String.ofList_toList]
  · rintro ⟨name, carried, rfl, hName⟩
    refine ⟨name.toList ++ [' '], carried.toList, by simp, ?_⟩
    rw [List.map_append, ← hName, Environment.asciiLower, String.toList_ofList]
    rfl

/-- The first space of such a header is the one behind the scheme. -/
theorem behind_first_space {name : String} (hName : Environment.asciiLower name = "bearer")
    (carried : String) :
    (((name ++ " " ++ carried).toList.dropWhile (· ≠ ' ')).drop 1) = carried.toList := by
  have hSpace : ∀ c ∈ name.toList, decide (c ≠ ' ') = true := by
    intro c hc
    rw [decide_eq_true_eq]
    rintro rfl
    have hMem : ' ' ∈ (Environment.asciiLower name).toList := by
      rw [Environment.asciiLower, String.toList_ofList]
      exact List.mem_map_of_mem (f := Char.toLower) hc
    rw [hName] at hMem
    exact absurd hMem (by decide)
  rw [String.toList_append, String.toList_append, List.append_assoc,
    List.dropWhile_append_of_pos hSpace]
  rfl

theorem bearerToken?_eq_some_iff (authorization : Option String) (token : String) :
    bearerToken? authorization = some token ↔ Presents authorization token := by
  have hHeader : authorization.getD "" = "" ∨ authorization = some (authorization.getD "") := by
    cases authorization with
    | none => exact .inl rfl
    | some header => exact .inr rfl
  constructor
  · intro h
    simp only [bearerToken?] at h
    split at h
    · cases h
    · rename_i hStart
      rw [Bool.not_eq_true', Bool.not_eq_false] at hStart
      obtain ⟨name, carried, hSplit, hName⟩ := (startsWith_scheme_iff _).mp hStart
      rw [hSplit, behind_first_space hName] at h
      split at h
      · cases h
      · rename_i hToken
        refine ⟨name, carried, ?_, hName, (Option.some.inj h).symm, ?_⟩
        · rw [← hSplit]
          refine hHeader.resolve_left fun hEmpty => ?_
          rw [hEmpty] at hStart
          exact absurd hStart (by decide)
        · rwa [← Option.some.inj h]
  · rintro ⟨name, carried, rfl, hName, rfl, hToken⟩
    have hStart := (startsWith_scheme_iff _).mpr ⟨name, carried, rfl, hName⟩
    simp only [bearerToken?, Option.getD_some, hStart, Bool.not_true, Bool.false_eq_true, if_false]
    rw [behind_first_space hName]
    exact if_neg hToken

theorem bearerToken?_eq_none_iff (authorization : Option String) :
    bearerToken? authorization = none ↔ ∀ token, ¬Presents authorization token := by
  simp only [← bearerToken?_eq_some_iff]
  exact Option.eq_none_iff_forall_ne_some

/-- A header presents one token at most. -/
theorem Presents.iff_eq {authorization : Option String} {token : String}
    (h : Presents authorization token) (other : String) :
    Presents authorization other ↔ token = other := by
  rw [← bearerToken?_eq_some_iff] at h ⊢
  rw [h, Option.some.injEq]

/-- Both tokens are there, and they cannot be compared. -/
def Incomparable (token expected : String) : Prop :=
  expected ≠ "" ∧ (isAscii token && isAscii expected) = false

theorem incomparable_self_iff {token : String} (h : token ≠ "") :
    Incomparable token token ↔ isAscii token = false := by
  rw [Incomparable, Bool.and_self, and_iff_right h]

theorem verdict_of_off {env : Environment} (h : isOff env = true) (authorization : Option String) :
    verdict env authorization = .ok none := by
  rw [verdict, if_pos h]

theorem verdict_of_absent {env : Environment} {authorization : Option String}
    (hOn : isOff env = false) (h : ∀ token, ¬Presents authorization token) :
    verdict env authorization = .ok (some .missingToken) := by
  rw [verdict, if_neg (by simp [hOn]), (bearerToken?_eq_none_iff authorization).mpr h]

theorem verdict_of_presents {env : Environment} {authorization : Option String} {token : String}
    (hOn : isOff env = false) (h : Presents authorization token) :
    verdict env authorization =
      if expectedToken env = "" then .ok (some .wrongToken)
      else if !(isAscii token && isAscii (expectedToken env)) then .error .tokenNotAscii
      else .ok (if token = expectedToken env then none else some .wrongToken) := by
  rw [verdict, if_neg (by simp [hOn]), (bearerToken?_eq_some_iff authorization token).mpr h]

theorem verdict_of_incomparable {env : Environment} {authorization : Option String} {token : String}
    (hOn : isOff env = false) (h : Presents authorization token)
    (hTokens : Incomparable token (expectedToken env)) :
    verdict env authorization = .error .tokenNotAscii := by
  rw [verdict_of_presents hOn h, if_neg hTokens.1, if_pos (by rw [hTokens.2]; rfl)]

theorem verdict_of_comparable {env : Environment} {authorization : Option String} {token : String}
    (hOn : isOff env = false) (h : Presents authorization token)
    (hTokens : ¬Incomparable token (expectedToken env)) :
    verdict env authorization =
      .ok (if token = expectedToken env then none else some .wrongToken) := by
  obtain ⟨_, _, _, _, _, hToken⟩ := id h
  rw [verdict_of_presents hOn h]
  by_cases hEmpty : expectedToken env = ""
  · rw [if_pos hEmpty, if_neg (by rw [hEmpty]; exact hToken)]
  · rw [if_neg hEmpty, if_neg]
    intro hAscii
    rw [Bool.not_eq_true'] at hAscii
    exact hTokens ⟨hEmpty, hAscii⟩

end Auth

namespace Api
variable {β : Type}

/-- The request asks a route that is not open to everyone, by its own method. -/
structure Asks (request : Request) (route : Route) : Prop where
  routed : routeOf request.path = some route
  method : Text.upper request.method = route.method
  guarded : route.isGuarded = true

/-- A request that is turned away does nothing. -/
theorem Asks.returns_of_denied {request : Request} {route : Route} (h : Asks request route)
    {env : Environment} {denial : Auth.Denial}
    (hVerdict : Auth.verdict env (header? request "authorization") = .ok (some denial))
    (registry : Registry β) (settings : Settings) (zones : Time.Zones) (world : World β) :
    (respond registry settings zones env request).Returns world (.refused 401 denial.message)
      world := by
  simp only [respond, h.routed, h.method, h.guarded, ne_eq, not_true_eq_false, if_false, if_true,
    hVerdict]
  rfl

end Api

namespace Auth
variable {β : Type}

/-- What decides on a request. -/
inductive Decides (env : Environment) (authorization : Option String) :
    Except Fault (Option Denial) → Prop
  | off (hOff : isOff env = true) : Decides env authorization (.ok none)
  | absent (hOn : isOff env = false) (hNone : ∀ token, ¬Presents authorization token) :
    Decides env authorization (.ok (some .missingToken))
  | incomparable (hOn : isOff env = false) (token : String) (hToken : Presents authorization token)
    (hTokens : Incomparable token (expectedToken env)) :
    Decides env authorization (.error .tokenNotAscii)
  | comparable (hOn : isOff env = false) (token : String) (hToken : Presents authorization token)
    (hTokens : ¬Incomparable token (expectedToken env)) :
    Decides env authorization (.ok (if token = expectedToken env then none else some .wrongToken))

theorem decides_verdict (env : Environment) (authorization : Option String) :
    Decides env authorization (verdict env authorization) := by
  cases hOff : isOff env with
  | true =>
    rw [verdict_of_off hOff]
    exact .off hOff
  | false =>
    by_cases hPresents : ∃ token, Presents authorization token
    · obtain ⟨token, hToken⟩ := hPresents
      by_cases hTokens : Incomparable token (expectedToken env)
      · rw [verdict_of_incomparable hOff hToken hTokens]
        exact .incomparable hOff token hToken hTokens
      · rw [verdict_of_comparable hOff hToken hTokens]
        exact .comparable hOff token hToken hTokens
    · have hNone : ∀ token, ¬Presents authorization token := not_exists.mp hPresents
      rw [verdict_of_absent hOff hNone]
      exact .absent hOff hNone

theorem verdict_eq_admitted_iff (env : Environment) (authorization : Option String) :
    verdict env authorization = .ok none ↔ isOff env = true ∨
      Presents authorization (expectedToken env) ∧ isAscii (expectedToken env) = true := by
  have hDecides := decides_verdict env authorization
  generalize verdict env authorization = answer at hDecides ⊢
  cases hDecides with
  | off hOff => simp [hOff]
  | absent hOn hNone => simp [hOn, hNone]
  | incomparable hOn token hToken hTokens =>
    obtain ⟨_, _, _, _, _, hText⟩ := id hToken
    rw [hToken.iff_eq]
    constructor
    · intro h
      cases h
    · rintro (hOff | ⟨rfl, hAscii⟩)
      · simp [hOn] at hOff
      · rw [incomparable_self_iff hText, hAscii] at hTokens
        cases hTokens
  | comparable hOn token hToken hTokens =>
    obtain ⟨_, _, _, _, _, hText⟩ := id hToken
    rw [hToken.iff_eq]
    by_cases hSame : token = expectedToken env
    · subst hSame
      rw [incomparable_self_iff hText, Bool.not_eq_false] at hTokens
      simp [hTokens]
    · simp [hOn, hSame]

theorem verdict_eq_error_iff (env : Environment) (authorization : Option String) (fault : Fault) :
    verdict env authorization = .error fault ↔ isOff env = false ∧ fault = .tokenNotAscii ∧
      ∃ token, Presents authorization token ∧ Incomparable token (expectedToken env) := by
  have hDecides := decides_verdict env authorization
  generalize verdict env authorization = answer at hDecides ⊢
  cases hDecides with
  | off hOff => simp [hOff]
  | absent hOn hNone => simp [hNone]
  | incomparable hOn token hToken hTokens =>
    simp only [hToken.iff_eq, exists_eq_left']
    simp [hOn, hTokens, eq_comm]
  | comparable hOn token hToken hTokens =>
    simp only [hToken.iff_eq, exists_eq_left']
    simp [hTokens]

/-- Who is let in, who is answered 401 without anything done, and whose token breaks the check. -/
theorem verdict_cases (env : Environment) (authorization : Option String) :
    (verdict env authorization = .ok none ↔ isOff env = true ∨
      Presents authorization (expectedToken env) ∧ isAscii (expectedToken env) = true) ∧
    (∀ fault, verdict env authorization = .error fault ↔ isOff env = false ∧
      fault = .tokenNotAscii ∧ ∃ token, Presents authorization token ∧
        Incomparable token (expectedToken env)) ∧
    ∀ (registry : Registry β) (settings : Settings) (zones : Time.Zones) (request : Api.Request)
      (route : Api.Route) (world : World β) (denial : Denial), Api.Asks request route →
      Api.header? request "authorization" = authorization →
      verdict env authorization = .ok (some denial) →
      (Api.respond registry settings zones env request).Returns world
        (.refused 401 denial.message) world := by
  refine ⟨verdict_eq_admitted_iff env authorization, verdict_eq_error_iff env authorization, ?_⟩
  rintro registry settings zones request route world denial hAsks rfl hVerdict
  exact hAsks.returns_of_denied hVerdict registry settings zones world

namespace Sample

def guardedBy (token : String) : Environment :=
  [("SN_AUTH_DISABLED", "false"), ("SN_AUTH_TOKEN", token)]

def listRules (authorization : String) : Api.Request :=
  ⟨"GET", "/api/v1/scheduled-rules", [], [("Authorization", authorization)]⟩

end Sample

/-- The expected token is turned away by a fault of its own. -/
theorem expected_token_breaks_check :
    isOff (Sample.guardedBy "é") = false ∧
      Presents (some "Bearer é") (expectedToken (Sample.guardedBy "é")) ∧
      verdict (Sample.guardedBy "é") (some "Bearer é") = .error .tokenNotAscii :=
  ⟨by decide +kernel, ⟨"Bearer", "é", by decide +kernel⟩, by decide +kernel⟩

theorem verdict_cases_at_two_headers :
    verdict (Sample.guardedBy " s3cret ") (some "BEARER \ts3cret") = .ok none ∧
      (Api.respond ([] : Registry Publisher.Attempts) .standard .universal
        (Sample.guardedBy "s3cret") (Sample.listRules "bearer secret")).Returns
        EventDigest.Sample.mixedWorld (.refused 401 "Invalid token")
        EventDigest.Sample.mixedWorld := by
  have hToken : Presents (some "BEARER \ts3cret") (expectedToken (Sample.guardedBy " s3cret ")) :=
    ⟨"BEARER", "\ts3cret", by decide +kernel⟩
  have hVerdict : verdict (Sample.guardedBy "s3cret") (some "bearer secret") =
      .ok (some .wrongToken) := by decide +kernel
  have hAsks : Api.Asks (Sample.listRules "bearer secret") .rules :=
    ⟨by decide +kernel, by decide +kernel, rfl⟩
  refine ⟨(@verdict_cases Publisher.Attempts _ _).1.mpr (.inr ⟨hToken, by decide +kernel⟩), ?_⟩
  exact (verdict_cases _ _).2.2 _ _ _ _ _ _ .wrongToken hAsks (by decide +kernel) hVerdict

end Auth
end EventDigest
