import EventDigest.Proofs.Calendar
import EventDigest.Proofs.Padded
import EventDigest.Text.Split

/-! # Texts of instants

A date and time is read part by part: the date, the time of day, the fraction of a second and the
offset. The text of an instant is read back as that instant, so it tells instants apart.
-/
set_option autoImplicit false
namespace EventDigest.Time

theorem readMark_cons (mark : Char) (rest : List Char) : readMark mark (mark :: rest) = some rest :=
  if_pos rfl

theorem readDate_dayChars {d : Date} (hd : d.isValid = true) (hYear : d.year < 10 ^ 4)
    (rest : List Char) : readDate (dayChars 4 d ++ rest) = some (d, rest) := by
  obtain ⟨hMonth, hDay⟩ := Date.bounds_of_isValid hd
  have hFour : ∀ rest, readDigits 4 0 (padded 4 d.year ++ rest) = some (d.year, rest) :=
    readDigits_padded (by decide) hYear
  simp only [readDate, dayChars, List.append_assoc, List.cons_append, hFour, readMark_cons,
    readDigits_two (n := d.month) (by omega), readDigits_two (n := d.day) (by omega),
    Option.bind_eq_bind, Option.bind_some]
  rw [if_pos hd]

/-- The seconds of a day that have passed. -/
def Instant.secondOfDay (t : Instant) : Nat := t.micros % microsPerDay / microsPerSecond

theorem Instant.secondOfDay_lt (t : Instant) : t.secondOfDay < 86400 := by
  simp only [secondOfDay, microsPerDay, microsPerMinute, microsPerSecond]
  omega

theorem clockChars_eq (t : Instant) : clockChars t = padded 2 (t.secondOfDay / 3600) ++
    ':' :: padded 2 (t.secondOfDay / 60 % 60) ++ ':' :: padded 2 (t.secondOfDay % 60) := rfl

theorem readClock_clockChars (t : Instant) (rest : List Char) :
    readClock (clockChars t ++ rest) = some (t.secondOfDay, rest) := by
  have hDay := t.secondOfDay_lt
  have hSum : t.secondOfDay / 3600 * 3600 + t.secondOfDay / 60 % 60 * 60 + t.secondOfDay % 60 =
      t.secondOfDay := by omega
  have hHours : ¬ 23 < t.secondOfDay / 3600 := by omega
  have hMinutes : ¬ 59 < t.secondOfDay / 60 % 60 := by omega
  have hSeconds : ¬ 59 < t.secondOfDay % 60 := by omega
  rw [clockChars_eq]
  simp only [readClock, List.append_assoc, List.cons_append, readMark_cons,
    readDigits_two (n := t.secondOfDay / 3600) (by omega),
    readDigits_two (n := t.secondOfDay / 60 % 60) (by omega),
    readDigits_two (n := t.secondOfDay % 60) (by omega),
    Option.bind_eq_bind, Option.bind_some, hHours, hMinutes, hSeconds, decide_false, Bool.or_false,
    Bool.false_eq_true, if_false, hSum]
  rfl

/-- Behind a fraction no digit follows, nor the mark of one. -/
def NoFraction (rest : List Char) : Prop := ∀ c ∈ rest.head?, c.isDigit = false ∧ c ≠ '.'

theorem readFraction_nil {rest : List Char} (h : NoFraction rest) :
    readFraction rest = some (0, rest) := by
  unfold readFraction
  split
  · exact ((h '.' rfl).2 rfl).elim
  · rfl

theorem takeWhile_padded (width n : Nat) {rest : List Char} (h : NoFraction rest) :
    (padded width n ++ rest).takeWhile (fun c => (digit? c).isSome) = padded width n := by
  have hDigits : ∀ c ∈ padded width n, (digit? c).isSome = true := by
    intro c hc
    rw [digit?_of_isDigit (allDigits_padded width n c hc)]
    rfl
  have hEnd : ∀ c ∈ rest.head?, (digit? c).isSome = false := by
    intro c hc
    rw [digit?_of_not_isDigit (h c hc).1]
    rfl
  exact Text.takeWhile_word hDigits hEnd

theorem readFraction_fractionChars (t : Instant) {rest : List Char} (h : NoFraction rest) :
    readFraction (fractionChars t ++ rest) = some (t.micros % microsPerSecond, rest) := by
  have hMicros : t.micros % microsPerSecond < 10 ^ 6 := Nat.mod_lt _ (by decide)
  have hLength : (padded 6 (t.micros % microsPerSecond)).length = 6 :=
    length_padded (by decide) hMicros
  have hSix : ∀ rest, readDigits 6 0 (padded 6 (t.micros % microsPerSecond) ++ rest) =
      some (t.micros % microsPerSecond, rest) := readDigits_padded (by decide) hMicros
  have hSome : (padded 6 (t.micros % microsPerSecond)).isEmpty = false := by
    rw [List.isEmpty_eq_false_iff, ← List.length_pos_iff, hLength]
    decide
  by_cases hZero : t.micros % microsPerSecond = 0
  · rw [fractionChars, if_pos hZero, hZero, List.nil_append, readFraction_nil h]
  · rw [fractionChars, if_neg hZero]
    simp only [List.cons_append, readFraction, takeWhile_padded 6 _ h, hSome, hLength, hSix,
      Bool.false_or, Nat.lt_irrefl, decide_false, Bool.false_eq_true, if_false,
      Option.bind_eq_bind, Option.bind_some, Nat.sub_self]
    exact congrArg (fun n => some (n, rest)) (Nat.mul_one _)

/-- The years of instants have at most four digits. -/
theorem Instant.year_lt (t : Instant) : t.date.year < 10 ^ 4 := by
  apply Date.year_ofDayNumber_lt (by decide)
  have hDays : daysBeforeYear (10 ^ 4) = 3652059 := by decide
  have hSpan := t.inSpan
  rw [hDays]
  simp only [spanMicros, microsPerDay, microsPerMinute, microsPerSecond] at hSpan ⊢
  omega

theorem Instant.isValid_date (t : Instant) : t.date.isValid = true := Date.isValid_ofDayNumber _

/-- Date and time of day of an instant are read to the second; the rest of its text says the
fraction and the offset. -/
theorem readStamp_append (t : Instant) {fraction rest : List Char} {micros : Nat}
    {offset : Option Int} {u : Instant}
    (hFraction : readFraction (fraction ++ rest) = some (micros, rest))
    (hOffset : readOffset rest = some offset)
    (hMicros : u.micros = t.micros / microsPerSecond * microsPerSecond + micros) :
    readStamp (dayChars 4 t.date ++ 'T' :: clockChars t ++ fraction ++ rest) =
      some ⟨u, offset⟩ := by
  have hDate : t.date.dayNumber = t.micros / microsPerDay := Date.dayNumber_ofDayNumber _
  have hSum : t.micros / microsPerDay * microsPerDay + t.secondOfDay * microsPerSecond + micros =
      u.micros := by
    rw [hMicros]
    simp only [Instant.secondOfDay, microsPerDay, microsPerMinute, microsPerSecond]
    omega
  have hWall : Instant.ofMicros? (u.micros : Nat) = .ok u := Instant.ofMicros?_eq_ok_iff.mpr rfl
  simp only [readStamp, List.append_assoc, List.cons_append,
    readDate_dayChars t.isValid_date t.year_lt, readMark_cons, readClock_clockChars,
    hFraction, hOffset, hDate, hSum, Option.bind_eq_bind, Option.bind_some]
  rw [hWall]
  rfl

theorem noFraction_mark {mark : Char} (h : mark.isDigit = false ∧ mark ≠ '.') (rest : List Char) :
    NoFraction (mark :: rest) := by
  intro c hc
  cases hc
  exact h

/-- The text of an instant is read back as the instant. -/
theorem read?_text (t : Instant) : Stamp.read? t.text = some (.ofInstant t) := by
  have hZ : NoFraction ['Z'] := noFraction_mark (by decide) []
  have hMicros : t.micros =
      t.micros / microsPerSecond * microsPerSecond + t.micros % microsPerSecond :=
    (Nat.div_add_mod' _ _).symm
  rw [Stamp.read?, Instant.text, String.toList_ofList]
  exact readStamp_append t (readFraction_fractionChars t hZ) rfl hMicros

theorem text_inj {t u : Instant} : t.text = u.text ↔ t = u := by
  constructor
  · intro h
    have hRead := (read?_text t).symm.trans ((congrArg Stamp.read? h).trans (read?_text u))
    exact congrArg Stamp.wall (Option.some.inj hRead)
  · rintro rfl
    rfl

/-- Replaces the occurrences of a text from the left. The count says how many characters of an
occurrence are still to be passed. -/
def replaceFrom (old new : List Char) : Nat → List Char → List Char
  | _, [] => []
  | passed + 1, _ :: rest => replaceFrom old new passed rest
  | 0, c :: rest =>
    if old.isPrefixOf (c :: rest) then new ++ replaceFrom old new (old.length - 1) rest
    else c :: replaceFrom old new 0 rest

/-- What does not hold the first character of an occurrence stays as it is. -/
theorem replaceFrom_append {first : Char} {s : List Char} (h : first ∉ s)
    (old new rest : List Char) :
    replaceFrom (first :: old) new 0 (s ++ rest) =
      s ++ replaceFrom (first :: old) new 0 rest := by
  induction s with
  | nil => rfl
  | cons c s ih =>
    rw [List.mem_cons, not_or] at h
    have hNot : (first :: old).isPrefixOf (c :: (s ++ rest)) = false := by
      simp [List.isPrefixOf, h.1]
    rw [List.cons_append, replaceFrom, hNot, List.cons_append]
    exact congrArg (c :: ·) (ih h.2)

theorem not_mem_of_allDigits {digits : List Char} (h : AllDigits digits) {c : Char}
    (hc : c.isDigit = false) : c ∉ digits := by
  intro hMem
  rw [h c hMem] at hc
  cases hc

theorem plus_not_mem_isoChars (t : Instant) : '+' ∉ isoChars t := by
  have hNumber : ∀ width n, '+' ∉ padded width n := fun width n =>
    not_mem_of_allDigits (allDigits_padded width n) rfl
  have hFraction : '+' ∉ fractionChars t := by
    rw [fractionChars]
    split
    · exact List.not_mem_nil
    · simp [hNumber]
  have hDay : ∀ d, '+' ∉ dayChars 4 d := by
    intro d
    simp [dayChars, hNumber]
  have hClock : '+' ∉ clockChars t := by simp [clockChars_eq, hNumber]
  simp [isoChars, hDay, hClock, hFraction]

/-- The form of every document is made of the text with an offset: only the offset is replaced. -/
theorem text_eq_replaced (t : Instant) :
    t.text.toList = replaceFrom "+00:00".toList "Z".toList 0 t.offsetText.toList := by
  have hOld : "+00:00".toList = ['+', '0', '0', ':', '0', '0'] := by decide
  simp only [Instant.text, Instant.offsetText, String.toList_ofList, hOld,
    replaceFrom_append (plus_not_mem_isoChars t)]
  rfl

namespace Stamp

theorem toInstant_ofInstant (t : Instant) : (ofInstant t).toInstant = .ok t :=
  toInstant_eq_ok_iff.mpr (Int.sub_zero _).symm

theorem spanMicros_eq : spanMicros = daysBeforeYear 10000 * microsPerDay := by decide

theorem eq_iff_universalMicros {s other : Stamp} {t u : Instant} (ht : s.toInstant = .ok t)
    (hu : other.toInstant = .ok u) : t = u ↔ s.universalMicros = other.universalMicros := by
  rw [← toInstant_eq_ok_iff.mp ht, ← toInstant_eq_ok_iff.mp hu, Instant.mk.injEq]
  omega

theorem le_iff_universalMicros {s other : Stamp} {t u : Instant} (ht : s.toInstant = .ok t)
    (hu : other.toInstant = .ok u) : t ≤ u ↔ s.universalMicros ≤ other.universalMicros := by
  rw [← toInstant_eq_ok_iff.mp ht, ← toInstant_eq_ok_iff.mp hu]
  exact Int.ofNat_le.symm

/-- The text of a timestamp is read back as the instant that it means, to the microsecond; in it
the offset alone was replaced. Timestamps have one text exactly if they mean one instant, and stand
in the order of what they mean. Only a timestamp outside the years 1 to 9999 has no text. -/
theorem timestamps_read_back (s : Stamp) :
    (∀ t, s.toInstant = .ok t →
      (t.micros : Int) = s.universalMicros ∧
      read? (textOrUnknown (some t)) = some (ofInstant t) ∧
      (textOrUnknown (some t)).toList =
        replaceFrom "+00:00".toList "Z".toList 0 t.offsetText.toList ∧
      (ofInstant t).toInstant = .ok t ∧
      ∀ (other : Stamp) (u : Instant), other.toInstant = .ok u →
        (textOrUnknown (some t) = textOrUnknown (some u) ↔
          s.universalMicros = other.universalMicros) ∧
        (t ≤ u ↔ s.universalMicros ≤ other.universalMicros)) ∧
    (s.toInstant = .error .outOfSpan ↔
      s.universalMicros < 0 ∨ (daysBeforeYear 10000 * microsPerDay : Nat) ≤ s.universalMicros) := by
  refine ⟨fun t ht => ⟨toInstant_eq_ok_iff.mp ht, read?_text t, text_eq_replaced t,
    toInstant_ofInstant t, ?_⟩, spanMicros_eq ▸ toInstant_eq_error_iff⟩
  intro other u hu
  exact ⟨text_inj.trans (eq_iff_universalMicros ht hu), le_iff_universalMicros ht hu⟩

end Stamp

namespace Sample

/-- A quarter past midnight on the first of March of a leap year, with an odd offset. -/
def marchStamp : Stamp :=
  ⟨⟨(Date.mk 2024 3 1).dayNumber * microsPerDay + 930 * microsPerSecond + 1, by decide⟩,
    some (19815 * microsPerSecond + 2)⟩

/-- The same point in time in universal time, where it is still February. -/
def leapInstant : Instant :=
  ⟨(Date.mk 2024 2 29).dayNumber * microsPerDay + 67514 * microsPerSecond + 999999, by decide⟩

/-- The first moment of the calendar as it is written a microsecond to the east. -/
def tooEarlyStamp : Stamp := ⟨.first, some 1⟩

end Sample

theorem Stamp.timestamps_read_back_across_a_leap_day :
    Sample.marchStamp.toInstant = .ok Sample.leapInstant ∧
    (Stamp.mk Sample.leapInstant none).toInstant = .ok Sample.leapInstant ∧
    textOrUnknown (some Sample.leapInstant) = "2024-02-29T18:45:14.999999Z" ∧
    read? (textOrUnknown (some Sample.leapInstant)) = some (ofInstant Sample.leapInstant) ∧
    Sample.marchStamp.universalMicros = (Stamp.mk Sample.leapInstant none).universalMicros ∧
    Sample.tooEarlyStamp.toInstant = .error .outOfSpan := by
  have hMarch : Sample.marchStamp.toInstant = .ok Sample.leapInstant := by decide
  have hNaive : (Stamp.mk Sample.leapInstant none).toInstant = .ok Sample.leapInstant := rfl
  obtain ⟨_, hRead, _, _, hSame⟩ := (timestamps_read_back Sample.marchStamp).1 _ hMarch
  refine ⟨hMarch, hNaive, by decide +kernel, hRead, (hSame _ _ hNaive).1.mp rfl, ?_⟩
  exact (timestamps_read_back Sample.tooEarlyStamp).2.mpr (.inl (by decide))

end EventDigest.Time
