import EventDigest.Proofs.Timestamps
import EventDigest.Time.Zone
import Mathlib.Data.String.Basic

/-! # Starts of windows as they are shown

A window start is shown as date and time on the wall clock of a display zone, to the second. Filled
up with the zeros that its year lacks, that text is read back as the second of the start. From the
year 1000 on it lacks none, and texts then stand in the order of the starts.
-/
set_option autoImplicit false
namespace EventDigest.Time

/-- Date and time of day of an instant to the second, the year filled up to a width. -/
def wallChars (yearWidth : Nat) (t : Instant) : List Char :=
  dayChars yearWidth t.date ++ 'T' :: clockChars t

/-- What stands behind the year. -/
def behindYear (t : Instant) : List Char :=
  '-' :: padded 2 t.date.month ++ '-' :: padded 2 t.date.day ++ 'T' :: clockChars t

theorem dayChars_append (yearWidth : Nat) (d : Date) (rest : List Char) :
    dayChars yearWidth d ++ rest = padded yearWidth d.year ++
      ('-' :: padded 2 d.month ++ '-' :: padded 2 d.day ++ rest) := by
  simp [dayChars]

theorem wallChars_eq (yearWidth : Nat) (t : Instant) :
    wallChars yearWidth t = padded yearWidth t.date.year ++ behindYear t :=
  dayChars_append yearWidth t.date _

theorem length_clockChars (t : Instant) : (clockChars t).length = 8 := by
  have hDay := t.secondOfDay_lt
  rw [clockChars_eq, List.length_append, List.length_append, List.length_cons, List.length_cons,
    length_two (by omega), length_two (by omega), length_two (by omega)]

theorem length_behindYear (t : Instant) : (behindYear t).length = 15 := by
  obtain ⟨hMonth, hDay⟩ := Date.bounds_of_isValid t.isValid_date
  rw [behindYear, List.length_append, List.length_append, List.length_cons, List.length_cons,
    List.length_cons, length_two (by omega), length_two (by omega), length_clockChars]

/-- The text with the zeros in front that it lacks of nineteen characters. -/
def filled (text : String) : String :=
  String.ofList (List.replicate (19 - text.length) '0' ++ text.toList)

theorem padded_one (n : Nat) : padded 1 n = Nat.toDigits 10 n := by
  have hPos : 1 ≤ (Nat.toDigits 10 n).length := Nat.length_toDigits_pos
  rw [padded, Nat.sub_eq_zero_of_le hPos]
  rfl

theorem filled_wallChars (t : Instant) :
    filled (String.ofList (wallChars 1 t)) = String.ofList (wallChars 4 t) := by
  have hLength : 19 - (String.ofList (wallChars 1 t)).length =
      4 - (Nat.toDigits 10 t.date.year).length := by
    rw [String.length_ofList, wallChars_eq, List.length_append, length_behindYear, padded_one]
    omega
  rw [filled, hLength, String.toList_ofList, wallChars_eq, wallChars_eq, padded_one, padded,
    List.append_assoc]

/-- A number with four digits lacks no zeros. -/
theorem padded_one_of_le {n : Nat} (h : 1000 ≤ n) : padded 1 n = padded 4 n := by
  have hLong : ¬ (Nat.toDigits 10 n).length ≤ 3 := by
    rw [Nat.length_toDigits_le_iff (by decide) (by decide)]
    exact Nat.not_lt.mpr h
  rw [padded_one, padded, Nat.sub_eq_zero_of_le (Nat.lt_of_not_le hLong)]
  rfl

theorem length_padded_one_lt {n : Nat} (h : n < 1000) : (padded 1 n).length < 4 := by
  rw [padded_one]
  exact Nat.lt_succ_of_le ((Nat.length_toDigits_le_iff (by decide) (by decide)).mpr h)

theorem wallChars_of_year {t : Instant} (h : 1000 ≤ t.date.year) :
    wallChars 1 t = wallChars 4 t := by
  rw [wallChars_eq, wallChars_eq, padded_one_of_le h]

/-- A text is of a form if it has digits where the form has zeros, and else its characters. -/
def hasForm : List Char → List Char → Bool
  | [], [] => true
  | mark :: form, c :: rest => (if mark = '0' then c.isDigit else c == mark) && hasForm form rest
  | _, _ => false

theorem hasForm_digits {digits : List Char} (h : AllDigits digits) (form rest : List Char) :
    hasForm (List.replicate digits.length '0' ++ form) (digits ++ rest) = hasForm form rest := by
  induction digits with
  | nil => rfl
  | cons c digits ih =>
    rw [allDigits_cons_iff] at h
    rw [List.length_cons, List.replicate_succ, List.cons_append, List.cons_append, hasForm,
      if_pos rfl, h.1, Bool.true_and]
    exact ih h.2

theorem hasForm_padded {width n : Nat} (hWidth : 0 < width) (hn : n < 10 ^ width)
    (form rest : List Char) :
    hasForm (List.replicate width '0' ++ form) (padded width n ++ rest) = hasForm form rest := by
  have hForm := hasForm_digits (allDigits_padded width n) form rest
  rwa [length_padded hWidth hn] at hForm

theorem hasForm_mark {mark : Char} (h : mark ≠ '0') (form rest : List Char) :
    hasForm (mark :: form) (mark :: rest) = hasForm form rest := by
  rw [hasForm, if_neg h, beq_self_eq_true, Bool.true_and]

theorem length_eq_of_hasForm {form text : List Char} (h : hasForm form text = true) :
    text.length = form.length := by
  induction form generalizing text with
  | nil =>
    cases text with
    | nil => rfl
    | cons c rest => cases h
  | cons mark form ih =>
    cases text with
    | nil => cases h
    | cons c rest =>
      rw [hasForm, Bool.and_eq_true] at h
      rw [List.length_cons, List.length_cons, ih h.2]

/-- A date and time in the extended format, with a year of four digits. -/
def isDateTime (text : String) : Bool := hasForm "0000-00-00T00:00:00".toList text.toList

theorem hasForm_two {n : Nat} (h : n < 10 ^ 2) : ∀ form rest,
    hasForm ('0' :: '0' :: form) (padded 2 n ++ rest) = hasForm form rest :=
  hasForm_padded (by decide) h

theorem hasForm_dayChars {d : Date} (hd : d.isValid = true) (hYear : d.year < 10 ^ 4)
    (form rest : List Char) :
    hasForm ('0' :: '0' :: '0' :: '0' :: '-' :: '0' :: '0' :: '-' :: '0' :: '0' :: form)
      (dayChars 4 d ++ rest) = hasForm form rest := by
  obtain ⟨hMonth, hDay⟩ := Date.bounds_of_isValid hd
  have hFour : ∀ form rest, hasForm ('0' :: '0' :: '0' :: '0' :: form)
      (padded 4 d.year ++ rest) = hasForm form rest := hasForm_padded (by decide) hYear
  rw [dayChars_append, hFour, List.cons_append, List.cons_append, List.append_assoc,
    hasForm_mark (by decide), hasForm_two (by omega), List.cons_append, hasForm_mark (by decide),
    hasForm_two (by omega)]

theorem hasForm_clockChars (t : Instant) :
    hasForm ['0', '0', ':', '0', '0', ':', '0', '0'] (clockChars t) = true := by
  have hDay := t.secondOfDay_lt
  have hLast : hasForm ['0', '0'] (padded 2 (t.secondOfDay % 60) ++ []) = true :=
    hasForm_two (by omega) [] []
  rw [List.append_nil] at hLast
  rw [clockChars_eq, List.append_assoc, hasForm_two (by omega), List.cons_append,
    hasForm_mark (by decide), hasForm_two (by omega), hasForm_mark (by decide), hLast]

theorem isDateTime_wallChars (t : Instant) :
    isDateTime (String.ofList (wallChars 4 t)) = true := by
  have hForm : "0000-00-00T00:00:00".toList = ['0', '0', '0', '0', '-', '0', '0', '-', '0', '0',
      'T', '0', '0', ':', '0', '0', ':', '0', '0'] := by decide
  rw [isDateTime, hForm, String.toList_ofList, wallChars, hasForm_dayChars t.isValid_date t.year_lt,
    hasForm_mark (by decide), hasForm_clockChars]

theorem not_isDateTime_of_year {t : Instant} (h : t.date.year < 1000) :
    isDateTime (String.ofList (wallChars 1 t)) = false := by
  rw [Bool.eq_false_iff]
  intro hForm
  have hLength := length_eq_of_hasForm hForm
  have hShort := length_padded_one_lt h
  have hNineteen : "0000-00-00T00:00:00".toList.length = 19 := by decide
  rw [hNineteen, String.toList_ofList, wallChars_eq, List.length_append, length_behindYear]
    at hLength
  omega

/-- A year of less than four digits is not read. -/
theorem read?_wallChars_of_year {t : Instant} (h : t.date.year < 1000) :
    Stamp.read? (String.ofList (wallChars 1 t)) = none := by
  have hYear : readDate (wallChars 1 t) = none := by
    rw [wallChars_eq, behindYear, List.cons_append, List.cons_append, readDate,
      readDigits_short (allDigits_padded 1 _) (length_padded_one_lt h) 0 rfl]
    rfl
  rw [Stamp.read?, String.toList_ofList, readStamp, hYear]
  rfl

/-- The instant at which the second of another one began. -/
def Instant.wholeSecond (t : Instant) : Instant where
  micros := t.micros / microsPerSecond * microsPerSecond
  inSpan := Nat.lt_of_le_of_lt (Nat.div_mul_le_self ..) t.inSpan

theorem read?_wallChars (t : Instant) :
    Stamp.read? (String.ofList (wallChars 4 t)) = some ⟨t.wholeSecond, none⟩ := by
  have hFraction : readFraction ([] ++ []) = some (0, []) := rfl
  have hRead := readStamp_append t (u := t.wholeSecond) hFraction rfl (Nat.add_zero _).symm
  rw [Stamp.read?, String.toList_ofList]
  rwa [List.append_nil, List.append_nil] at hRead

theorem dayChars_append_lt_iff {d e : Date} (hd : d.isValid = true) (he : e.isValid = true)
    (hYear : d.year < 10 ^ 4) (hOther : e.year < 10 ^ 4) {rest other : List Char} :
    dayChars 4 d ++ rest < dayChars 4 e ++ other ↔ d.Before e ∨ d = e ∧ rest < other := by
  obtain ⟨hMonth, hDay⟩ := Date.bounds_of_isValid hd
  obtain ⟨hMonth', hDay'⟩ := Date.bounds_of_isValid he
  simp only [dayChars_append, List.cons_append, List.append_assoc]
  rw [padded_append_lt_iff (by decide) hYear hOther, List.cons_lt_cons_self,
    padded_append_lt_iff (by decide) (by omega) (by omega), List.cons_lt_cons_self,
    padded_append_lt_iff (by decide) (by omega) (by omega)]
  obtain ⟨_, _, _⟩ := d
  obtain ⟨_, _, _⟩ := e
  simp only [Date.Before, Date.mk.injEq]
  grind

theorem clockChars_lt_iff (t u : Instant) :
    clockChars t < clockChars u ↔ t.secondOfDay < u.secondOfDay := by
  have hDay := t.secondOfDay_lt
  have hOther := u.secondOfDay_lt
  rw [clockChars_eq, clockChars_eq]
  simp only [List.append_assoc, List.cons_append]
  rw [padded_append_lt_iff (by decide) (by omega) (by omega), List.cons_lt_cons_self,
    padded_append_lt_iff (by decide) (by omega) (by omega), List.cons_lt_cons_self,
    padded_lt_padded_iff (by decide) (by omega) (by omega)]
  omega

theorem Instant.dayNumber_date (t : Instant) : t.date.dayNumber = t.micros / microsPerDay :=
  Date.dayNumber_ofDayNumber _

/-- The texts stand in the order of the seconds. -/
theorem wallChars_lt_iff (t u : Instant) :
    wallChars 4 t < wallChars 4 u ↔ t.wholeSecond < u.wholeSecond := by
  have hDate : t.date = u.date ↔ t.date.dayNumber = u.date.dayNumber := by
    refine ⟨congrArg Date.dayNumber, fun h => ?_⟩
    rw [t.dayNumber_date, u.dayNumber_date] at h
    exact congrArg Date.ofDayNumber h
  rw [wallChars, wallChars,
    dayChars_append_lt_iff t.isValid_date u.isValid_date t.year_lt u.year_lt,
    List.cons_lt_cons_self, clockChars_lt_iff,
    ← Date.dayNumber_lt_iff t.isValid_date u.isValid_date, hDate, t.dayNumber_date,
    u.dayNumber_date]
  change _ ↔ t.wholeSecond.micros < u.wholeSecond.micros
  simp only [Instant.wholeSecond, Instant.secondOfDay, microsPerDay, microsPerMinute,
    microsPerSecond]
  omega

/-- Of a second, date and time of day are those of its beginning. -/
theorem wallChars_wholeSecond (yearWidth : Nat) (t : Instant) :
    wallChars yearWidth t.wholeSecond = wallChars yearWidth t := by
  have hDays : t.wholeSecond.micros / microsPerDay = t.micros / microsPerDay := by
    simp only [Instant.wholeSecond, microsPerDay, microsPerMinute, microsPerSecond]
    omega
  have hSeconds : t.wholeSecond.secondOfDay = t.secondOfDay := by
    simp only [Instant.secondOfDay, Instant.wholeSecond, microsPerDay, microsPerMinute,
      microsPerSecond]
    omega
  have hDate : t.wholeSecond.date = t.date := congrArg Date.ofDayNumber hDays
  rw [wallChars, wallChars, hDate, clockChars_eq, clockChars_eq, hSeconds]

theorem shown_eq_iff (t u : Instant) :
    String.ofList (wallChars 1 t) = String.ofList (wallChars 1 u) ↔
      t.wholeSecond = u.wholeSecond := by
  constructor
  · intro h
    have hFilled := congrArg (fun text => Stamp.read? (filled text)) h
    simp only [filled_wallChars, read?_wallChars, Option.some.injEq, Stamp.mk.injEq, and_true]
      at hFilled
    exact hFilled
  · intro h
    rw [← wallChars_wholeSecond 1 t, ← wallChars_wholeSecond 1 u, h]

theorem shown_lt_iff {t u : Instant} (ht : 1000 ≤ t.date.year) (hu : 1000 ≤ u.date.year) :
    String.ofList (wallChars 1 t) < String.ofList (wallChars 1 u) ↔
      t.wholeSecond < u.wholeSecond := by
  rw [String.lt_iff_toList_lt, String.toList_ofList, String.toList_ofList, wallChars_of_year ht,
    wallChars_of_year hu, wallChars_lt_iff]

theorem localText_eq {zone : Zone} {t wall : Instant} (h : zone.wall t = .ok wall) :
    localText zone t = .ok (String.ofList (wallChars 1 wall)) := by
  rw [localText, h]
  rfl

theorem micros_wall {minutes : Int} {t wall : Instant}
    (h : (Zone.fixed minutes).wall t = .ok wall) :
    (wall.micros : Int) = t.micros + minutes * microsPerMinute :=
  Instant.ofMicros?_eq_ok_iff.mp h

namespace Stamp

/-- The second in which a stamp lies, counted from the start of year 1 in universal time. -/
def second (s : Stamp) : Int := s.universalMicros / microsPerSecond

/-- The reading of a wall clock that is so many minutes ahead of universal time. -/
def ahead (s : Stamp) (minutes : Int) : Stamp := ⟨s.wall, some (minutes * microsPerMinute)⟩

/-- A wall clock that differs by whole minutes begins its seconds when they begin. -/
theorem micros_wholeSecond {minutes : Int} {s : Stamp} {t wall : Instant}
    (hStart : s.toInstant = .ok t) (hShown : (Zone.fixed minutes).wall t = .ok wall) :
    (wall.wholeSecond.micros : Int) = (s.second + minutes * 60) * microsPerSecond := by
  have hWall := micros_wall hShown
  rw [second, ← toInstant_eq_ok_iff.mp hStart]
  simp only [Instant.wholeSecond, microsPerMinute, microsPerSecond] at hWall ⊢
  omega

theorem universalMicros_ahead_wholeSecond {minutes : Int} {t wall : Instant}
    (h : (Zone.fixed minutes).wall t = .ok wall) :
    (ahead ⟨wall.wholeSecond, none⟩ minutes).universalMicros =
      (ofInstant t).second * microsPerSecond := by
  have hSecond := micros_wholeSecond (toInstant_ofInstant t) h
  simp only [ahead, universalMicros, Option.getD_some, microsPerMinute, microsPerSecond]
    at hSecond ⊢
  omega

end Stamp

section
variable {minutes : Int} {s other : Stamp} {t u wall otherWall : Instant}
  (hStart : s.toInstant = .ok t) (hShown : (Zone.fixed minutes).wall t = .ok wall)
  (hOther : other.toInstant = .ok u) (hOtherShown : (Zone.fixed minutes).wall u = .ok otherWall)

include hStart hShown hOther hOtherShown

theorem wholeSecond_eq_iff :
    wall.wholeSecond = otherWall.wholeSecond ↔ s.second = other.second := by
  have hSecond := Stamp.micros_wholeSecond hStart hShown
  have hOtherSecond := Stamp.micros_wholeSecond hOther hOtherShown
  simp only [Instant.wholeSecond, Instant.mk.injEq, microsPerSecond] at hSecond hOtherSecond ⊢
  omega

theorem wholeSecond_lt_iff :
    wall.wholeSecond < otherWall.wholeSecond ↔ s.second < other.second := by
  have hSecond := Stamp.micros_wholeSecond hStart hShown
  have hOtherSecond := Stamp.micros_wholeSecond hOther hOtherShown
  change wall.wholeSecond.micros < otherWall.wholeSecond.micros ↔ _
  simp only [microsPerSecond] at hSecond hOtherSecond
  omega

end

/-- A window start is shown to its second. With the zeros that its year lacks, the text is a date
and time of the display zone, and means the second in which the text of the start in the payload
lies. A year of four digits lacks none, and a lesser one leaves a text that is no date and time.
Starts are shown alike exactly in one second, and from the year 1000 on in their order. -/
theorem window_start_renderings_agree {minutes : Int} {s : Stamp} {t wall : Instant}
    (hStart : s.toInstant = .ok t) (hShown : (Zone.fixed minutes).wall t = .ok wall) :
    ∃ text shown since,
      localText (.fixed minutes) t = .ok text ∧
      Stamp.read? (filled text) = some shown ∧ shown.offset = none ∧
      Stamp.read? (textOrUnknown (some t)) = some since ∧
      (shown.ahead minutes).universalMicros = since.second * microsPerSecond ∧
      (1000 ≤ wall.date.year → isDateTime text = true ∧ filled text = text) ∧
      (wall.date.year < 1000 → isDateTime text = false ∧ Stamp.read? text = none) ∧
      ∀ (other : Stamp) (u otherWall : Instant) (otherText : String), other.toInstant = .ok u →
        (Zone.fixed minutes).wall u = .ok otherWall →
        localText (.fixed minutes) u = .ok otherText →
        (text = otherText ↔ s.second = other.second) ∧
        (1000 ≤ wall.date.year → 1000 ≤ otherWall.date.year →
          (text < otherText ↔ s.second < other.second)) := by
  refine ⟨_, ⟨wall.wholeSecond, none⟩, .ofInstant t, localText_eq hShown, ?_, rfl, read?_text t,
    Stamp.universalMicros_ahead_wholeSecond hShown, ?_, ?_, ?_⟩
  · rw [filled_wallChars, read?_wallChars]
  · intro hYear
    rw [filled_wallChars, wallChars_of_year hYear]
    exact ⟨isDateTime_wallChars wall, rfl⟩
  · intro hYear
    exact ⟨not_isDateTime_of_year hYear, read?_wallChars_of_year hYear⟩
  · intro other u otherWall otherText hOther hOtherShown hText
    obtain rfl := Except.ok.inj ((localText_eq hOtherShown).symm.trans hText)
    refine ⟨?_, fun hYear hOtherYear => ?_⟩
    · rw [shown_eq_iff, wholeSecond_eq_iff hStart hShown hOther hOtherShown]
    · rw [shown_lt_iff hYear hOtherYear, wholeSecond_lt_iff hStart hShown hOther hOtherShown]

namespace Sample

/-- The wall clock eight hours behind universal time. -/
def pacificWall : Instant :=
  ⟨(Date.mk 2024 2 29).dayNumber * microsPerDay + 38714 * microsPerSecond + 999999, by decide⟩

/-- The last second of the year 999. -/
def lastOfShortYears : Instant :=
  ⟨(Date.mk 999 12 31).dayNumber * microsPerDay + 86399 * microsPerSecond, by decide⟩

def firstOfLongYears : Instant := ⟨(Date.mk 1000 1 1).dayNumber * microsPerDay, by decide⟩

end Sample

theorem window_start_renderings_agree_on_a_leap_day :
    Sample.marchStamp.toInstant = .ok Sample.leapInstant ∧
    (Zone.fixed (-480)).wall Sample.leapInstant = .ok Sample.pacificWall ∧
    localText (.fixed (-480)) Sample.leapInstant = .ok "2024-02-29T10:45:14" ∧
    isDateTime "2024-02-29T10:45:14" = true ∧
    ∃ shown since, Stamp.read? "2024-02-29T10:45:14" = some shown ∧
      Stamp.read? (textOrUnknown (some Sample.leapInstant)) = some since ∧
      (shown.ahead (-480)).universalMicros = since.second * microsPerSecond := by
  have hStart : Sample.marchStamp.toInstant = .ok Sample.leapInstant := by decide
  have hShown : (Zone.fixed (-480)).wall Sample.leapInstant = .ok Sample.pacificWall := by decide
  have hYear : 1000 ≤ Sample.pacificWall.date.year := by decide
  have hText : localText (.fixed (-480)) Sample.leapInstant = .ok "2024-02-29T10:45:14" := by
    decide +kernel
  obtain ⟨text, shown, since, hLocal, hRead, _, hSince, hSame, hLong, _⟩ :=
    window_start_renderings_agree hStart hShown
  obtain rfl := Except.ok.inj (hText.symm.trans hLocal)
  obtain ⟨hForm, hFilled⟩ := hLong hYear
  rw [hFilled] at hRead
  exact ⟨hStart, hShown, hText, hForm, shown, since, hRead, hSince, hSame⟩

/-- The zeros that the year lacks make the text of an earlier start no date and time, and put it
behind the text of a later one. -/
theorem short_year_is_no_date_time :
    (Zone.fixed 0).wall Sample.lastOfShortYears = .ok Sample.lastOfShortYears ∧
    localText (.fixed 0) Sample.lastOfShortYears = .ok "999-12-31T23:59:59" ∧
    isDateTime "999-12-31T23:59:59" = false ∧ Stamp.read? "999-12-31T23:59:59" = none ∧
    textOrUnknown (some Sample.lastOfShortYears) = "0999-12-31T23:59:59Z" ∧
    localText (.fixed 0) Sample.firstOfLongYears = .ok "1000-01-01T00:00:00" ∧
    Sample.lastOfShortYears < Sample.firstOfLongYears ∧
    "1000-01-01T00:00:00" < "999-12-31T23:59:59" :=
  ⟨by decide, by decide +kernel, by decide, by decide +kernel, by decide +kernel, by decide +kernel,
    by decide, by decide⟩

end EventDigest.Time
