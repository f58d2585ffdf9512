import EventDigest.Time.Calendar
import Mathlib.Algebra.Ring.Nat
import Mathlib.Tactic.SplitIfs

/-! # Days and their dates

Every day has one date: counting the days before the date of a day gives the day back, and that date
is one of the calendar. Dates of the calendar stand in the order of their days.
-/
set_option autoImplicit false
namespace EventDigest.Time

theorem isLeap_iff (year : Nat) :
    isLeap year = true ↔ 4 ∣ year ∧ (¬ 100 ∣ year ∨ 400 ∣ year) := by
  simp [isLeap, Nat.dvd_iff_mod_eq_zero]

def yearLength (year : Nat) : Nat := (monthLengths (isLeap year)).sum

theorem yearLength_eq (year : Nat) :
    yearLength year = if isLeap year = true then 366 else 365 := by
  rw [yearLength]
  cases isLeap year with
  | true => rfl
  | false => rfl

theorem daysBeforeYear_eq (past : Nat) :
    daysBeforeYear (past + 1) = 365 * past + past / 4 - past / 100 + past / 400 := rfl

theorem daysBeforeYear_succ {year : Nat} (h : 1 ≤ year) :
    daysBeforeYear (year + 1) = daysBeforeYear year + yearLength year := by
  obtain ⟨past, rfl⟩ := Nat.exists_eq_add_of_le' h
  have hCenturies : past / 100 ≤ past / 4 := Nat.div_le_div_left (by decide) (by decide)
  rw [daysBeforeYear_eq (past + 1), daysBeforeYear_eq, yearLength_eq, Nat.succ_div, Nat.succ_div,
    Nat.succ_div]
  simp only [isLeap_iff]
  generalize past / 4 = fours, past / 100 = hundreds, past / 400 = cycles at hCenturies ⊢
  -- The counts of passed multiples grow where the year is one; the leap rule speaks of the same.
  split_ifs <;> omega

theorem daysBeforeYear_mono {year later : Nat} (hYear : 1 ≤ year) (h : year ≤ later) :
    daysBeforeYear year ≤ daysBeforeYear later := by
  induction h with
  | refl => exact Nat.le_refl _
  | @step later hLater ih =>
    rw [daysBeforeYear_succ (Nat.le_trans hYear hLater)]
    omega

/-- The days before a year that is given by its place in the cycles of four hundred, one hundred and
four years. -/
theorem daysBeforeYear_cycles {cycles centuries leaps years : Nat} (hCenturies : centuries ≤ 3)
    (hLeaps : leaps ≤ 24) (hYears : years ≤ 3) :
    daysBeforeYear (400 * cycles + 100 * centuries + 4 * leaps + years + 1) =
      146097 * cycles + 36524 * centuries + 1461 * leaps + 365 * years := by
  rw [daysBeforeYear_eq]
  omega

theorem sum_take_succ {lengths : List Nat} {i length : Nat} (h : lengths[i]? = some length) :
    (lengths.take (i + 1)).sum = (lengths.take i).sum + length := by
  simp [List.take_add_one, h]

theorem sum_take_le (lengths : List Nat) (i : Nat) : (lengths.take i).sum ≤ lengths.sum := by
  have hSum := congrArg List.sum (List.take_append_drop i lengths)
  rw [List.sum_append_nat] at hSum
  omega

theorem sum_take_mono (lengths : List Nat) {i j : Nat} (h : i ≤ j) :
    (lengths.take i).sum ≤ (lengths.take j).sum := by
  have hLess := sum_take_le (lengths.take j) i
  rwa [List.take_take, Nat.min_eq_left h] at hLess

/-- A day of a year lies in one of its months. -/
theorem inMonths_spec {lengths : List Nat} {index : Nat} (h : index < lengths.sum) :
    ∃ month day length, Date.inMonths lengths index = (month + 1, day + 1) ∧
      lengths[month]? = some length ∧ day < length ∧ (lengths.take month).sum + day = index := by
  induction lengths generalizing index with
  | nil => cases h
  | cons first rest ih =>
    rw [List.sum_cons] at h
    rw [Date.inMonths]
    split
    · rename_i hFirst
      exact ⟨0, index, first, rfl, rfl, hFirst, by simp⟩
    · rename_i hLater
      have hRest : index - first < rest.sum := by omega
      obtain ⟨month, day, length, hDate, hLength, hDay, hIndex⟩ := ih hRest
      refine ⟨month + 1, day, length, by rw [hDate], hLength, hDay, ?_⟩
      rw [List.take_succ_cons, List.sum_cons]
      omega

namespace Date

/-- A date of the calendar, with its month and its day counted from zero. -/
theorem isValid_iff (d : Date) : d.isValid = true ↔ ∃ year month day length, 1 ≤ year ∧
    d = ⟨year, month + 1, day + 1⟩ ∧ (monthLengths (isLeap year))[month]? = some length ∧
      day < length := by
  obtain ⟨year, month, day⟩ := d
  simp only [isValid, Bool.and_eq_true, decide_eq_true_eq]
  constructor
  · rintro ⟨⟨⟨hYear, hMonth⟩, hDay⟩, hLength⟩
    split at hLength
    · rename_i length hFound
      rw [decide_eq_true_eq] at hLength
      refine ⟨year, month - 1, day - 1, length, hYear, ?_, hFound, by omega⟩
      rw [Nat.sub_add_cancel hMonth, Nat.sub_add_cancel hDay]
    · cases hLength
  · rintro ⟨y, m, d, length, hYear, hDate, hFound, hDay⟩
    obtain ⟨rfl, rfl, rfl⟩ := Date.mk.inj hDate
    rw [Nat.add_sub_cancel, hFound]
    simp
    omega

theorem dayNumber_eq (year month day : Nat) : dayNumber ⟨year, month + 1, day + 1⟩ =
    daysBeforeYear year + ((monthLengths (isLeap year)).take month).sum + day := rfl

/-- A place in the cycles is a place in the year there; only the last year of a cycle has a place
for one day more, and the last one of a century only if it ends four hundred years. -/
theorem index_lt_yearLength {cycles centuries leaps years index : Nat} (hLeaps : leaps ≤ 24)
    (hYears : years ≤ 3)
    (hIndex : index < 365 ∨ index = 365 ∧ years = 3 ∧ (leaps = 24 → centuries = 3)) :
    index < yearLength (400 * cycles + 100 * centuries + 4 * leaps + years + 1) := by
  rw [yearLength_eq]
  split
  · omega
  · rename_i hLeap
    rw [isLeap_iff] at hLeap
    omega

/-- A day is split into its year and its place in it. -/
theorem exists_ofDayNumber (n : Nat) : ∃ year index, 1 ≤ year ∧ index < yearLength year ∧
    daysBeforeYear year + index = n ∧ ofDayNumber n =
      ⟨year, (inMonths (monthLengths (isLeap year)) index).1,
        (inMonths (monthLengths (isLeap year)) index).2⟩ := by
  have hCenturies : min (n % 146097 / 36524) 3 ≤ 3 := Nat.min_le_right ..
  have hLeaps : (n % 146097 - min (n % 146097 / 36524) 3 * 36524) / 1461 ≤ 24 := by omega
  have hYears : min ((n % 146097 - min (n % 146097 / 36524) 3 * 36524) % 1461 / 365) 3 ≤ 3 :=
    Nat.min_le_right ..
  refine ⟨_, _, Nat.le_add_left .., index_lt_yearLength hLeaps hYears ?_, ?_, rfl⟩
  · omega
  · rw [daysBeforeYear_cycles hCenturies hLeaps hYears]
    omega

/-- The date of a day: its year, its month and its day in the month, the last two counted from
zero. -/
theorem ofDayNumber_spec (n : Nat) : ∃ year month day length, 1 ≤ year ∧
    ofDayNumber n = ⟨year, month + 1, day + 1⟩ ∧
    (monthLengths (isLeap year))[month]? = some length ∧ day < length ∧
    daysBeforeYear year + ((monthLengths (isLeap year)).take month).sum + day = n := by
  obtain ⟨year, index, hYear, hIndex, hDay, hDate⟩ := exists_ofDayNumber n
  obtain ⟨month, day, length, hMonth, hLength, hLess, hSum⟩ := inMonths_spec hIndex
  refine ⟨year, month, day, length, hYear, ?_, hLength, hLess, ?_⟩
  · rw [hDate, hMonth]
  · rw [Nat.add_assoc, hSum, hDay]

theorem dayNumber_ofDayNumber (n : Nat) : (ofDayNumber n).dayNumber = n := by
  obtain ⟨year, month, day, length, _, hDate, _, _, hDay⟩ := ofDayNumber_spec n
  rw [hDate, dayNumber_eq, hDay]

theorem isValid_ofDayNumber (n : Nat) : (ofDayNumber n).isValid = true := by
  obtain ⟨year, month, day, length, hYear, hDate, hLength, hLess, _⟩ := ofDayNumber_spec n
  exact (isValid_iff _).mpr ⟨year, month, day, length, hYear, hDate, hLength, hLess⟩

theorem year_ofDayNumber_lt {n year : Nat} (hYear : 1 ≤ year) (h : n < daysBeforeYear year) :
    (ofDayNumber n).year < year := by
  obtain ⟨y, month, day, length, _, hDate, _, _, hDay⟩ := ofDayNumber_spec n
  rw [hDate]
  change y < year
  refine Nat.lt_of_not_le fun hLate => ?_
  have hMono := daysBeforeYear_mono hYear hLate
  omega

/-- Months and days of the calendar have at most two digits. -/
theorem bounds_of_isValid {d : Date} (h : d.isValid = true) : d.month ≤ 12 ∧ d.day ≤ 31 := by
  obtain ⟨year, month, day, length, _, rfl, hLength, hLess⟩ := (isValid_iff d).mp h
  have hCount : ∀ leap, (monthLengths leap).length = 12 := by decide
  have hLong : ∀ leap, ∀ length ∈ monthLengths leap, length ≤ 31 := by decide
  have hIndex := (List.getElem?_eq_some_iff.mp hLength).1
  rw [hCount] at hIndex
  have hAtMost := hLong _ _ (List.mem_of_getElem? hLength)
  exact ⟨hIndex, Nat.le_trans hLess hAtMost⟩

/-- An earlier year, or an earlier month of one year, or an earlier day of one month. -/
def Before (d e : Date) : Prop :=
  d.year < e.year ∨ d.year = e.year ∧ (d.month < e.month ∨ d.month = e.month ∧ d.day < e.day)

theorem before_total (d e : Date) : d.Before e ∨ d = e ∨ e.Before d := by
  obtain ⟨_, _, _⟩ := d
  obtain ⟨_, _, _⟩ := e
  simp only [Before, Date.mk.injEq]
  omega

theorem dayNumber_lt {d e : Date} (hd : d.isValid = true) (he : e.isValid = true)
    (h : d.Before e) : d.dayNumber < e.dayNumber := by
  obtain ⟨year, month, day, length, hYear, rfl, hLength, hLess⟩ := (isValid_iff d).mp hd
  obtain ⟨later, month', day', _, _, rfl, _, _⟩ := (isValid_iff e).mp he
  have hMonth := sum_take_succ hLength
  rw [dayNumber_eq, dayNumber_eq]
  dsimp only [Before] at h
  rcases h with hYears | ⟨hSame, hMonths | ⟨hSameMonth, hDays⟩⟩
  · have hBefore := daysBeforeYear_mono (Nat.le_add_left 1 year) hYears
    have hWithin := sum_take_le (monthLengths (isLeap year)) (month + 1)
    rw [daysBeforeYear_succ hYear, yearLength] at hBefore
    omega
  · obtain rfl : year = later := hSame
    have hBefore := sum_take_mono (monthLengths (isLeap year)) (Nat.succ_le_succ_iff.mp hMonths)
    omega
  · obtain rfl : year = later := hSame
    obtain rfl : month = month' := Nat.succ.inj hSameMonth
    exact Nat.add_lt_add_left (Nat.succ_lt_succ_iff.mp hDays) _

/-- The dates of the calendar stand in the order of their days. -/
theorem dayNumber_lt_iff {d e : Date} (hd : d.isValid = true) (he : e.isValid = true) :
    d.dayNumber < e.dayNumber ↔ d.Before e := by
  constructor
  · intro h
    rcases before_total d e with hBefore | rfl | hAfter
    · exact hBefore
    · exact (Nat.lt_irrefl _ h).elim
    · exact (Nat.lt_asymm h (dayNumber_lt he hd hAfter)).elim
  · exact dayNumber_lt hd he

end Date
end EventDigest.Time
