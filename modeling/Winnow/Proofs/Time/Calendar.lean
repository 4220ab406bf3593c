import Mathlib.Algebra.BigOperators.Intervals
import Mathlib.Algebra.Order.BigOperators.Group.Finset
import Mathlib.Data.List.Lex
import Mathlib.Tactic.MkIffOfInductiveProp
import Winnow.Log.Timestamp

set_option autoImplicit false

/-!
# The calendar and the line of time

Which days there are, and how far a time is from the start of the first year. Days are counted out,
month by month and year by year, so nothing but the lengths of months and years is laid down here.
The count goes with the components of a time, the year first, compared one after another.

## Main definitions

* `Winnow.Calendar.daysInMonth`, `Winnow.Calendar.daysInYear` — the lengths of months and years.
* `Winnow.Timestamp.IsValid` — a time on a day that there is.
* `Winnow.Timestamp.instant` — the place of a time on the line of time, in microseconds.
* `Winnow.Timestamp.components` — year, month, day and the parts of the time of day.

## Main results

* `Winnow.Calendar.sum_daysInMonth` — the months of a year make up the year.
* `Winnow.Timestamp.IsValid.instant_lt_iff` — of two times with one offset, that one is earlier
  whose components come first.

## Design

The offset is taken off at the end, so the two times may well lie in different years of universal
time, and even before its first one.
-/

namespace Winnow

namespace Calendar

/-! ## Months and years -/

/-- Every fourth year has a day more, but of the full centuries only every fourth. -/
def IsLeap (year : Nat) : Prop :=
  4 ∣ year ∧ (100 ∣ year → 400 ∣ year)

instance (year : Nat) : Decidable (IsLeap year) :=
  inferInstanceAs (Decidable (_ ∧ _))

/-- The number of days of a month. -/
def daysInMonth (year month : Nat) : Nat :=
  match month with
  | 2 => if IsLeap year then 29 else 28
  | 4 | 6 | 9 | 11 => 30
  | _ => 31

/-- The number of days of a year. -/
def daysInYear (year : Nat) : Nat :=
  if IsLeap year then 366 else 365

/-- The months of a year make up the year. -/
theorem sum_daysInMonth (year : Nat) :
    ∑ month ∈ Finset.Ico 1 13, daysInMonth year month = daysInYear year := by
  have hmonths : Finset.Ico 1 13 = ({1, 2, 3, 4, 5, 6, 7, 8, 9, 10, 11, 12} : Finset ℕ) := by
    decide
  rw [hmonths]
  by_cases hleap : IsLeap year <;> simp [daysInMonth, daysInYear, hleap]

/-- No month has more than 31 days. -/
theorem daysInMonth_le (year month : Nat) : daysInMonth year month ≤ 31 := by
  unfold daysInMonth
  split <;> try split
  all_goals decide

/-! ## Counting -/

/-- Of parts one after another, an earlier one ends before a later one begins. -/
theorem sum_Ico_add_lt {size : ℕ → ℕ} {first a b rest : ℕ} (hfirst : first ≤ a) (hab : a < b)
    (hrest : rest < size a) :
    ∑ i ∈ Finset.Ico first a, size i + rest < ∑ i ∈ Finset.Ico first b, size i :=
  calc ∑ i ∈ Finset.Ico first a, size i + rest
    _ < ∑ i ∈ Finset.Ico first a, size i + size a := by omega
    _ = ∑ i ∈ Finset.Ico first (a + 1), size i := (Finset.sum_Ico_succ_top hfirst size).symm
    _ ≤ ∑ i ∈ Finset.Ico first b, size i :=
      Finset.sum_le_sum_of_subset (Finset.Ico_subset_Ico_right hab)

end Calendar

namespace Timestamp

open Calendar

/-! ## Times that there are -/

/-- The day is on the calendar, in one of the years that are written with four digits, and the time
is one of that day. Nothing is asked of the offset. -/
@[mk_iff]
structure IsValid (t : Timestamp) : Prop where
  year_pos : 1 ≤ t.year
  year_le : t.year ≤ 9999
  month_pos : 1 ≤ t.month
  month_le : t.month ≤ 12
  day_pos : 1 ≤ t.day
  day_le : t.day ≤ daysInMonth t.year t.month
  hour_lt : t.hour < 24
  minute_lt : t.minute < 60
  second_lt : t.second < 60
  microsecond_lt : t.microsecond < 1000000

instance (t : Timestamp) : Decidable t.IsValid :=
  decidable_of_iff _ (isValid_iff t).symm

variable {s t : Timestamp}

/-- The days of its month before a day are fewer than the month has. -/
theorem IsValid.day_sub_one_lt (ht : t.IsValid) : t.day - 1 < daysInMonth t.year t.month := by
  have := ht.day_pos
  have := ht.day_le
  omega

/-! ## The line of time -/

/-- The number of days of its year before that of a time. -/
def dayOfYear (t : Timestamp) : Nat :=
  ∑ month ∈ Finset.Ico 1 t.month, daysInMonth t.year month + (t.day - 1)

/-- The number of days from the first one of the first year to that of a time. -/
def dayNumber (t : Timestamp) : Nat :=
  ∑ year ∈ Finset.Ico 1 t.year, daysInYear year + t.dayOfYear

/-- From the first day of the first year to that of 1970. -/
example : dayNumber ⟨1970, 1, 1, 0, 0, 0, 0, none⟩ = 719162 := by decide +kernel

/-- The microseconds of its day that have passed at a time. -/
def timeOfDay (t : Timestamp) : Nat :=
  ((t.hour * 60 + t.minute) * 60 + t.second) * 1000000 + t.microsecond

/-- The place of a time on the line of time: the microseconds from the start of the first year, by
universal time if there is an offset from it. -/
def instant (t : Timestamp) : Int :=
  (t.dayNumber * 86400000000 + t.timeOfDay : Nat) - t.offset?.getD 0 * 1000000

/-- The parts of a time that count it, the year first. -/
def components (t : Timestamp) : List Nat :=
  [t.year, t.month, t.day, t.hour, t.minute, t.second, t.microsecond]

/-- Two times with one offset are the same, or the components of one of them come first. -/
theorem components_trichotomy (hoffset : s.offset? = t.offset?) :
    s.components < t.components ∨ s = t ∨ t.components < s.components := by
  have hsame : s.components = t.components → s = t := by
    cases s
    cases t
    simp_all [components]
  exact (lt_trichotomy s.components t.components).imp_right (Or.imp_left hsame)

/-- A day lies in its year. -/
theorem IsValid.dayOfYear_lt (ht : t.IsValid) : t.dayOfYear < daysInYear t.year := by
  rw [← sum_daysInMonth]
  exact sum_Ico_add_lt ht.month_pos (Nat.lt_succ_of_le ht.month_le) ht.day_sub_one_lt

/-- A time lies in its day. -/
theorem IsValid.timeOfDay_lt (ht : t.IsValid) : t.timeOfDay < 86400000000 := by
  have := ht.hour_lt
  have := ht.minute_lt
  have := ht.second_lt
  have := ht.microsecond_lt
  rw [timeOfDay]
  omega

/-- Days are counted by year, month and day. -/
theorem IsValid.dayNumber_lt (hs : s.IsValid)
    (h : s.year < t.year ∨ s.year = t.year ∧
      (s.month < t.month ∨ s.month = t.month ∧ s.day < t.day)) :
    s.dayNumber < t.dayNumber := by
  have hday := hs.day_pos
  rw [dayNumber, dayNumber]
  rcases h with hyear | ⟨hyear, hmonth | ⟨hmonth, hlt⟩⟩
  · have := sum_Ico_add_lt hs.year_pos hyear hs.dayOfYear_lt
    omega
  · have := sum_Ico_add_lt hs.month_pos hmonth hs.day_sub_one_lt
    rw [dayOfYear, dayOfYear, ← hyear]
    omega
  · rw [dayOfYear, dayOfYear, ← hyear, ← hmonth]
    omega

/-- A time whose components come first is earlier.

**Proof sketch.** If the days differ, then the time of day makes up for less than one of them. If
they do not, then the times of day decide. -/
theorem IsValid.instant_lt (hs : s.IsValid) (hoffset : s.offset? = t.offset?)
    (h : s.components < t.components) : s.instant < t.instant := by
  simp only [components, List.cons_lt_cons_iff, List.lt_irrefl, and_false, or_false] at h
  rw [instant, instant, hoffset]
  by_cases hdate : s.year < t.year ∨ s.year = t.year ∧
      (s.month < t.month ∨ s.month = t.month ∧ s.day < t.day)
  · have := hs.dayNumber_lt hdate
    have := hs.timeOfDay_lt
    omega
  · have hsame : s.year = t.year ∧ s.month = t.month ∧ s.day = t.day := by omega
    have hday : s.dayNumber = t.dayNumber := by
      obtain ⟨hyear, hmonth, hday⟩ := hsame
      rw [dayNumber, dayNumber, dayOfYear, dayOfYear, hyear, hmonth, hday]
    have htime : s.timeOfDay < t.timeOfDay := by
      have := hs.minute_lt
      have := hs.second_lt
      have := hs.microsecond_lt
      rw [timeOfDay, timeOfDay]
      omega
    omega

/-- **The line of time.** Of two times with one offset, that one is earlier whose components come
first. -/
theorem IsValid.instant_lt_iff (hs : s.IsValid) (ht : t.IsValid) (hoffset : s.offset? = t.offset?) :
    s.instant < t.instant ↔ s.components < t.components := by
  refine ⟨fun h => ?_, hs.instant_lt hoffset⟩
  rcases components_trichotomy hoffset with hlt | rfl | hgt
  · exact hlt
  · exact absurd h (lt_irrefl _)
  · exact absurd (ht.instant_lt hoffset.symm hgt) h.asymm

/-- What sorts two times with one offset as their components tells them apart. -/
theorem eq_iff_of_lt_iff {α : Type} [Preorder α] {key : Timestamp → α}
    (hoffset : s.offset? = t.offset?) (hlt : key s < key t ↔ s.components < t.components)
    (hgt : key t < key s ↔ t.components < s.components) : key s = key t ↔ s = t := by
  refine ⟨fun h => ?_, congrArg key⟩
  rcases components_trichotomy hoffset with hfirst | heq | hlast
  · exact absurd h (hlt.mpr hfirst).ne
  · exact heq
  · exact absurd h (hgt.mpr hlast).ne'

end Timestamp

end Winnow
