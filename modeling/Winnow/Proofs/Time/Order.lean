import Mathlib.Data.String.Basic
import Winnow.Log.Journal
import Winnow.Proofs.Time.Calendar

set_option autoImplicit false

/-!
# The order of written times

Written times sort as text in the order of the times, if they have the same offset. The fields
before the fraction have fixed widths and are filled up with zeros, so they sort as their numbers. A
fraction that is left out sorts as the least one: what may follow it, the end of the text or the
sign of the offset, comes before the point that begins a fraction.

## Main definitions

* `Winnow.Timestamp.fraction`, `Winnow.Timestamp.offsetText` — the parts of a written time that may
  be left out.

## Main results

* `Winnow.decimalField_append_lt_iff` — fields of one width sort as their numbers.
* `Winnow.Timestamp.fraction_append_lt_iff` — so do fractions, left out or not.
* `Winnow.Timestamp.IsValid.render_lt_iff` — written times sort as their components.
* `Winnow.StampedEntry.reported_times_sort` — the times that are reported of entries sort as times.
-/

namespace Winnow

/-! ## Fields -/

/-- Digits sort as their values, and after one digit it is the rest of the texts that decides. -/
theorem decimalDigit_cons_lt_iff {a b : Nat} (ha : a < 10) (hb : b < 10) (s t : List Char) :
    Char.ofNat (0x30 + a) :: s < Char.ofNat (0x30 + b) :: t ↔ a < b ∨ a = b ∧ s < t := by
  have hall : ∀ a < 10, ∀ b < 10,
      (Char.ofNat (0x30 + a) < Char.ofNat (0x30 + b) ↔ a < b) ∧
      (Char.ofNat (0x30 + a) = Char.ofNat (0x30 + b) ↔ a = b) := by
    decide
  obtain ⟨hlt, heq⟩ := hall a ha b hb
  rw [List.cons_lt_cons_iff, hlt, heq]

/-- **Fields of one width sort as their numbers**, and after fields of one number it is the rest of
the texts that decides.

**Proof sketch.** Induction on the width: a field is that of the number without its last digit, and
then the last digit. -/
theorem decimalField_append_lt_iff {width m n : Nat} (hm : m < 10 ^ width) (hn : n < 10 ^ width)
    (s t : List Char) :
    decimalField width m ++ s < decimalField width n ++ t ↔ m < n ∨ m = n ∧ s < t := by
  induction width generalizing m n s t with
  | zero =>
    obtain rfl : m = 0 := by simpa using hm
    obtain rfl : n = 0 := by simpa using hn
    simp [decimalField]
  | succ width ih =>
    have hm' : m / 10 < 10 ^ width := by omega
    have hn' : n / 10 < 10 ^ width := by omega
    have hmlast : m % 10 < 10 := Nat.mod_lt m (by decide)
    have hnlast : n % 10 < 10 := Nat.mod_lt n (by decide)
    simp only [decimalField, List.append_assoc, List.singleton_append]
    rw [ih hm' hn', decimalDigit_cons_lt_iff hmlast hnlast]
    by_cases hrest : s < t
    · simp only [hrest, and_true]
      omega
    · simp only [hrest, and_false, or_false]
      omega

namespace Timestamp

/-! ## Parts that may be left out -/

/-- The fraction of a second, left out if it is none. -/
def fraction (microsecond : Nat) : List Char :=
  if microsecond = 0 then [] else '.' :: decimalField 6 microsecond

/-- The offset, left out if there is none. -/
def offsetText : Option Int → List Char
  | some offset => renderOffset offset
  | none => []

/-- What follows a fraction comes before the point that begins one. -/
theorem offsetText_lt (offset? : Option Int) : offsetText offset? < ['.'] := by
  cases offset? with
  | none => exact List.nil_lt_cons _ _
  | some offset =>
    simp only [offsetText, renderOffset, List.cons_append]
    split <;> exact List.cons_lt_cons_iff.mpr (.inl (by decide))

/-- **Fractions sort as their numbers**, left out or not, if the same follows and comes before the
point. -/
theorem fraction_append_lt_iff {m n : Nat} (hm : m < 1000000) (hn : n < 1000000) {rest : List Char}
    (hrest : rest < ['.']) : fraction m ++ rest < fraction n ++ rest ↔ m < n := by
  have hpoint : ∀ s : List Char, rest < '.' :: s := by
    intro s
    cases rest with
    | nil => exact List.nil_lt_cons _ _
    | cons c cs =>
      rw [List.cons_lt_cons_iff] at hrest ⊢
      exact .inl (hrest.resolve_right fun h => List.not_lt_nil _ h.2)
  by_cases hm0 : m = 0 <;> by_cases hn0 : n = 0
  · simp [hm0, hn0]
  · simp only [fraction, hm0, hn0, if_true, if_false, List.nil_append, List.cons_append]
    exact iff_of_true (hpoint _) (by omega)
  · simp only [fraction, hm0, hn0, if_true, if_false, List.nil_append, List.cons_append]
    exact iff_of_false (hpoint _).asymm (by omega)
  · simp only [fraction, hm0, hn0, if_false, List.cons_append]
    rw [List.cons_lt_cons_self, decimalField_append_lt_iff hm hn]
    simp

/-! ## Whole times -/

/-- A written time, part by part. -/
theorem toList_render (t : Timestamp) :
    t.render.toList = decimalField 4 t.year ++ '-' :: (decimalField 2 t.month ++ '-' ::
      (decimalField 2 t.day ++ 'T' :: (decimalField 2 t.hour ++ ':' ::
        (decimalField 2 t.minute ++ ':' :: (decimalField 2 t.second ++
          (fraction t.microsecond ++ offsetText t.offset?)))))) := by
  have hparts : t.render = String.ofList
      (decimalField 4 t.year ++ '-' :: decimalField 2 t.month ++ '-' :: decimalField 2 t.day
        ++ 'T' :: decimalField 2 t.hour ++ ':' :: decimalField 2 t.minute
        ++ ':' :: decimalField 2 t.second ++ fraction t.microsecond ++ offsetText t.offset?) := by
    cases t with
    | mk year month day hour minute second microsecond offset? => cases offset? <;> rfl
  rw [hparts, String.toList_ofList]
  simp only [List.append_assoc, List.cons_append]

variable {s t : Timestamp}

/-- **Written times sort as their components.** -/
theorem IsValid.render_lt_iff (hs : s.IsValid) (ht : t.IsValid) (hoffset : s.offset? = t.offset?) :
    s.render < t.render ↔ s.components < t.components := by
  have hsday := hs.day_le.trans (Calendar.daysInMonth_le _ _)
  have htday := ht.day_le.trans (Calendar.daysInMonth_le _ _)
  obtain ⟨-, hsyear, -, hsmonth, -, -, hshour, hsminute, hssecond, hsmicrosecond⟩ := hs
  obtain ⟨-, htyear, -, htmonth, -, -, hthour, htminute, htsecond, htmicrosecond⟩ := ht
  rw [String.lt_iff_toList_lt, toList_render, toList_render, hoffset,
    decimalField_append_lt_iff (by omega) (by omega), List.cons_lt_cons_self,
    decimalField_append_lt_iff (by omega) (by omega), List.cons_lt_cons_self,
    decimalField_append_lt_iff (by omega) (by omega), List.cons_lt_cons_self,
    decimalField_append_lt_iff (by omega) (by omega), List.cons_lt_cons_self,
    decimalField_append_lt_iff (by omega) (by omega), List.cons_lt_cons_self,
    decimalField_append_lt_iff (by omega) (by omega),
    fraction_append_lt_iff hsmicrosecond htmicrosecond (offsetText_lt _)]
  simp only [components, List.cons_lt_cons_iff, List.lt_irrefl, and_false, or_false]

end Timestamp

/-! ## Entries -/

namespace StampedEntry

/-- **Reported times sort as time.** What is reported of two entries with valid times of one offset,
or of none, has a text for the time each. Of these texts, in the order of code points, that one
comes first whose time is earlier, and they are the same just for the same time.

**Proof sketch.** Both orders are that of the components, the year first: the texts by
`Timestamp.IsValid.render_lt_iff`, the times by `Timestamp.IsValid.instant_lt_iff`. -/
theorem reported_times_sort {e f : StampedEntry} (he : e.time.IsValid) (hf : f.time.IsValid)
    (hoffset : e.time.offset? = f.time.offset?) :
    ∃ s t : String,
      e.fields.lookup "timestamp" = some (.text s) ∧
      f.fields.lookup "timestamp" = some (.text t) ∧
      (s < t ↔ e.time.instant < f.time.instant) ∧
      (s = t ↔ e.time.instant = f.time.instant) ∧
      (s = t ↔ e.time = f.time) := by
  have htext := he.render_lt_iff hf hoffset
  have htext' := hf.render_lt_iff he hoffset.symm
  have htime := he.instant_lt_iff hf hoffset
  have htime' := hf.instant_lt_iff he hoffset.symm
  have hsame : e.time.render = f.time.render ↔ e.time = f.time :=
    Timestamp.eq_iff_of_lt_iff hoffset htext htext'
  have hsame' : e.time.instant = f.time.instant ↔ e.time = f.time :=
    Timestamp.eq_iff_of_lt_iff hoffset htime htime'
  exact ⟨e.time.render, f.time.render, rfl, rfl, htext.trans htime.symm, hsame.trans hsame'.symm,
    hsame⟩

/-- The last second of a leap day, half a minute behind universal time, and a microsecond later. The
first text leaves out the fraction, and has the sign of the offset where the other one has a point.
-/
theorem reported_times_sort_fraction :
    let e : StampedEntry := ⟨⟨2024, 2, 29, 23, 59, 59, 0, some (-30)⟩, .reset 2⟩
    let f : StampedEntry := ⟨⟨2024, 2, 29, 23, 59, 59, 1, some (-30)⟩, .policy true⟩
    e.time.IsValid ∧ f.time.IsValid ∧ e.time.offset? = f.time.offset? ∧
      e.fields.lookup "timestamp" = some (.text "2024-02-29T23:59:59-00:00:30") ∧
      f.fields.lookup "timestamp" = some (.text "2024-02-29T23:59:59.000001-00:00:30") ∧
      "2024-02-29T23:59:59-00:00:30" < "2024-02-29T23:59:59.000001-00:00:30" ∧
      e.time.instant < f.time.instant ∧ e.time ≠ f.time := by
  intro e f
  have he : e.time.IsValid := by decide
  have hf : f.time.IsValid := by decide
  have hefields : e.fields.lookup "timestamp" = some (.text "2024-02-29T23:59:59-00:00:30") :=
    congrArg (fun s => some (Detail.text s)) (by decide +kernel : e.time.render = _)
  have hffields : f.fields.lookup "timestamp" =
      some (.text "2024-02-29T23:59:59.000001-00:00:30") :=
    congrArg (fun s => some (Detail.text s)) (by decide +kernel : f.time.render = _)
  have hearlier : e.time.instant < f.time.instant := by decide +kernel
  obtain ⟨s, t, hs, ht, hlt, -, hsame⟩ := reported_times_sort he hf rfl
  obtain rfl := Detail.text.inj (Option.some.inj (hefields.symm.trans hs))
  obtain rfl := Detail.text.inj (Option.some.inj (hffields.symm.trans ht))
  exact ⟨he, hf, rfl, hefields, hffields, hlt.mpr hearlier, hearlier,
    fun h => absurd (hsame.mpr h) (by decide)⟩

end StampedEntry

end Winnow
