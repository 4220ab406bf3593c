import Winnow.Proofs.Number.Digits
import Winnow.Text.Case

set_option autoImplicit false

/-!
# Images under the case mappings

The tables of the case mappings hold more than a thousand characters. What is needed of all of them
is read off the entries of the tables: which characters have an image that can stand in a given
word, and that blanks are neither made nor lost, so that it does not matter whether a text is
trimmed before or after its case is changed.

## Main definitions

* `Winnow.Text.Run` — one entry of a table of runs.
* `Winnow.Text.RespectsBlanks` — what the tables of a mapping have to say of blanks.

## Main results

* `Winnow.Text.image_cases` — the image of a code point by a run, by an expansion, or as itself.
* `Winnow.Text.mem_of_image_infix` — beyond the first 128 code points, only listed ones have images
  that can stand in given words.
* `Winnow.Text.trim_upper`, `Winnow.Text.trim_lower` — trimming and changing the case commute.
-/

namespace Winnow.Text

/-! ## Code points and characters -/

/-- A character is one of the first 128 code points or comes after them; the first ones can be gone
through. -/
theorem forall_plain {P : Char → Prop} (h : ∀ n < 128, P (Char.ofNat n)) {c : Char}
    (hc : c.toNat < 128) : P c := by
  have := h c.toNat hc
  rwa [Char.ofNat_toNat] at this

/-- The code point of the character with a code point is that code point, or zero if there is no
such character. -/
theorem toNat_ofNat_cases (n : Nat) : (Char.ofNat n).toNat = n ∨ (Char.ofNat n).toNat = 0 := by
  by_cases h : n.isValidChar
  · exact .inl (congrArg Char.toNat (dif_pos h))
  · exact .inr (congrArg Char.toNat (dif_neg h))

/-- A code point within a list of ranges lies in one of them. -/
theorem exists_range_of_inRanges {ranges : List (Nat × Nat)} {n : Nat}
    (h : inRanges ranges n = true) : ∃ range ∈ ranges, range.1 ≤ n ∧ n ≤ range.2 := by
  induction ranges with
  | nil => cases h
  | cons range ranges ih =>
    obtain ⟨first, last⟩ := range
    unfold inRanges at h
    split at h
    · cases h
    · split at h
      · exact ⟨(first, last), List.mem_cons_self, by omega, by omega⟩
      · obtain ⟨range, hmem, hrange⟩ := ih h
        exact ⟨range, List.mem_cons_of_mem _ hmem, hrange⟩

/-! ## Tables -/

/-- An entry of a table of runs: first and last code point, step and offset. -/
abbrev Run : Type := Nat × Nat × Nat × Int

variable {runs : List Run} {expansions : List (Nat × List Nat)}

/-- The image that a list of runs gives to a code point comes from one of them. -/
theorem exists_run_of_runImage? {n m : Nat} (h : runImage? runs n = some m) :
    ∃ run ∈ runs, run.1 ≤ n ∧ n ≤ run.2.1 ∧ m = Int.toNat (n + run.2.2.2) := by
  induction runs with
  | nil => cases h
  | cons run runs ih =>
    obtain ⟨first, last, step, offset⟩ := run
    unfold runImage? at h
    split at h
    · rename_i hrange
      exact ⟨(first, last, step, offset), List.mem_cons_self, hrange.1, hrange.2.1,
        (Option.some.inj h).symm⟩
    · split at h
      · cases h
      · obtain ⟨run, hmem, hrun⟩ := ih h
        exact ⟨run, List.mem_cons_of_mem _ hmem, hrun⟩

/-- The image of a code point is given by a run or by an expansion, or is the code point itself. -/
theorem image_cases (runs : List Run) (expansions : List (Nat × List Nat)) (n : Nat) :
    (∃ run ∈ runs, run.1 ≤ n ∧ n ≤ run.2.1 ∧
      image runs expansions n = [Int.toNat (n + run.2.2.2)]) ∨
    (∃ e ∈ expansions, e.1 = n ∧ image runs expansions n = e.2) ∨
    image runs expansions n = [n] := by
  unfold image
  cases hrun : runImage? runs n with
  | some m =>
    obtain ⟨run, hmem, hfirst, hlast, rfl⟩ := exists_run_of_runImage? hrun
    exact .inl ⟨run, hmem, hfirst, hlast, rfl⟩
  | none =>
    right
    cases hlookup : expansions.lookup n with
    | some ms =>
      obtain ⟨before, after, hsplit, -⟩ := List.lookup_eq_some_iff.mp hlookup
      exact .inl ⟨(n, ms), by simp [hsplit], rfl, rfl⟩
    | none => exact .inr rfl

/-! ## Images that can stand in a word -/

/-- **Characters beyond the first 128 code points.** Given words of the first 128 code points, only
certain characters beyond them have an image that can stand in one of the words, if this can be
seen from the entries of the tables.

**Proof sketch.** The images by a run begin at the image of its first code point. If that is beyond
the first 128 code points as well, then so are all of them. -/
theorem mem_of_image_infix {words : List (List Char)} {special : List Nat}
    (hwords : ∀ word ∈ words, ∀ c ∈ word, c ≠ Char.ofNat 0 ∧ c.toNat < 128)
    (hruns : ∀ run ∈ runs, run.2.1 < 128 ∨ 128 ≤ (run.1 : Int) + run.2.2.2 ∨
      run.1 = run.2.1 ∧ (run.1 ∈ special ∨
        ∀ word ∈ words, Char.ofNat (Int.toNat (run.1 + run.2.2.2)) ∉ word))
    (hexpansions : ∀ e ∈ expansions, e.1 ∈ special ∨
      ∀ word ∈ words, ¬ e.2.map Char.ofNat <:+: word)
    {n : Nat} (hn : 128 ≤ n) {word : List Char} (hword : word ∈ words)
    (h : (image runs expansions n).map Char.ofNat <:+: word) : n ∈ special := by
  have hforeign : ∀ m, 128 ≤ m → Char.ofNat m ∉ word := by
    intro m hm hmem
    obtain ⟨hne, hlt⟩ := hwords word hword _ hmem
    rcases toNat_ofNat_cases m with hcode | hcode
    · omega
    · exact hne (by rw [← Char.ofNat_toNat (Char.ofNat m), hcode])
  rcases image_cases runs expansions n with
    ⟨run, hmem, hfirst, hlast, himage⟩ | ⟨e, hmem, rfl, himage⟩ | himage
  · have hin : Char.ofNat (Int.toNat (n + run.2.2.2)) ∈ word := by
      rw [himage] at h
      exact h.subset (by simp)
    rcases hruns run hmem with hlow | hhigh | ⟨hsingle, hspecial | hword'⟩
    · omega
    · exact absurd hin (hforeign _ (by omega))
    · obtain rfl : run.1 = n := by omega
      exact hspecial
    · obtain rfl : run.1 = n := by omega
      exact absurd hin (hword' word hword)
  · rw [himage] at h
    exact (hexpansions e hmem).elim id fun hfar => absurd h (hfar word hword)
  · rw [himage] at h
    exact absurd (h.subset (by simp)) (hforeign n hn)

/-! ## Blanks -/

/-- What the tables of a mapping have to say of blanks: blanks are their own images, and other
characters have images without blanks. -/
structure RespectsBlanks (runs : List Run) (expansions : List (Nat × List Nat)) : Prop where
  blank : ∀ range ∈ blankRanges, ∀ d ≤ range.2 - range.1,
    image runs expansions (range.1 + d) = [range.1 + d]
  run : ∀ run ∈ runs, ∀ range ∈ blankRanges,
    Int.toNat (run.2.1 + run.2.2.2) < range.1 ∨ range.2 < Int.toNat (run.1 + run.2.2.2)
  expansion : ∀ e ∈ expansions, e.2 ≠ [] ∧ ∀ m ∈ e.2, inRanges blankRanges m = false

/-- The mapping to upper case respects blanks. -/
theorem respectsBlanks_upper : RespectsBlanks upperRuns upperExpansions :=
  ⟨by decide +kernel, by decide +kernel, by decide +kernel⟩

/-- The mapping to lower case respects blanks. -/
theorem respectsBlanks_lower : RespectsBlanks lowerRuns lowerExpansions :=
  ⟨by decide +kernel, by decide +kernel, by decide +kernel⟩

/-- A code point that is no blank is none as a character. -/
theorem isBlank_ofNat {n : Nat} (h : inRanges blankRanges n = false) :
    isBlank (Char.ofNat n) = false := by
  unfold isBlank
  rcases toNat_ofNat_cases n with hcode | hcode
  · rw [hcode, h]
  · rw [hcode]
    decide

namespace RespectsBlanks

variable (h : RespectsBlanks runs expansions)

include h

/-- A blank is its own image. -/
theorem image_of_isBlank {c : Char} (hc : isBlank c = true) :
    (image runs expansions c.toNat).map Char.ofNat = [c] := by
  obtain ⟨range, hmem, hfirst, hlast⟩ := exists_range_of_inRanges hc
  have himage := h.blank range hmem (c.toNat - range.1) (by omega)
  rw [Nat.add_sub_cancel' hfirst] at himage
  rw [himage, List.map_singleton, Char.ofNat_toNat]

/-- Another character has an image, and no blank is in it. -/
theorem image_of_not_isBlank {c : Char} (hc : isBlank c = false) :
    (image runs expansions c.toNat).map Char.ofNat ≠ [] ∧
      ∀ d ∈ (image runs expansions c.toNat).map Char.ofNat, isBlank d = false := by
  have hpoints : image runs expansions c.toNat ≠ [] ∧
      ∀ m ∈ image runs expansions c.toNat, inRanges blankRanges m = false := by
    rcases image_cases runs expansions c.toNat with
      ⟨run, hmem, hfirst, hlast, himage⟩ | ⟨e, hmem, -, himage⟩ | himage
    · rw [himage]
      refine ⟨by simp, fun m hm => ?_⟩
      obtain rfl := List.mem_singleton.mp hm
      rw [Bool.eq_false_iff]
      intro hblank
      obtain ⟨range, hrange, hlow, hhigh⟩ := exists_range_of_inRanges hblank
      have := h.run run hmem range hrange
      omega
    · rw [himage]
      exact h.expansion e hmem
    · rw [himage]
      exact ⟨by simp, fun m hm => List.mem_singleton.mp hm ▸ hc⟩
  refine ⟨by simpa using hpoints.1, fun d hd => ?_⟩
  obtain ⟨m, hm, rfl⟩ := List.mem_map.mp hd
  exact isBlank_ofNat (hpoints.2 m hm)

end RespectsBlanks

/-! ## Trimming -/

section Trimming

variable {g : Char → List Char} (hblank : ∀ c, isBlank c = true → g c = [c])
  (hother : ∀ c, isBlank c = false → g c ≠ [] ∧ ∀ d ∈ g c, isBlank d = false)

include hblank hother

/-- Dropping the blanks at the front commutes with a mapping that neither makes nor loses blanks. -/
theorem dropWhile_isBlank_flatMap (cs : List Char) :
    (cs.flatMap g).dropWhile isBlank = (cs.dropWhile isBlank).flatMap g := by
  induction cs with
  | nil => rfl
  | cons c cs ih =>
    cases hc : isBlank c with
    | true =>
      rw [List.flatMap_cons, hblank c hc, List.singleton_append, List.dropWhile_cons_of_pos hc,
        List.dropWhile_cons_of_pos hc, ih]
    | false =>
      obtain ⟨hne, hnone⟩ := hother c hc
      obtain ⟨d, ds, hds⟩ := List.exists_cons_of_ne_nil hne
      have hd : isBlank d = false := hnone d (by simp [hds])
      rw [List.dropWhile_cons_of_neg (by simp [hc]), List.flatMap_cons, hds, List.cons_append,
        List.dropWhile_cons_of_neg (by simp [hd])]

/-- Trimming commutes with a mapping that neither makes nor loses blanks. -/
theorem trimChars_flatMap (cs : List Char) :
    trimChars (cs.flatMap g) = (trimChars cs).flatMap g := by
  have hback : ∀ ds : List Char,
      (ds.flatMap g).reverse.dropWhile isBlank = (ds.reverse.dropWhile isBlank).flatMap
        fun c => (g c).reverse := by
    intro ds
    rw [List.reverse_flatMap]
    refine dropWhile_isBlank_flatMap (fun c hc => ?_) (fun c hc => ?_) ds.reverse
    · simp [hblank c hc]
    · simpa using hother c hc
  unfold trimChars
  rw [dropWhile_isBlank_flatMap hblank hother, hback, List.reverse_flatMap]
  simp [Function.comp_def]

end Trimming

/-- Trimming and taking the upper-case image commute. -/
theorem trim_upper (text : String) : trim (upper text) = upper (trim text) := by
  have hchars := trimChars_flatMap (g := upperImage)
    (fun c => respectsBlanks_upper.image_of_isBlank)
    (fun c => respectsBlanks_upper.image_of_not_isBlank) text.toList
  simp only [trim, upper, String.toList_ofList, hchars]

/-- Trimming and taking the lower-case image commute. -/
theorem trim_lower (text : String) : trim (lower text) = lower (trim text) := by
  have hchars := trimChars_flatMap (g := lowerImage)
    (fun c => respectsBlanks_lower.image_of_isBlank)
    (fun c => respectsBlanks_lower.image_of_not_isBlank) text.toList
  simp only [trim, lower, String.toList_ofList, hchars]

end Winnow.Text
