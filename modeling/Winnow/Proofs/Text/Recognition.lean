import Mathlib.Data.List.Forall2
import Winnow.Criterion.Evaluation
import Winnow.Proofs.Text.Images
import Winnow.Settings

set_option autoImplicit false

/-!
# Recognised words

Operators, levels, flags and truth values are written as words whose case does not count. Case is
taken away by the mappings of all of Unicode, which have images for far more than the letters that
the words are made of. Here is exactly what is recognised: a few characters may stand for capital
letters of operators and levels, and none but plain letters for those of flags and truth values.

## Main definitions

* `Winnow.Text.Glyphs` — characters that may stand for letters of a word.
* `Winnow.Text.Writes` — a text writes a word in letters of either case and some glyphs.
* `Winnow.Text.IsVariantOf` — a text is a word but for the case of plain letters.

## Main results

* `Winnow.Text.upper_eq_iff` — what has a given upper-case image.
* `Winnow.Text.lower_eq_iff` — what has a given lower-case image.
* `Winnow.recognised_spellings` — what is recognised as an operator, a truth value, a level, a flag.

## Design

`Char.toUpper` and `Char.toLower` of the core library change plain letters only, so they serve to
say what a plain spelling is.
-/

namespace Winnow.Text

/-! ## Spellings -/

/-- Characters that may stand for letters of a word, each with its letters. -/
abbrev Glyphs : Type := List (Char × List Char)

/-- A character stands for part of a word: a plain letter for its capital, a low line for itself, a
glyph for its letters. -/
def Stands (glyphs : Glyphs) (c : Char) (part : List Char) : Prop :=
  (c.isAlpha = true ∨ c = '_') ∧ part = [c.toUpper] ∨ (c, part) ∈ glyphs

instance (glyphs : Glyphs) (c : Char) (part : List Char) : Decidable (Stands glyphs c part) :=
  inferInstanceAs (Decidable (_ ∨ _))

/-- A text writes a word: it splits into characters that stand for the parts of the word. -/
def Writes (glyphs : Glyphs) (text word : String) : Prop :=
  ∃ parts, List.Forall₂ (Stands glyphs) text.toList parts ∧ parts.flatten = word.toList

/-- A text is a word but for the case of plain letters. -/
def IsVariantOf (text word : String) : Prop :=
  text.toList.map Char.toLower = word.toList

instance (text word : String) : Decidable (IsVariantOf text word) :=
  inferInstanceAs (Decidable (_ = _))

/-- Characters beyond the plain ones are their own small letters. -/
theorem toLower_of_le {c : Char} (hc : 128 ≤ c.toNat) : c.toLower = c := by
  refine dif_neg fun hcapital => ?_
  have hle : c.toNat ≤ 90 := hcapital.2
  omega

/-- Only plain characters spell a word of plain characters but for the case. -/
theorem IsVariantOf.forall_plain {text word : String} (h : IsVariantOf text word)
    (hword : ∀ c ∈ word.toList, c.toNat < 128) : ∀ c ∈ text.toList, c.toNat < 128 := by
  intro c hc
  have hin : c.toLower ∈ word.toList := by
    rw [← h]
    exact List.mem_map_of_mem hc
  by_contra hfar
  rw [toLower_of_le (Nat.le_of_not_lt hfar)] at hin
  exact hfar (hword c hin)

/-- What holds of all characters of some words. -/
theorem forall_mem_words {P : Char → Prop} [DecidablePred P] {words : List String}
    (h : (words.all fun word => word.toList.all fun c => P c) = true) :
    ∀ word ∈ words, ∀ c ∈ word.toList, P c :=
  fun word hword => forall_mem_of_all (List.all_eq_true.mp h word hword)

/-- A text whose characters have images is a word, if the images are the parts of the word that the
characters stand for. -/
theorem flatMap_eq_iff {g : Char → List Char} {stands : Char → List Char → Prop} {word : List Char}
    (h : ∀ c part, part <:+: word → (g c = part ↔ stands c part)) (cs : List Char) :
    cs.flatMap g = word ↔ ∃ parts, List.Forall₂ stands cs parts ∧ parts.flatten = word := by
  have hparts : ∀ (cs : List Char) (parts : List (List Char)), (∀ part ∈ parts, part <:+: word) →
      (List.Forall₂ stands cs parts ↔ cs.map g = parts) := by
    intro cs
    induction cs with
    | nil =>
      intro parts _
      cases parts <;> simp
    | cons c cs ih =>
      intro parts hinfix
      cases parts with
      | nil => simp
      | cons part parts =>
        rw [List.forall_mem_cons] at hinfix
        rw [List.forall₂_cons, ih parts hinfix.2, ← h c part hinfix.1, List.map_cons,
          List.cons_eq_cons]
  constructor
  · rintro rfl
    rw [List.flatMap_def] at hparts ⊢
    exact ⟨cs.map g, (hparts cs _ fun part => List.infix_of_mem_flatten).mpr rfl, rfl⟩
  · rintro ⟨parts, hstands, rfl⟩
    rw [(hparts cs parts fun part => List.infix_of_mem_flatten).mp hstands |>.symm,
      List.flatMap_def]

/-! ## Upper case -/

/-- Letters are plain characters. -/
theorem toNat_lt_of_isAlpha {c : Char} (hc : c.isAlpha = true) : c.toNat < 128 := by
  have hcases : (c.isUpper || c.isLower) = true := hc
  rcases Bool.or_eq_true_iff.mp hcases with hupper | hlower
  · have hle : c.toNat ≤ 90 := (of_decide_eq_true hupper).2
    omega
  · have hle : c.toNat ≤ 122 := of_decide_eq_true (Bool.and_eq_true_iff.mp hlower).2
    omega

/-- The upper-case image of a plain character is its capital. -/
theorem upperImage_of_plain {c : Char} (hc : c.toNat < 128) : upperImage c = [c.toUpper] :=
  forall_plain (P := fun c => upperImage c = [c.toUpper]) (by decide +kernel) hc

/-- Some glyphs are all the characters beyond the plain ones whose upper-case image can stand in
some words, as far as the tables tell. -/
structure Suffices (glyphs : Glyphs) (words : List String) : Prop where
  word : ∀ word ∈ words, ∀ c ∈ word.toList, c.isUpper = true ∨ c = '_'
  glyph : ∀ g ∈ glyphs, upperImage g.1 = g.2 ∧ 128 ≤ g.1.toNat
  run : ∀ run ∈ upperRuns, run.2.1 < 128 ∨ 128 ≤ (run.1 : Int) + run.2.2.2 ∨
    run.1 = run.2.1 ∧ (run.1 ∈ glyphs.map (·.1.toNat) ∨
      ∀ word ∈ words.map String.toList, Char.ofNat (Int.toNat (run.1 + run.2.2.2)) ∉ word)
  expansion : ∀ e ∈ upperExpansions, e.1 ∈ glyphs.map (·.1.toNat) ∨
    ∀ word ∈ words.map String.toList, ¬ e.2.map Char.ofNat <:+: word

namespace Suffices

variable {glyphs : Glyphs} {words : List String} (h : Suffices glyphs words)

include h

/-- A character has a part of a word as its upper-case image exactly if it stands for that part.

**Proof sketch.** A plain character has its capital as image, and if that is in a word, then the
character is a letter or a low line. The others whose image can be in a word are the glyphs. -/
theorem upperImage_eq_iff {word : String} (hword : word ∈ words) (c : Char) {part : List Char}
    (hpart : part <:+: word.toList) : upperImage c = part ↔ Stands glyphs c part := by
  have hmem : word.toList ∈ words.map String.toList := List.mem_map_of_mem hword
  have hplain : ∀ word ∈ words.map String.toList, ∀ d ∈ word, d ≠ Char.ofNat 0 ∧ d.toNat < 128 := by
    rw [List.forall_mem_map]
    intro word hword d hd
    rcases h.word word hword d hd with hupper | rfl
    · refine ⟨?_, toNat_lt_of_isAlpha (Bool.or_eq_true_iff.mpr (.inl hupper))⟩
      rintro rfl
      exact absurd hupper (by decide)
    · decide
  by_cases hc : c.toNat < 128
  · have hletter : c.toUpper.isUpper = true ∨ c.toUpper = '_' → c.isAlpha = true ∨ c = '_' :=
      forall_plain (P := fun c => c.toUpper.isUpper = true ∨ c.toUpper = '_' →
        c.isAlpha = true ∨ c = '_') (by decide +kernel) hc
    have hnoGlyph : (c, part) ∉ glyphs := fun hglyph =>
      absurd (h.glyph _ hglyph).2 (by simpa using hc)
    rw [upperImage_of_plain hc, Stands]
    constructor
    · rintro rfl
      have hin : c.toUpper ∈ word.toList := hpart.subset (List.mem_singleton.mpr rfl)
      exact .inl ⟨hletter (h.word word hword _ hin), rfl⟩
    · rintro (⟨-, rfl⟩ | hglyph)
      · rfl
      · exact absurd hglyph hnoGlyph
  · have hnoLetter : ¬ (c.isAlpha = true ∨ c = '_') := by
      rintro (halpha | rfl)
      · exact hc (toNat_lt_of_isAlpha halpha)
      · exact hc (by decide)
    rw [Stands, or_iff_right fun hletter => hnoLetter hletter.1]
    constructor
    · rintro rfl
      have hspecial := mem_of_image_infix hplain h.run h.expansion (Nat.le_of_not_lt hc) hmem hpart
      obtain ⟨⟨d, letters⟩, hglyph, hd⟩ := List.mem_map.mp hspecial
      obtain rfl : d = c := Char.toNat_inj.mp hd
      rwa [(h.glyph _ hglyph).1]
    · exact fun hglyph => (h.glyph _ hglyph).1

/-- A text has a word as its upper-case image exactly if it writes the word. -/
theorem upper_eq_iff {word : String} (hword : word ∈ words) (text : String) :
    upper text = word ↔ Writes glyphs text word := by
  rw [upper, ← String.toList_inj, String.toList_ofList]
  exact flatMap_eq_iff (fun c part hpart => h.upperImage_eq_iff hword c hpart) text.toList

end Suffices

/-! ## Lower case -/

/-- The words that are compared with lower-case images. -/
def lowerWords : List String :=
  "true" :: (Settings.trueWords ++ Settings.falseWords)

/-- These words are written in plain characters. -/
theorem plain_of_mem_lowerWords :
    ∀ word ∈ lowerWords, ∀ c ∈ word.toList, c ≠ Char.ofNat 0 ∧ c.toNat < 128 :=
  forall_mem_words (by decide +kernel)

/-- A character has a part of one of the words as its lower-case image exactly if the part is its
plain small letter. No character beyond the plain ones has such an image. -/
theorem lowerImage_eq_iff {word : String} (hword : word ∈ lowerWords) (c : Char) {part : List Char}
    (hpart : part <:+: word.toList) : lowerImage c = part ↔ part = [c.toLower] := by
  have hmem : word.toList ∈ lowerWords.map String.toList := List.mem_map_of_mem hword
  have hplain : ∀ word ∈ lowerWords.map String.toList, ∀ c ∈ word,
      c ≠ Char.ofNat 0 ∧ c.toNat < 128 :=
    List.forall_mem_map.mpr plain_of_mem_lowerWords
  by_cases hc : c.toNat < 128
  · have himage : lowerImage c = [c.toLower] :=
      forall_plain (P := fun c => lowerImage c = [c.toLower]) (by decide +kernel) hc
    rw [himage, eq_comm]
  · have hfar : 128 ≤ c.toNat := Nat.le_of_not_lt hc
    constructor
    · rintro rfl
      have hnone : c.toNat ∈ [] :=
        mem_of_image_infix hplain (by decide +kernel) (by decide +kernel) hfar hmem hpart
      cases hnone
    · rintro rfl
      have hin : c ∈ word.toList := hpart.subset (by simp [toLower_of_le hfar])
      exact absurd (hplain _ hmem c hin).2 hc

/-- A text has one of the words as its lower-case image exactly if it is the word but for the case
of plain letters. -/
theorem lower_eq_iff {word : String} (hword : word ∈ lowerWords) (text : String) :
    lower text = word ↔ IsVariantOf text word := by
  have himages := flatMap_eq_iff (fun c part hpart => lowerImage_eq_iff hword c hpart) text.toList
  have hletters : text.toList.flatMap (fun c => [c.toLower]) = word.toList ↔
      ∃ parts, List.Forall₂ (fun c part => part = [c.toLower]) text.toList parts ∧
        parts.flatten = word.toList :=
    flatMap_eq_iff (fun c part _ => eq_comm) text.toList
  rw [lower, ← String.toList_inj, String.toList_ofList, himages, ← hletters, ← List.map_eq_flatMap,
    IsVariantOf]

end Winnow.Text

namespace Winnow

open Text (Glyphs Suffices Writes IsVariantOf)

/-! ## Operators -/

/-- The characters beyond the plain ones that may stand for letters in the name of an operator: the
dotless i, the long s, the sharp s and two ligatures of s and t. -/
def operatorGlyphs : Glyphs :=
  [('ı', ['I']), ('ſ', ['S']), ('ß', ['S', 'S']), ('ﬅ', ['S', 'T']), ('ﬆ', ['S', 'T'])]

/-- No other characters may stand for letters in the name of an operator. -/
theorem suffices_operatorGlyphs : Suffices operatorGlyphs (Operator.all.map Operator.name) :=
  ⟨Text.forall_mem_words (by decide +kernel), by decide +kernel, by decide +kernel,
    by decide +kernel⟩

/-- An operator is found by a text whose upper-case image, but for outer blanks, is its name. -/
theorem Operator.ofName?_eq_some_iff {text : String} {o : Operator} :
    ofName? text = some o ↔ Text.upper (Text.trim text) = o.name := by
  unfold ofName?
  generalize Text.upper (Text.trim text) = word
  constructor
  · intro h
    have hname := List.find?_some h
    exact (beq_iff_eq.mp hname).symm
  · rintro rfl
    cases o <;> decide

/-- An operator is resolved from the texts that write its name. -/
theorem Operator.resolve_eq_ok_iff {text : String} {o : Operator} :
    resolve text = .ok o ↔ Writes operatorGlyphs (Text.trim text) o.name := by
  have hname : o.name ∈ all.map name := List.mem_map_of_mem (by cases o <;> decide)
  rw [← suffices_operatorGlyphs.upper_eq_iff hname, ← ofName?_eq_some_iff, resolve]
  cases ofName? text <;> simp

/-! ## Levels and flags -/

namespace Settings

/-- The character beyond the plain ones that may stand for a letter in the name of a level: the
dotless i. -/
def levelGlyphs : Glyphs :=
  [('ı', ['I'])]

/-- No other characters may stand for letters in the name of a level. -/
theorem suffices_levelGlyphs : Suffices levelGlyphs levelNames :=
  ⟨Text.forall_mem_words (by decide +kernel), by decide +kernel, by decide +kernel,
    by decide +kernel⟩

/-- A text names a level: without outer blanks, it writes the name. -/
def NamesLevel (raw name : String) : Prop :=
  name ∈ levelNames ∧ Writes levelGlyphs (Text.trim raw) name

/-- A text is one of some words: without outer blanks, it is the word but for the case of plain
letters. -/
def IsOneOf (words : List String) (raw : String) : Prop :=
  ∃ word ∈ words, IsVariantOf (Text.trim raw) word

instance (words : List String) (raw : String) : Decidable (IsOneOf words raw) :=
  inferInstanceAs (Decidable (∃ word ∈ words, _))

/-- A text is one of the words of two lists if it is one of either. -/
theorem isOneOf_append {words words' : List String} {raw : String} :
    IsOneOf (words ++ words') raw ↔ IsOneOf words raw ∨ IsOneOf words' raw := by
  simp only [IsOneOf, List.mem_append, or_and_right, exists_or]

/-- A blank text is none of some words that are not blank. -/
theorem not_isOneOf_of_blank {words : List String} (hwords : "" ∉ words) {raw : String}
    (h : Text.trim raw = "") : ¬ IsOneOf words raw := by
  rintro ⟨word, hword, hvariant⟩
  rw [h] at hvariant
  obtain rfl : "" = word := String.toList_inj.mp hvariant
  exact hwords hword

/-- A level is named by the texts whose image is its name. -/
theorem namesLevel_iff {raw name : String} :
    NamesLevel raw name ↔ name ∈ levelNames ∧ Text.trim (Text.upper raw) = name := by
  rw [NamesLevel, Text.trim_upper]
  exact and_congr_right fun hname => (suffices_levelGlyphs.upper_eq_iff hname _).symm

/-- A text is one of the words that flags are compared with exactly if its image is. -/
theorem contains_lower_iff {words : List String} (hwords : words ⊆ Text.lowerWords) (raw : String) :
    words.contains (Text.trim (Text.lower raw)) = true ↔ IsOneOf words raw := by
  rw [Text.trim_lower, List.contains_iff_mem, IsOneOf]
  constructor
  · exact fun h => ⟨_, h, (Text.lower_eq_iff (hwords h) _).mp rfl⟩
  · rintro ⟨word, hword, hvariant⟩
    rwa [(Text.lower_eq_iff (hwords hword) _).mpr hvariant]

/-- What is read of a level that is there. -/
theorem readLevel_eq_iff {env : Environment} {raw : String} (h : env.lookup "LOG_LEVEL" = some raw)
    {name : String} : readLevel env = (name, []) ↔ NamesLevel raw name := by
  rw [namesLevel_iff, readLevel, h, Option.getD_some]
  generalize Text.trim (Text.upper raw) = word
  by_cases hword : word ∈ levelNames
  · rw [if_pos (List.contains_iff_mem.mpr hword), Prod.mk.injEq]
    constructor
    · rintro ⟨rfl, -⟩
      exact ⟨hword, rfl⟩
    · rintro ⟨-, rfl⟩
      exact ⟨rfl, rfl⟩
  · rw [if_neg (mt List.contains_iff_mem.mp hword), Prod.mk.injEq]
    constructor
    · rintro ⟨-, hread⟩
      cases hread
    · rintro ⟨hname, rfl⟩
      exact absurd hname hword

/-- What is read of a flag that is there: it is set if it is blank and set by default, or one of the
words for set flags, and something is wrong with it unless it is blank or one of the words for
flags. -/
theorem readFlag_of_some {env : Environment} {name raw : String} (h : env.lookup name = some raw)
    (default : Bool) :
    readFlag env name default =
      (decide (Text.trim raw = "" ∧ default = true ∨ IsOneOf trueWords raw),
        if Text.trim raw = "" ∨ IsOneOf (trueWords ++ falseWords) raw then []
        else [flagError name raw]) := by
  have htrue := contains_lower_iff (show trueWords ⊆ Text.lowerWords by decide) raw
  have hfalse := contains_lower_iff (show falseWords ⊆ Text.lowerWords by decide) raw
  simp only [readFlag, h, htrue, hfalse, String.isEmpty_iff, isOneOf_append]
  by_cases hblank : Text.trim raw = ""
  · have hnone : ¬ IsOneOf trueWords raw := not_isOneOf_of_blank (by decide) hblank
    simp [hblank, hnone]
  · by_cases hset : IsOneOf trueWords raw
    · simp [hblank, hset]
    · by_cases hunset : IsOneOf falseWords raw <;> simp [hblank, hset, hunset]

/-- Nothing is wrong with a flag that is there if it is blank or one of the words for flags. -/
theorem readFlag_errors_eq_nil_iff {env : Environment} {name raw : String}
    (h : env.lookup name = some raw) (default : Bool) :
    (readFlag env name default).2 = [] ↔
      Text.trim raw = "" ∨ IsOneOf (trueWords ++ falseWords) raw := by
  rw [readFlag_of_some h]
  simp [or_iff_not_imp_left]

end Settings

/-- **What is recognised.** An operator is resolved from exactly the texts that, without outer
blanks, write its name in letters of either case, low lines and the glyphs for operators. A text
asks for presence if it is `true` but for the case of plain letters; it is not trimmed. A level that
is set is accepted under a name exactly if, without outer blanks, it writes the name in letters of
either case and dotless i. Nothing is wrong with a flag that is set exactly if it is blank or,
without outer blanks and but for the case of plain letters, one of the words for flags; it counts as
set if it is one of those for set ones, and if it is blank it has its default. Only plain characters
spell these words.

**Proof sketch.** Trimming and changing the case commute (`Text.trim_upper`, `Text.trim_lower`).
Which characters have images that can stand in the words is read off the tables (`Text.Suffices`,
`Text.lowerImage_eq_iff`). -/
theorem recognised_spellings :
    (∀ text o, Operator.resolve text = .ok o ↔
      Writes operatorGlyphs (Text.trim text) o.name) ∧
    (∀ text, isTrue text = true ↔ IsVariantOf text "true") ∧
    (∀ (env : Settings.Environment) raw, env.lookup "LOG_LEVEL" = some raw → ∀ name,
      Settings.readLevel env = (name, []) ↔
        name ∈ Settings.levelNames ∧ Writes Settings.levelGlyphs (Text.trim raw) name) ∧
    (∀ (env : Settings.Environment) name raw default, env.lookup name = some raw →
      ((Settings.readFlag env name default).2 = [] ↔ Text.trim raw = "" ∨
        ∃ word ∈ ["true", "1", "yes", "false", "0", "no"], IsVariantOf (Text.trim raw) word) ∧
      ((Settings.readFlag env name default).1 = true ↔ Text.trim raw = "" ∧ default = true ∨
        ∃ word ∈ ["true", "1", "yes"], IsVariantOf (Text.trim raw) word)) ∧
    ∀ text, ∀ word ∈ ["true", "1", "yes", "false", "0", "no"], IsVariantOf text word →
      ∀ c ∈ text.toList, c.toNat < 128 := by
  refine ⟨fun text o => Operator.resolve_eq_ok_iff, fun text => ?_,
    fun env raw h name => Settings.readLevel_eq_iff h, fun env name raw default h => ?_,
    fun text word hword hvariant => ?_⟩
  · rw [isTrue, beq_iff_eq, Text.lower_eq_iff (by decide)]
  · refine ⟨Settings.readFlag_errors_eq_nil_iff h default, ?_⟩
    rw [Settings.readFlag_of_some h]
    exact decide_eq_true_iff
  · have hmem : word ∈ Text.lowerWords := List.mem_cons_of_mem "true" hword
    exact hvariant.forall_plain fun c hc => (Text.plain_of_mem_lowerWords word hmem c hc).2

/-- An operator written with all kinds of characters and between blanks, a level in dotless letters,
and flags in either case. A full-width spelling is not recognised. -/
theorem recognised_spellings_mixed :
    let env : Settings.Environment := [("LOG_LEVEL", "\u2003crıtıcal\n"),
      ("ALLOW_MISSING_FIELDS", "\tYeS "), ("STRICT_NUMERIC_VALUES", "ｎｏ")]
    Operator.resolve "\u00a0eXıﬆſ " = .ok .presence ∧
      Settings.readLevel env = ("CRITICAL", []) ∧
      (Settings.readFlag env "ALLOW_MISSING_FIELDS" true).2 = [] ∧
      (Settings.readFlag env "STRICT_NUMERIC_VALUES" true).2 ≠ [] := by
  intro env
  obtain ⟨hoperator, -, hlevel, hflag, -⟩ := recognised_spellings
  refine ⟨(hoperator _ _).mpr ?_, (hlevel env _ rfl _).mpr ⟨by decide, ?_⟩, ?_, ?_⟩
  · exact ⟨[['E'], ['X'], ['I'], ['S', 'T'], ['S']], by decide +kernel, rfl⟩
  · exact ⟨"CRITICAL".toList.map fun c => [c], by decide +kernel, rfl⟩
  · exact (hflag env _ "\tYeS " true (by decide)).1.mpr (by decide +kernel)
  · exact fun h => absurd ((hflag env _ "ｎｏ" true (by decide)).1.mp h) (by decide +kernel)

end Winnow
