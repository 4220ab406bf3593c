import Winnow.Text.CaseTable

set_option autoImplicit false

/-!
# Upper and lower case

The upper-case and lower-case images of characters and texts. The image of a character may be
several characters (`ß` has the upper-case image `SS`); where one is wanted, it is the first.

## Main definitions

* `Winnow.Text.upper`, `Winnow.Text.lower` — the images of a text, character by character.
* `Winnow.Text.upperPoint`, `Winnow.Text.lowerPoint` — the images of a code point as one code point.
* `Winnow.Text.caseVariants` — the code points that count as equal to one when case is ignored.

## Design

No image depends on the neighbouring characters. The lower-case images are compared with
spellings that hold no sigma, so its final form is never needed.
-/

namespace Winnow.Text

/-- The image of a code point under a list of runs, if a run holds it. -/
def runImage? : List (Nat × Nat × Nat × Int) → Nat → Option Nat
  | [], _ => none
  | (first, last, step, offset) :: rest, n =>
    if first ≤ n ∧ n ≤ last ∧ (n - first) % step = 0 then some (Int.toNat (n + offset))
    else if n < first then none
    else runImage? rest n

/-- The code points that a list of runs maps to a code point. -/
def runSources (runs : List (Nat × Nat × Nat × Int)) (n : Nat) : List Nat :=
  runs.filterMap fun (first, last, step, offset) =>
    let source := Int.toNat (n - offset)
    if first ≤ source ∧ source ≤ last ∧ (source - first) % step = 0
        ∧ Int.toNat (source + offset) = n
    then some source else none

/-- The image of a code point as a list of code points: by a run, by an expansion, or itself. -/
def image (runs : List (Nat × Nat × Nat × Int)) (expansions : List (Nat × List Nat)) (n : Nat) :
    List Nat :=
  match runImage? runs n with
  | some m => [m]
  | none => (expansions.lookup n).getD [n]

/-- The upper-case image of a character. -/
def upperImage (c : Char) : List Char :=
  (image upperRuns upperExpansions c.toNat).map Char.ofNat

/-- The lower-case image of a character. -/
def lowerImage (c : Char) : List Char :=
  (image lowerRuns lowerExpansions c.toNat).map Char.ofNat

/-- The upper-case image of a text. -/
def upper (text : String) : String :=
  String.ofList (text.toList.flatMap upperImage)

/-- The lower-case image of a text. -/
def lower (text : String) : String :=
  String.ofList (text.toList.flatMap lowerImage)

/-! ## One code point at a time -/

/-- The first code point of the upper-case image. -/
def upperPoint (n : Nat) : Nat :=
  (image upperRuns upperExpansions n).headD n

/-- The first code point of the lower-case image. -/
def lowerPoint (n : Nat) : Nat :=
  (image lowerRuns lowerExpansions n).headD n

/-- The other lower-case characters with the upper-case image of a lower-case character. -/
def upperTwins (n : Nat) : List Nat :=
  match sharedUpper.find? (·.contains n) with
  | some twins => twins.filter (· != n)
  | none => []

/-- The code points whose lower-case image is a code point, itself included if it is its own. -/
def lowerSources (n : Nat) : List Nat :=
  (if lowerPoint n == n then [n] else [])
    ++ runSources lowerRuns n
    ++ (lowerExpansions.filter fun e => e.2.head? == some n).map (·.1)

/-- The code points that count as equal to a lower-case code point when case is ignored: those with
this lower-case image or with the image of one of its twins. -/
def caseVariants (n : Nat) : List Nat :=
  (n :: upperTwins n).flatMap lowerSources

/-! ## The first 128 code points -/

/-- The lower-case image within the first 128 code points; the others are their own. -/
def asciiLowerPoint (n : Nat) : Nat :=
  if 0x41 ≤ n ∧ n ≤ 0x5A then n + 32 else n

end Winnow.Text
