import Winnow.Pattern.Node

set_option autoImplicit false

/-!
# Cursors

A place in a text, with what lies before and after it, and what the groups of a pattern have
matched so far.

## Main definitions

* `Winnow.Pattern.Cursor` — a place in a text, with the captures made on the way there.
* `Winnow.Pattern.Cursor.next?`, `Winnow.Pattern.Cursor.back?` — the neighbouring places.
* `Winnow.Pattern.Cursor.captured?` — the text that a group has matched.
* `Winnow.Pattern.Anchor.holds` — whether an anchor holds at a place.

## Design

The text before the place is kept in reverse, so that moving takes constant time both ways. A
capture keeps what remained of the text where its group began and where it ended last; a group that
has begun anew keeps its former end until it ends again.
-/

namespace Winnow.Pattern

/-- What remained of the text where a group began, and where it last ended. -/
structure Capture where
  start : List Char
  stop? : Option (List Char)
deriving DecidableEq

/-- A place in a text. -/
structure Cursor where
  /-- The characters before the place, the nearest first. -/
  before : List Char
  /-- The characters after the place. -/
  rest : List Char
  /-- The number of characters after the place. -/
  left : Nat
  left_eq : left = rest.length
  /-- What the groups have matched, by their numbers. -/
  captures : List (Nat × Capture)

namespace Cursor

/-- The start of a text. -/
def ofText (text : List Char) : Cursor :=
  ⟨[], text, text.length, rfl, []⟩

/-- The place after the next character, if that passes a test. -/
def next? (accepts : Char → Bool) : Cursor → Option Cursor
  | ⟨_, [], _, _, _⟩ => none
  | ⟨before, c :: rest, left, h, captures⟩ =>
    if accepts c then some ⟨c :: before, rest, left - 1, by simp [h], captures⟩ else none

/-- The place a number of characters earlier. -/
def back? : Nat → Cursor → Option Cursor
  | 0, s => some s
  | _ + 1, ⟨[], _, _, _, _⟩ => none
  | n + 1, ⟨c :: before, rest, left, h, captures⟩ =>
    back? n ⟨before, c :: rest, left + 1, by simp [h], captures⟩

/-- The place after a given text, if that comes next under a way of comparing characters. -/
def follow? (rule : CaseRule) : List Char → Cursor → Option Cursor
  | [], s => some s
  | c :: cs, s =>
    match s.next? fun d => rule.fold c.toNat == rule.fold d.toNat with
    | some t => follow? rule cs t
    | none => none

/-- The captures after one of them is replaced. -/
def setCapture (s : Cursor) (index : Nat) (capture : Capture) : Cursor :=
  { s with captures := (index, capture) :: s.captures.filter fun entry => entry.1 != index }

/-- The cursor after a group begins. -/
def openGroup (s : Cursor) (index : Nat) : Cursor :=
  s.setCapture index ⟨s.rest, (s.captures.lookup index).bind (·.stop?)⟩

/-- The cursor after a group ends. -/
def closeGroup (s : Cursor) (index : Nat) : Cursor :=
  match s.captures.lookup index with
  | some capture => s.setCapture index { capture with stop? := some s.rest }
  | none => s

/-- The text that a group has matched: what lies between its beginning and its end, if the end is
not the former one and lies before. -/
def captured? (s : Cursor) (index : Nat) : Option (List Char) :=
  match s.captures.lookup index with
  | some ⟨start, some stop⟩ =>
    if stop.length ≤ start.length then some (start.take (start.length - stop.length)) else none
  | _ => none

end Cursor

/-- Whether an anchor holds at a place. No boundary is in the empty text, nor the absence of one. -/
def Anchor.holds (s : Cursor) : Anchor → Bool
  | textStart => s.before.isEmpty
  | lineStart => s.before.isEmpty || s.before.head? == some '\n'
  | textEnd => s.rest.isEmpty
  | finalEnd => s.rest.isEmpty || s.rest == ['\n']
  | lineEnd => s.rest.isEmpty || s.rest.head? == some '\n'
  | boundary negated ascii =>
    let isWord := fun (cs : List Char) => cs.head?.any (Category.word.holds ascii)
    !(s.before.isEmpty && s.rest.isEmpty)
      && ((isWord s.before != isWord s.rest) != negated)

end Winnow.Pattern
