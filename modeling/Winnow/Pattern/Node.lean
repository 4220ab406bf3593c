import Winnow.Pattern.CharTest

set_option autoImplicit false

/-!
# Syntax trees of patterns

The structure of a pattern once it has been read. Modes such as ignoring case are no longer part
of it: each character test, anchor and back-reference carries what the modes say about it.

## Main definitions

* `Winnow.Pattern.Node` — the syntax tree.
* `Winnow.Pattern.Width` — how many characters a tree consumes, from the least to the most.
* `Winnow.Pattern.Node.width` — the width of a tree.
-/

namespace Winnow.Pattern

/-- In which order the numbers of rounds of a repeat are tried. -/
inductive Greed where
  /-- As many rounds as possible first. -/
  | greedy
  /-- As few rounds as possible first. -/
  | lazy
  /-- As many rounds as possible, and no other number. -/
  | possessive
deriving DecidableEq

/-- Conditions on a place in the text, which consume nothing. -/
inductive Anchor where
  /-- The start of the text. -/
  | textStart
  /-- The start of a line. -/
  | lineStart
  /-- The end of the text. -/
  | textEnd
  /-- The end of the text, or the place before a line feed that ends it. -/
  | finalEnd
  /-- The end of a line. -/
  | lineEnd
  /-- A change between word characters and others, or its absence. -/
  | boundary (negated ascii : Bool)
deriving DecidableEq

/-- The syntax tree of a pattern. -/
inductive Node where
  /-- The empty pattern. -/
  | empty
  /-- One character that passes a test. -/
  | char (test : CharTest)
  /-- A condition on the place. -/
  | anchor (anchor : Anchor)
  /-- One pattern, then another. -/
  | seq (first second : Node)
  /-- One pattern or else another. -/
  | alt (first second : Node)
  /-- A number of rounds of a pattern, without an upper limit if none is given. -/
  | repeated (greed : Greed) (least : Nat) (most? : Option Nat) (body : Node)
  /-- A pattern in parentheses, remembered under its number if it has one. -/
  | group (index? : Option Nat) (body : Node)
  /-- A pattern of which only the first way to match counts. -/
  | atomic (body : Node)
  /-- The text that a group has matched. -/
  | backref (index : Nat) (rule : CaseRule)
  /-- One pattern if a group has matched, another if it has not. -/
  | conditional (index : Nat) (yes no : Node)
  /-- A condition on what follows: the pattern matches there, or does not. -/
  | ahead (positive : Bool) (body : Node)
  /-- A condition on what precedes, over a given width. -/
  | behind (positive : Bool) (least most : Nat) (body : Node)
deriving DecidableEq

/-- How many characters a pattern consumes, from the least to the most. -/
structure Width where
  least : Nat
  most : Nat
deriving DecidableEq

namespace Width

/-- The number at which widths stop growing. -/
def cap : Nat := Nat.pow 2 64

/-- A width that does not grow beyond the cap. -/
def capped (least most : Nat) : Width :=
  ⟨min least cap, min most cap⟩

/-- The width of one pattern after another. -/
def add (a b : Width) : Width :=
  capped (a.least + b.least) (a.most + b.most)

/-- The width of one pattern or another. -/
def union (a b : Width) : Width :=
  ⟨min a.least b.least, max a.most b.most⟩

/-- The width of a number of rounds. -/
def rounds (least : Nat) (most? : Option Nat) (a : Width) : Width :=
  capped (least * a.least) <| match most? with
    | some most => most * a.most
    | none => if a.most = 0 then 0 else cap

end Width

/-- The width of a pattern, given the widths of the groups that it refers back to. -/
def Node.width (groups : Nat → Width) : Node → Width
  | empty => ⟨0, 0⟩
  | char _ => ⟨1, 1⟩
  | anchor _ => ⟨0, 0⟩
  | seq first second => (first.width groups).add (second.width groups)
  | alt first second => (first.width groups).union (second.width groups)
  | repeated _ least most? body => (body.width groups).rounds least most?
  | group _ body => body.width groups
  | atomic body => body.width groups
  | backref index _ => groups index
  | conditional _ yes no => (yes.width groups).union (no.width groups)
  | ahead _ _ => ⟨0, 0⟩
  | behind _ _ _ _ => ⟨0, 0⟩

end Winnow.Pattern
