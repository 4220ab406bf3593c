import Winnow.Pattern.Cursor

set_option autoImplicit false

/-!
# Matching

Whether a pattern matches the whole of a text. A pattern is tried at a place together with what has
to succeed after it; where there is a choice, the first one that lets the rest succeed is taken.

## Main definitions

* `Winnow.Pattern.Matcher` — a way to match at a place, given what comes after.
* `Winnow.Pattern.exactly`, `Winnow.Pattern.greedily`, `Winnow.Pattern.lazily`,
  `Winnow.Pattern.possessively` — rounds of a matcher.
* `Winnow.Pattern.Node.run` — the matcher of a syntax tree.
* `Winnow.Pattern.Node.matchesWhole` — whether a pattern matches the whole of a text.

## Design

A repeat first goes through the rounds that it must make, without regard to what they consume. A
further round that consumes nothing is the last one. So the characters that are left bound the
rounds, and the recursion ends by that measure. There is no other bound on rounds or on nesting.

What the groups have captured is part of the cursor. So a way that fails leaves nothing behind, not
even in a possessive repeat or in an atomic group.
-/

namespace Winnow.Pattern

/-- A way to match at a place: given what has to succeed from the places reached, the cursor at the
end of the first success. -/
abbrev Matcher : Type :=
  Cursor → (Cursor → Option Cursor) → Option Cursor

/-- The first success of a matcher, whatever comes after. -/
def Matcher.first (m : Matcher) (s : Cursor) : Option Cursor :=
  m s some

/-! ## Rounds -/

/-- A fixed number of rounds. -/
def exactly (m : Matcher) : Nat → Matcher
  | 0 => fun s k => k s
  | n + 1 => fun s k => m s fun t => exactly m n t k

/-- As many further rounds as possible first, up to a limit. -/
def greedily (m : Matcher) (limit? : Option Nat) (s : Cursor) (k : Cursor → Option Cursor) :
    Option Cursor :=
  if limit? = some 0 then k s
  else
    let onward := fun (t : Cursor) =>
      if t.left < s.left then greedily m (limit?.map (· - 1)) t k else k t
    match m s onward with
    | some u => some u
    | none => k s
termination_by s.left

/-- As few further rounds as possible first, up to a limit. -/
def lazily (m : Matcher) (limit? : Option Nat) (s : Cursor) (k : Cursor → Option Cursor) :
    Option Cursor :=
  match k s with
  | some u => some u
  | none =>
    if limit? = some 0 then none
    else m s fun t =>
      if t.left < s.left then lazily m (limit?.map (· - 1)) t k else k t
termination_by s.left

/-- A fixed number of rounds, each taken at its first success. -/
def exactlyFirst (m : Matcher) : Nat → Cursor → Option Cursor
  | 0, s => some s
  | n + 1, s => (m.first s).bind (exactlyFirst m n)

/-- As many further rounds as possible, each taken at its first success, up to a limit. -/
def possessively (m : Matcher) (limit? : Option Nat) (s : Cursor) : Cursor :=
  if limit? = some 0 then s
  else match m.first s with
    | some t => if t.left < s.left then possessively m (limit?.map (· - 1)) t else t
    | none => s
termination_by s.left

/-- The rounds of a repeat: those it must make, then further ones as its greed says. -/
def rounds (greed : Greed) (least : Nat) (most? : Option Nat) (m : Matcher) : Matcher :=
  let limit? := most?.map (· - least)
  match greed with
  | .greedy => fun s k => exactly m least s fun t => greedily m limit? t k
  | .lazy => fun s k => exactly m least s fun t => lazily m limit? t k
  | .possessive => fun s k =>
    match exactlyFirst m least s with
    | some t => k (possessively m limit? t)
    | none => none

/-! ## Syntax trees -/

/-- A condition on the text around a place: a matcher succeeds at a place or does not. The captures
of a success are kept. -/
def condition (positive : Bool) (m : Matcher) (place? : Option Cursor) : Matcher :=
  fun s k =>
    match place?.bind m.first, positive with
    | some t, true => k { s with captures := t.captures }
    | none, false => k s
    | _, _ => none

/-- The matcher of a syntax tree. -/
def Node.run : Node → Matcher
  | empty => fun s k => k s
  | char test => fun s k => (s.next? test.holds).bind k
  | anchor a => fun s k => if a.holds s then k s else none
  | seq first second => fun s k => first.run s fun t => second.run t k
  | alt first second => fun s k =>
    match first.run s k with
    | some u => some u
    | none => second.run s k
  | repeated greed least most? body => rounds greed least most? body.run
  | group none body => body.run
  | group (some index) body => fun s k =>
    body.run (s.openGroup index) fun t => k (t.closeGroup index)
  | atomic body => fun s k => (body.run.first s).bind k
  | backref index rule => fun s k =>
    match s.captured? index with
    | some text => (s.follow? rule text).bind k
    | none => none
  | conditional index yes no => fun s k =>
    if (s.captured? index).isSome then yes.run s k else no.run s k
  | ahead positive body => fun s k => condition positive body.run (some s) s k
  | behind positive least _ body => fun s k => condition positive body.run (s.back? least) s k

/-- Whether a pattern matches the whole of a text. -/
def Node.matchesWhole (node : Node) (text : String) : Bool :=
  (node.run (.ofText text.toList) fun t => if t.rest.isEmpty then some t else none).isSome

end Winnow.Pattern
