import Winnow.Pattern.Flaw

set_option autoImplicit false

/-!
# Scanning patterns

A pattern is read token by token, a backslash being one token with the character after it. A scan
takes some tokens off the front and yields a value; what is left is never longer than what was
there, so a reader that takes one token before each scan comes to an end.

## Main definitions

* `Winnow.Pattern.Token`, `Winnow.Pattern.tokenize` — tokens, and the tokens of a text.
* `Winnow.Pattern.Trouble` — a flaw or a limit met on the way.
* `Winnow.Pattern.Scan` — scans, with the primitives `peek`, `take`, `accept` and `upTo`.

## Design

A place in the pattern is given by the number of characters from there to the end, which the
remaining tokens determine. A backslash that ends the pattern is reported as soon as it becomes
the next token.
-/

namespace Winnow.Pattern

/-- A token of a pattern. -/
inductive Token where
  /-- A character that is not a backslash. -/
  | plain (c : Char)
  /-- A backslash and the character after it. -/
  | escaped (c : Char)
  /-- A backslash at the end of the pattern. -/
  | dangling
deriving DecidableEq

namespace Token

/-- The characters of a token. -/
def chars : Token → List Char
  | plain c => [c]
  | escaped c => ['\\', c]
  | dangling => ['\\']

/-- The number of characters of a token. -/
def size (t : Token) : Nat :=
  t.chars.length

/-- The text of a token. -/
def text (t : Token) : String :=
  String.ofList t.chars

end Token

/-- The tokens of a text. -/
def tokenize : List Char → List Token
  | [] => []
  | '\\' :: [] => [.dangling]
  | '\\' :: c :: cs => .escaped c :: tokenize cs
  | c :: cs => .plain c :: tokenize cs

/-- The number of characters of a list of tokens. -/
def charCount : List Token → Nat
  | [] => 0
  | t :: ts => t.size + charCount ts

/-- What can stop the reading of a pattern. -/
inductive Trouble where
  /-- A flaw, with the number of characters from its place to the end. -/
  | flaw (flaw : Flaw) (left? : Option Nat)
  /-- A limit. -/
  | limit (limit : Limit)
deriving DecidableEq

/-- What a scan has yielded, and what it has left of the tokens. -/
structure Taken (α : Type) (ts : List Token) where
  value : α
  rest : List Token
  rest_le : rest.length ≤ ts.length

/-- Scans that yield a value. -/
def Scan (α : Type) : Type :=
  (ts : List Token) → Except Trouble (Taken α ts)

namespace Scan

instance : Monad Scan where
  pure a := fun ts => .ok ⟨a, ts, Nat.le_refl _⟩
  bind p f := fun ts =>
    match p ts with
    | .error e => .error e
    | .ok t =>
      match f t.value t.rest with
      | .error e => .error e
      | .ok u => .ok ⟨u.value, u.rest, Nat.le_trans u.rest_le t.rest_le⟩

/-- Stops with a limit. -/
def stop {α : Type} (limit : Limit) : Scan α :=
  fun _ => .error (.limit limit)

/-- Stops with a flaw whose place has a number of characters to its right. -/
def failAt {α : Type} (left : Nat) (flaw : Flaw) : Scan α :=
  fun _ => .error (.flaw flaw (some left))

/-- Stops with a flaw whose place is a number of characters before the next token. -/
def failBack {α : Type} (back : Nat) (flaw : Flaw) : Scan α :=
  fun ts => .error (.flaw flaw (some (charCount ts + back)))

/-- Stops with a flaw at the next token. -/
def fail {α : Type} (flaw : Flaw) : Scan α :=
  failBack 0 flaw

/-- The number of characters that are left. -/
def left : Scan Nat :=
  fun ts => .ok ⟨charCount ts, ts, Nat.le_refl _⟩

/-- The next token, which is not taken. -/
def peek : Scan (Option Token) :=
  fun ts => .ok ⟨ts.head?, ts, Nat.le_refl _⟩

/-- Makes sure that the next token is not a backslash that ends the pattern. -/
def settle : Scan Unit :=
  fun ts =>
    if ts.head? = some .dangling then .error (.flaw .danglingEscape (some 1))
    else .ok ⟨(), ts, Nat.le_refl _⟩

/-- Takes the next token, if there is one. -/
def take : Scan (Option Token) :=
  fun ts =>
    match ts with
    | [] => .ok ⟨none, [], Nat.le_refl _⟩
    | t :: rest =>
      match settle rest with
      | .error e => .error e
      | .ok u => .ok ⟨some t, u.rest, Nat.le_trans u.rest_le (Nat.le_succ _)⟩

/-- Takes the next token if it is a given character. -/
def accept (c : Char) : Scan Bool := do
  if (← peek) = some (.plain c) then
    let _ ← take
    return true
  else
    return false

/-- A scan that takes nothing if it yields nothing. -/
def attempt {α : Type} (p : Scan (Option α)) : Scan (Option α) :=
  fun ts =>
    match p ts with
    | .error e => .error e
    | .ok t => if t.value.isNone then .ok ⟨none, ts, Nat.le_refl _⟩ else .ok t

/-- Takes characters of a class, up to a number of them. -/
def upTo (accepts : Char → Bool) : Nat → Scan (List Char)
  | 0 => pure []
  | n + 1 => do
    match ← peek with
    | some (.plain c) =>
      if accepts c then
        let _ ← take
        return c :: (← upTo accepts n)
      else return []
    | _ => return []

/-- Takes all characters of a class that come next. There are no more than tokens are left. -/
def all (accepts : Char → Bool) : Scan (List Char) :=
  fun ts => upTo accepts ts.length ts

end Scan

end Winnow.Pattern
