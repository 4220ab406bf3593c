import Winnow.Host
import Winnow.Pattern.Modes
import Winnow.Pattern.Node
import Winnow.Pattern.Scan

set_option autoImplicit false

/-!
# Reading escapes and sets

What a backslash and the characters after it stand for, and the sets between brackets.

## Main definitions

* `Winnow.Pattern.numberedPoint?` — escapes that give a code point by its number or name.
* `Winnow.Pattern.setEscape` — escapes inside a set.
* `Winnow.Pattern.readSet` — a set, from the character after its opening bracket on.
-/

namespace Winnow.Pattern

/-! ## Digits -/

/-- Octal digits. -/
def isOctalDigit (c : Char) : Bool :=
  '0' ≤ c && c ≤ '7'

/-- Hexadecimal digits of either case. -/
def isHexDigit (c : Char) : Bool :=
  c.isDigit || ('a' ≤ c && c ≤ 'f') || ('A' ≤ c && c ≤ 'F')

/-- Letters A to Z of either case. -/
def isAsciiLetter (c : Char) : Bool :=
  c.isAlpha

/-- The value of a digit of a base of at most sixteen. -/
def digitOf (c : Char) : Nat :=
  if c.isDigit then c.toNat - 0x30
  else if 'a' ≤ c then c.toNat - 0x61 + 10
  else c.toNat - 0x41 + 10

/-- The value of digits in a base. -/
def valueIn (base : Nat) (digits : List Char) : Nat :=
  digits.foldl (fun n c => base * n + digitOf c) 0

/-! ## Escapes -/

/-- The text of an escape: a backslash, a letter and digits. -/
def escapeText (letter : Char) (digits : List Char) : String :=
  String.ofList ('\\' :: letter :: digits)

/-- The control characters that have a letter of their own. -/
def controlEscape? : Char → Option Nat
  | 'a' => some 0x7
  | 'f' => some 0xC
  | 'n' => some 0xA
  | 'r' => some 0xD
  | 't' => some 0x9
  | 'v' => some 0xB
  | '\\' => some 0x5C
  | _ => none

/-- The categories that have a letter of their own, with whether they are complements. -/
def categoryEscape? : Char → Option (Category × Bool)
  | 'd' => some (.digit, false)
  | 'D' => some (.digit, true)
  | 's' => some (.blank, false)
  | 'S' => some (.blank, true)
  | 'w' => some (.word, false)
  | 'W' => some (.word, true)
  | _ => none

/-- A fixed number of hexadecimal digits. -/
def hexEscape (letter : Char) (count : Nat) : Scan (List Char) := do
  let digits ← Scan.upTo isHexDigit count
  if digits.length = count then return digits
  else Scan.failBack (2 + digits.length) (.incompleteEscape (escapeText letter digits))

/-- A name up to a closing character, and the tokens after it. An escape is part of the name. -/
def nameFrom (closer : Char) (what : String) (taken : List Char) :
    (ts : List Token) → Except Trouble (Taken (List Char) ts)
  | [] =>
    if taken.isEmpty then .error (.flaw (.missingName what) (some 0))
    else .error (.flaw (.unterminatedName closer) (some taken.length))
  | t :: rest =>
    match Scan.settle rest with
    | .error e => .error e
    | .ok _ =>
      if t = .plain closer then
        if taken.isEmpty then .error (.flaw (.missingName what) (some (charCount rest + 1)))
        else .ok ⟨taken, rest, Nat.le_succ _⟩
      else match nameFrom closer what (taken ++ t.chars) rest with
        | .error e => .error e
        | .ok u => .ok ⟨u.value, u.rest, Nat.le_trans u.rest_le (Nat.le_succ _)⟩

/-- A name that is not empty, up to a closing character, which is taken too. -/
def readName (closer : Char) (what : String) : Scan (List Char) :=
  nameFrom closer what []

variable [Host]

/-- The code point of an escape that gives it by hexadecimal digits, or by the name that the host
knows the character by. -/
def numberedPoint? (letter : Char) : Scan (Option Nat) := do
  match letter with
  | 'x' => return some (valueIn 16 (← hexEscape 'x' 2))
  | 'u' => return some (valueIn 16 (← hexEscape 'u' 4))
  | 'U' =>
    let digits ← hexEscape 'U' 8
    let point := valueIn 16 digits
    if Nat.pow 2 31 ≤ point then Scan.stop .hugeCodePoint
    else if 0x10FFFF < point then Scan.failBack 10 (.badEscape (escapeText 'U' digits))
    else return some point
  | 'N' =>
    if ← Scan.accept '{' then
      let chars ← readName '}' "character name"
      match Host.character? (String.ofList chars) with
      | some c => return some c.toNat
      | none => Scan.failBack (chars.length + 4) (.unknownCharacterName (String.ofList chars))
    else Scan.fail .missingBrace
  | _ => return none

/-- The code point of an escape with octal digits. -/
def octalPoint (digits : List Char) : Scan Nat :=
  let point := valueIn 8 digits
  if 0o377 < point then
    Scan.failBack (1 + digits.length) (.octalOutOfRange (String.ofList ('\\' :: digits)))
  else pure point

/-! ## Sets -/

/-- The member that an escape inside a set stands for. -/
def setEscape (ascii : Bool) (c : Char) : Scan Member := do
  if c = 'b' then return .point 0x8
  else match controlEscape? c, categoryEscape? c with
    | some point, _ => return .point point
    | none, some (category, negated) => return .named category negated ascii
    | none, none =>
      match ← numberedPoint? c with
      | some point => return .point point
      | none =>
        if isOctalDigit c then
          return .point (← octalPoint (c :: (← Scan.upTo isOctalDigit 2)))
        else if c.isDigit || isAsciiLetter c then
          Scan.failBack 2 (.badEscape (escapeText c []))
        else return .point c.toNat

/-- The member that a token inside a set stands for. -/
def setMember (ascii : Bool) : Token → Scan Member
  | .escaped c => setEscape ascii c
  | .plain c => pure (.point c.toNat)
  | .dangling => pure (.point 0x5C)

/-- The members that a token of a set begins, and whether the set ends with them. A hyphen between
two members makes a span, and stands for itself before the closing bracket. -/
def setItem (ascii : Bool) (opening : Nat) (t : Token) : Scan (List Member × Bool) := do
  let first ← setMember ascii t
  if ← Scan.accept '-' then
    match ← Scan.take with
    | none => Scan.failAt opening .unterminatedSet
    | some u =>
      if u = .plain ']' then return ([first, .point 0x2D], true)
      else
        let last ← setMember ascii u
        let flaw := Flaw.badRange t.text u.text
        match first, last with
        | .point m, .point n =>
          if n < m then Scan.failBack (t.size + 1 + u.size) flaw
          else return ([.span m n], false)
        | _, _ => Scan.failBack (t.size + 1 + u.size) flaw
  else return ([first], false)

/-- The members of a set up to its closing bracket. A closing bracket that comes first is a member.
-/
def setMembers (ascii : Bool) (opening : Nat) (members : List Member) (ts : List Token) :
    Except Trouble (Taken (List Member) ts) :=
  match ts with
  | [] => .error (.flaw .unterminatedSet (some opening))
  | t :: rest =>
    match Scan.settle rest with
    | .error e => .error e
    | .ok _ =>
      if t = .plain ']' ∧ members ≠ [] then .ok ⟨members, rest, Nat.le_succ _⟩
      else match setItem ascii opening t rest with
        | .error e => .error e
        | .ok u =>
          have shorter : u.rest.length ≤ (t :: rest).length :=
            Nat.le_trans u.rest_le (Nat.le_succ _)
          if u.value.2 then .ok ⟨members ++ u.value.1, u.rest, shorter⟩
          else match setMembers ascii opening (members ++ u.value.1) u.rest with
            | .error e => .error e
            | .ok v => .ok ⟨v.value, v.rest, Nat.le_trans v.rest_le shorter⟩
termination_by ts.length
decreasing_by
  have := u.rest_le
  simp only [List.length_cons]
  omega

/-- The test for a set with the given members. A set of one character is that character. -/
def CharTest.ofMembers (negated : Bool) (members : List Member) (rule : CaseRule) : CharTest :=
  match members.eraseDups with
  | [.point n] => .single negated n rule
  | distinct => .set negated distinct rule

/-- A set, from the character after its opening bracket on. -/
def readSet (modes : Modes) (opening : Nat) : Scan CharTest := do
  let negated ← Scan.accept '^'
  let members ← setMembers modes.ascii opening []
  return .ofMembers negated members modes.caseRule

end Winnow.Pattern
