import Winnow.Pattern.SetReader

set_option autoImplicit false

/-!
# Reading patterns

From the text of a pattern to its syntax tree. The reader goes through the tokens once. It keeps the
sequence that is being read at the innermost level, a stack of the levels around it, and what is
known of the groups so far.

## Main definitions

* `Winnow.Pattern.Level`, `Winnow.Pattern.Opening`, `Winnow.Pattern.Reader` — the state of the
  reader.
* `Winnow.Pattern.Reader.step` — what the reader does with the next token.
* `Winnow.Pattern.Node.fault?` — flaws that only a complete tree can show.
* `Winnow.Pattern.read` — the syntax tree of a pattern.

## Design

There is no recursion on parentheses: an opening one puts the current level on the stack, a closing
one takes it off again, and so each step is a function of the state. Each step takes at least its
own token, so the reader ends. A place is kept as the number of characters from there to the end.

Patterns may be nested to any depth. The limits of a stack, on which readers that call themselves
for each parenthesis depend, are not those of a pattern and have no place here. The names of
characters are left to the host (`Winnow.Host`).
-/

namespace Winnow.Pattern

/-! ## The state of the reader -/

/-- What an opening parenthesis has begun. -/
inductive Opening where
  /-- A group that is remembered under its number. -/
  | capture (index : Nat)
  /-- A group that is not remembered. -/
  | plain
  /-- A group of which only the first way to match counts. -/
  | atomic
  /-- A condition on what follows. -/
  | ahead (positive : Bool)
  /-- A condition on what precedes, and whether it stands in no other one. -/
  | behind (positive outermost : Bool)
  /-- A choice by a group, with its first branch once that is complete. -/
  | conditional (index : Nat) (yes? : Option Node)

/-- What has been read at one level of parentheses, the last first. -/
structure Level where
  /-- The modes in force. -/
  modes : Modes
  /-- The branches that are complete. -/
  branches : List Node
  /-- The items of the branch that is being read. -/
  items : List Node

namespace Level

/-- A level at which nothing has been read. -/
def start (modes : Modes) : Level :=
  ⟨modes, [], []⟩

/-- The items of the current branch in sequence. -/
def sequence (l : Level) : Node :=
  l.items.foldl (fun rest item => .seq item rest) .empty

/-- The branches as alternatives. -/
def node (l : Level) : Node :=
  l.branches.foldl (fun rest branch => .alt branch rest) l.sequence

/-- The level after another item. -/
def push (l : Level) (item : Node) : Level :=
  { l with items := item :: l.items }

/-- The level after the end of a branch. -/
def nextBranch (l : Level) : Level :=
  { l with branches := l.sequence :: l.branches, items := [] }

end Level

/-- The state of the reader. -/
structure Reader where
  /-- The innermost level. -/
  level : Level
  /-- The levels around it, the innermost first, each with what was opened there and where. -/
  outer : List (Opening × Nat × Level)
  /-- The flags set for the whole pattern. -/
  flags : List Flag
  /-- The width of each group, from number one on; none while the group is open. -/
  widths : List (Option Width)
  /-- The numbers of the groups that have a name. -/
  names : List (String × Nat)
  /-- The first group number that a condition on what precedes may not refer to, inside of one. -/
  lookbehind? : Option Nat
  /-- The group numbers that choices ask for, each with the place of its first mention. -/
  asked : List (Nat × Nat)

namespace Reader

/-- The state before the first token. -/
def start : Reader :=
  ⟨.start .default, [], [], [], [], none, []⟩

/-- The number that the next group gets. -/
def nextGroup (r : Reader) : Nat :=
  r.widths.length + 1

/-- Whether a group is complete. -/
def isClosed (r : Reader) (index : Nat) : Bool :=
  match r.widths[index - 1]? with
  | some (some _) => true
  | _ => false

/-- The width of a group that is complete. -/
def groupWidth (r : Reader) (index : Nat) : Width :=
  (r.widths[index - 1]?.join).getD ⟨0, 0⟩

/-- The state after another item. -/
def push (r : Reader) (item : Node) : Reader :=
  { r with level := r.level.push item }

/-- The state after a single character. -/
def pushPoint (r : Reader) (point : Nat) : Reader :=
  r.push (.char (.single false point r.level.modes.caseRule))

/-- The state inside of a new pair of parentheses. -/
def enter (r : Reader) (opening : Opening) (left : Nat) (modes : Modes) : Reader :=
  { r with level := .start modes, outer := (opening, left, r.level) :: r.outer }

/-- Makes sure that a condition on what precedes refers to a group that was complete before it. -/
def checkLookbehind (r : Reader) (index : Nat) : Scan Unit :=
  match r.lookbehind? with
  | none => pure ()
  | some bound =>
    if !r.isClosed index then Scan.fail .openGroup
    else if bound ≤ index then Scan.fail .groupOfSameLookbehind
    else pure ()

/-! ## Escapes -/

/-- A back-reference by number, given the digits of its escape. -/
def reference (r : Reader) (digits : List Char) : Scan Node := do
  let index := valueIn 10 digits
  if r.nextGroup ≤ index then Scan.failBack digits.length (.invalidReference index)
  else if !r.isClosed index then Scan.failBack (1 + digits.length) .openGroup
  else
    r.checkLookbehind index
    return .backref index r.level.modes.caseRule

/-- A back-reference by number, or a character by three octal digits, after its first digit. -/
def referenceOrOctal (r : Reader) (c : Char) : Scan Node := do
  match ← Scan.upTo Char.isDigit 1 with
  | [d] =>
    if isOctalDigit c && isOctalDigit d then
      match ← Scan.upTo isOctalDigit 1 with
      | [e] => return .char (.single false (← octalPoint [c, d, e]) r.level.modes.caseRule)
      | _ => r.reference [c, d]
    else r.reference [c, d]
  | _ => r.reference [c]

variable [Host]

/-- The item that an escape outside of sets stands for. -/
def escape (r : Reader) (c : Char) : Scan Node := do
  let modes := r.level.modes
  let single := fun (point : Nat) => Node.char (.single false point modes.caseRule)
  match c with
  | 'A' => return .anchor .textStart
  | 'Z' => return .anchor .textEnd
  | 'b' => return .anchor (.boundary false modes.ascii)
  | 'B' => return .anchor (.boundary true modes.ascii)
  | c =>
    match categoryEscape? c, controlEscape? c with
    | some (category, negated), _ =>
      return .char (.set false [.named category negated modes.ascii] modes.caseRule)
    | none, some point => return single point
    | none, none =>
      match ← numberedPoint? c with
      | some point => return single point
      | none =>
        if c = '0' then return single (valueIn 8 (← Scan.upTo isOctalDigit 2))
        else if c.isDigit then r.referenceOrOctal c
        else if isAsciiLetter c then Scan.failBack 2 (.badEscape (escapeText c []))
        else return single c.toNat

/-! ## Repeats -/

/-- The number that the digits of a repeat count stand for. -/
def repeatCount (digits : List Char) : Scan Nat :=
  if 4300 < digits.length then Scan.stop (.longRepeat digits.length)
  else if Nat.pow 2 32 - 1 ≤ valueIn 10 digits then Scan.stop .hugeRepeat
  else pure (valueIn 10 digits)

/-- The least and the greatest count between braces, after the opening one; none if the braces do
not hold counts. -/
def counts? : Scan (Option (Nat × Option Nat)) := do
  let inside ← Scan.left
  if (← Scan.peek) = some (.plain '}') then return none
  else
    let low ← Scan.all Char.isDigit
    let high ← if ← Scan.accept ',' then Scan.all Char.isDigit else pure low
    if ← Scan.accept '}' then
      let least ← if low.isEmpty then pure 0 else repeatCount low
      if high.isEmpty then return some (least, none)
      else
        let most ← repeatCount high
        if most < least then Scan.failAt inside .crossedRepeat
        else return some (least, some most)
    else return none

/-- The counts that a repeat character asks for; none for a brace that stands for itself. -/
def bounds? (c : Char) : Scan (Option (Nat × Option Nat)) :=
  match c with
  | '?' => pure (some (0, some 1))
  | '*' => pure (some (0, none))
  | '+' => pure (some (1, none))
  | _ => Scan.attempt counts?

/-- The greed that the character after a repeat asks for. -/
def greed : Scan Greed := do
  if ← Scan.accept '?' then return .lazy
  else if ← Scan.accept '+' then return .possessive
  else return .greedy

/-- The state after a repeat character, which repeats the last item. -/
def repeatLast (r : Reader) (c : Char) : Scan Reader := do
  let place := (← Scan.left) + 1
  match ← bounds? c with
  | none => return r.pushPoint c.toNat
  | some (least, most?) =>
    match r.level.items with
    | [] | .anchor _ :: _ => Scan.failAt place .nothingToRepeat
    | .repeated _ _ _ _ :: _ => Scan.failAt place .multipleRepeat
    | item :: items =>
      let repeated := .repeated (← greed) least most? item
      return { r with level := { r.level with items := repeated :: items } }

/-! ## Parentheses -/

/-- The state inside of a group that is remembered, under a name if one is given. -/
def enterCapture (r : Reader) (left : Nat) (name? : Option (List Char)) : Scan Reader := do
  let index := r.nextGroup
  let opened := { r.enter (.capture index) left r.level.modes with widths := r.widths ++ [none] }
  match name? with
  | none => return opened
  | some chars =>
    let name := String.ofList chars
    match r.names.lookup name with
    | some earlier => Scan.failBack (chars.length + 1) (.redefinedGroup name index earlier)
    | none => return { opened with names := r.names ++ [(name, index)] }

/-- A group name up to a closing character. -/
def groupName (closer : Char) : Scan (List Char) := do
  let chars ← readName closer "group name"
  if Text.isIdentifier chars then return chars
  else Scan.failBack (chars.length + 1) (.badGroupName (String.ofList chars))

/-- A back-reference by name, after the name. -/
def namedReference (r : Reader) (chars : List Char) : Scan Node := do
  let name := String.ofList chars
  match r.names.lookup name with
  | none => Scan.failBack (chars.length + 1) (.unknownGroupName name)
  | some index =>
    if !r.isClosed index then Scan.failBack (chars.length + 1) .openGroup
    else
      r.checkLookbehind index
      return .backref index r.level.modes.caseRule

/-- The parentheses with a name: groups and back-references. -/
def namedParenthesis (r : Reader) (left : Nat) : Scan Reader := do
  if ← Scan.accept '<' then
    r.enterCapture left (some (← groupName '>'))
  else if ← Scan.accept '=' then
    return r.push (← r.namedReference (← groupName ')'))
  else match ← Scan.take with
    | none => Scan.fail .unexpectedEnd
    | some t => Scan.failBack (t.size + 2) (.unknownExtension ("?P" ++ t.text))

/-- The values of digits of any script with single low lines between them. -/
def separatedDigits? : List Char → Option (List Nat)
  | [] => none
  | [c] => (Text.digitValue? c).map ([·])
  | c :: '_' :: cs => do
    let d ← Text.digitValue? c
    return d :: (← separatedDigits? cs)
  | c :: cs => do
    let d ← Text.digitValue? c
    return d :: (← separatedDigits? cs)

/-- Blanks that may stand around an integer: all but the four separators below the space. -/
def isIntegerBlank (c : Char) : Bool :=
  Text.isBlank c && !(0x1C ≤ c.toNat && c.toNat ≤ 0x1F)

/-- The integer that a text stands for: an optional sign and at most 4300 digits of any script, with
blanks around and single low lines between. -/
def integer? (cs : List Char) : Option Int :=
  let body := ((cs.dropWhile isIntegerBlank).reverse.dropWhile isIntegerBlank).reverse
  let (negative, body) := match body with
    | '-' :: body => (true, body)
    | '+' :: body => (false, body)
    | body => (false, body)
  match separatedDigits? body with
  | none => none
  | some digits =>
    if 4300 < digits.length then none
    else
      let size : Nat := digits.foldl (fun n d => 10 * n + d) 0
      some (if negative then -size else size)

/-- The greatest number that a group can have is below this one. -/
def groupLimit : Nat := 1073741823

/-- The group that a choice asks for, by its name or its number, and the state after that. -/
def askedGroup (r : Reader) : Scan (Nat × Reader) := do
  let chars ← readName ')' "group name"
  let text := String.ofList chars
  let back := chars.length + 1
  if Text.isIdentifier chars then
    match r.names.lookup text with
    | none => Scan.failBack back (.unknownGroupName text)
    | some index => return (index, r)
  else match integer? chars with
    | some (.ofNat index) =>
      if index = 0 then Scan.failBack back .badGroupNumber
      else if groupLimit ≤ index then Scan.failBack back (.invalidReference index)
      else
        let place := (← Scan.left) + back
        let asked := if (r.asked.lookup index).isSome then r.asked
          else r.asked ++ [(index, place)]
        return (index, { r with asked })
    | _ => Scan.failBack back (.badGroupName text)

/-- The state inside of a choice by a group. -/
def enterConditional (r : Reader) (left : Nat) : Scan Reader := do
  let (index, r) ← r.askedGroup
  r.checkLookbehind index
  return r.enter (.conditional index none) left r.level.modes

/-- A comment, up to its closing parenthesis. -/
def comment (left : Nat) : (ts : List Token) → Except Trouble (Taken Unit ts)
  | [] => .error (.flaw .unterminatedComment (some left))
  | t :: rest =>
    match Scan.settle rest with
    | .error e => .error e
    | .ok _ =>
      if t = .plain ')' then .ok ⟨(), rest, Nat.le_succ _⟩
      else match comment left rest with
        | .error e => .error e
        | .ok u => .ok ⟨(), u.rest, Nat.le_trans u.rest_le (Nat.le_succ _)⟩

/-- The flaw of a token that should be a flag or end the flags. -/
def flagFlaw (t : Token) (otherwise : Flaw) : Flaw :=
  match t with
  | .plain c => if Text.isLetter c then .unknownFlag else otherwise
  | _ => otherwise

/-- The flag that a token stands for. -/
def flagOf? : Token → Option Flag
  | .plain c => Flag.ofChar? c
  | _ => none

/-- What is wrong with setting a flag after others. -/
def flagOnFlaw? (taken : List Flag) (flag : Flag) : Option Flaw :=
  if flag = .locale then some .localeFlag
  else if flag.isType && taken.any (fun other => other.isType && other != flag) then
    some .incompatibleFlags
  else none

/-- The flags to set, beginning with a given one, and the character that ends them. -/
def flagsOn (taken : List Flag) (flag : Flag) :
    (ts : List Token) → Except Trouble (Taken (List Flag × Char) ts)
  | [] => .error (.flaw ((flagOnFlaw? taken flag).getD .unclosedFlags) (some 0))
  | t :: rest =>
    match flagOnFlaw? taken flag, Scan.settle rest with
    | some flaw, _ => .error (.flaw flaw (some (charCount (t :: rest))))
    | none, .error e => .error e
    | none, .ok _ =>
      match t, flagOf? t with
      | .plain ')', _ => .ok ⟨(taken ++ [flag], ')'), rest, Nat.le_succ _⟩
      | .plain '-', _ => .ok ⟨(taken ++ [flag], '-'), rest, Nat.le_succ _⟩
      | .plain ':', _ => .ok ⟨(taken ++ [flag], ':'), rest, Nat.le_succ _⟩
      | _, some next =>
        match flagsOn (taken ++ [flag]) next rest with
        | .error e => .error e
        | .ok u => .ok ⟨u.value, u.rest, Nat.le_trans u.rest_le (Nat.le_succ _)⟩
      | _, none => .error (.flaw (flagFlaw t .unclosedFlags) (some (charCount (t :: rest))))

/-- The flags to unset, beginning with a given one, up to a colon. -/
def flagsOff (taken : List Flag) (flag : Flag) :
    (ts : List Token) → Except Trouble (Taken (List Flag) ts)
  | [] => .error (.flaw (if flag.isType then .removedTypeFlag else .missingColon) (some 0))
  | t :: rest =>
    if flag.isType then .error (.flaw .removedTypeFlag (some (charCount (t :: rest))))
    else match Scan.settle rest with
      | .error e => .error e
      | .ok _ =>
        match t, flagOf? t with
        | .plain ':', _ => .ok ⟨taken ++ [flag], rest, Nat.le_succ _⟩
        | _, some next =>
          match flagsOff (taken ++ [flag]) next rest with
          | .error e => .error e
          | .ok u => .ok ⟨u.value, u.rest, Nat.le_trans u.rest_le (Nat.le_succ _)⟩
        | _, none => .error (.flaw (flagFlaw t .missingColon) (some (charCount (t :: rest))))

/-- The flags to unset, after a hyphen. -/
def removedFlags : Scan (List Flag) := do
  match ← Scan.take with
  | none => Scan.fail .missingFlag
  | some t =>
    match flagOf? t with
    | none => Scan.failBack t.size (flagFlaw t .missingFlag)
    | some flag => flagsOff [] flag

/-- The state after flags for the whole pattern, which must stand at its very start. -/
def setFlags (r : Reader) (left : Nat) (flags : List Flag) : Scan Reader :=
  if r.outer.isEmpty && r.level.branches.isEmpty && r.level.items.isEmpty then
    let level := { r.level with modes := r.level.modes.change flags [] }
    pure { r with level, flags := r.flags ++ flags }
  else Scan.failAt left .misplacedFlags

/-- The state inside of parentheses that set and unset flags. -/
def enterScope (r : Reader) (left : Nat) (on off : List Flag) : Scan Reader :=
  if off.any Flag.isGlobal then Scan.failBack 1 .removedGlobalFlag
  else if on.any off.contains then Scan.failBack 1 .flagOnAndOff
  else pure (r.enter .plain left (r.level.modes.change on off))

/-- Parentheses with flags, after the first flag or hyphen. -/
def flagParenthesis (r : Reader) (left : Nat) (first? : Option Flag) : Scan Reader := do
  match first? with
  | none => r.enterScope left [] (← removedFlags)
  | some flag =>
    let (on, closer) ← flagsOn [] flag
    if closer = ')' then r.setFlags left on
    else if on.any Flag.isGlobal then Scan.failBack 1 .scopedGlobalFlag
    else if closer = '-' then r.enterScope left on (← removedFlags)
    else r.enterScope left on []

/-- The parentheses of a condition on what precedes. -/
def enterBehind (r : Reader) (left : Nat) : Scan Reader := do
  match ← Scan.take with
  | none => Scan.fail .unexpectedEnd
  | some t =>
    let outermost := r.lookbehind?.isNone
    let bound := r.lookbehind?.getD r.nextGroup
    let inside := fun (positive : Bool) =>
      { r.enter (.behind positive outermost) left r.level.modes with lookbehind? := some bound }
    if t = .plain '=' then return inside true
    else if t = .plain '!' then return inside false
    else Scan.failBack (t.size + 2) (.unknownExtension ("?<" ++ t.text))

/-- Parentheses that begin with a question mark, after it. -/
def extension (r : Reader) (left : Nat) : Scan Reader := do
  match ← Scan.take with
  | none => Scan.fail .unexpectedEnd
  | some t =>
    let modes := r.level.modes
    match t, flagOf? t with
    | .plain 'P', _ => r.namedParenthesis left
    | .plain ':', _ => return r.enter .plain left modes
    | .plain '#', _ =>
      comment left
      return r
    | .plain '=', _ => return r.enter (.ahead true) left modes
    | .plain '!', _ => return r.enter (.ahead false) left modes
    | .plain '<', _ => r.enterBehind left
    | .plain '(', _ => r.enterConditional left
    | .plain '>', _ => return r.enter .atomic left modes
    | .plain '-', _ => r.flagParenthesis left none
    | _, some flag => r.flagParenthesis left (some flag)
    | t, none => Scan.failBack (t.size + 1) (.unknownExtension ("?" ++ t.text))

/-- The state after an opening parenthesis. -/
def openParenthesis (r : Reader) : Scan Reader := do
  let left := (← Scan.left) + 1
  if ← Scan.accept '?' then r.extension left else r.enterCapture left none

/-- The state after a closing parenthesis that has an opening one. -/
def leave (r : Reader) (opening : Opening) (level : Level) (outer : List (Opening × Nat × Level)) :
    Reader :=
  let body := r.level.node
  let back := { r with level, outer }
  match opening with
  | .capture index =>
    { back.push (.group (some index) body) with
      widths := r.widths.set (index - 1) (some (body.width r.groupWidth)) }
  | .plain => back.push (.group none body)
  | .atomic => back.push (.atomic body)
  | .ahead positive => back.push (.ahead positive body)
  | .behind positive outermost =>
    let width := body.width r.groupWidth
    { back.push (.behind positive width.least width.most body) with
      lookbehind? := if outermost then none else r.lookbehind? }
  | .conditional index none => back.push (.conditional index r.level.sequence .empty)
  | .conditional index (some yes) => back.push (.conditional index yes r.level.sequence)

/-- Whether the flags of the whole pattern contradict each other. -/
def isContradictory (r : Reader) : Bool :=
  r.flags.contains .ascii && r.flags.contains .unicode

/-- The state after a closing parenthesis. -/
def closeParenthesis (r : Reader) : Scan Reader :=
  match r.outer with
  | [] =>
    if r.isContradictory then Scan.stop .contradictoryFlags
    else Scan.failBack 1 .unbalancedParenthesis
  | (opening, _, level) :: outer => do
    Scan.settle
    return r.leave opening level outer

/-- The state after a vertical bar. -/
def bar (r : Reader) : Scan Reader :=
  match r.outer with
  | (.conditional _ (some _), _, _) :: _ => Scan.failBack 1 .thirdBranch
  | (.conditional index none, left, level) :: outer => do
    Scan.settle
    let outer := (.conditional index (some r.level.sequence), left, level) :: outer
    return { r with level := .start r.level.modes, outer }
  | _ => do
    Scan.settle
    return { r with level := r.level.nextBranch }

/-! ## The reader -/

/-- Blanks that the verbose mode skips. -/
def isSkipped (c : Char) : Bool :=
  c == ' ' || (0x9 ≤ c.toNat && c.toNat ≤ 0xD)

/-- The rest of a line, with its line feed. -/
def restOfLine : (ts : List Token) → Except Trouble (Taken Unit ts)
  | [] => .ok ⟨(), [], Nat.le_refl _⟩
  | t :: rest =>
    match Scan.settle rest with
    | .error e => .error e
    | .ok _ =>
      if t = .plain '\n' then .ok ⟨(), rest, Nat.le_succ _⟩
      else match restOfLine rest with
        | .error e => .error e
        | .ok u => .ok ⟨(), u.rest, Nat.le_trans u.rest_le (Nat.le_succ _)⟩

/-- The state after a character that is not a backslash, a bar or a closing parenthesis. -/
def character (r : Reader) (c : Char) : Scan Reader := do
  let modes := r.level.modes
  match c with
  | '[' => return r.push (.char (← readSet modes ((← Scan.left) + 1)))
  | '(' => r.openParenthesis
  | '*' | '+' | '?' | '{' => r.repeatLast c
  | '.' => return r.push (.char (.any modes.lineFeeds))
  | '^' => return r.push (.anchor (if modes.multiLine then .lineStart else .textStart))
  | '$' => return r.push (.anchor (if modes.multiLine then .lineEnd else .finalEnd))
  | c => return r.pushPoint c.toNat

/-- The state after the next token, given the tokens after it. -/
def step (r : Reader) (t : Token) : Scan Reader :=
  match t with
  | .plain '|' => r.bar
  | .plain ')' => r.closeParenthesis
  | .plain c => do
    Scan.settle
    if r.level.modes.verbose && isSkipped c then return r
    else if r.level.modes.verbose && c == '#' then
      restOfLine
      return r
    else r.character c
  | .escaped c => do
    Scan.settle
    return r.push (← r.escape c)
  | .dangling => pure r

end Reader

/-- A flaw of a complete tree: in a template a repeat, elsewhere a condition on what precedes whose
width is not fixed. Of several flaws the leftmost outermost one counts. -/
def Node.fault? (template : Bool) : Node → Option Flaw
  | empty | char _ | anchor _ | backref _ _ => none
  | seq first second => (first.fault? template).or (second.fault? template)
  | alt first second => (first.fault? template).or (second.fault? template)
  | repeated greed _ _ body =>
    if template then
      some (.repeatInTemplate (match greed with
        | .greedy => "MAX_REPEAT"
        | .lazy => "MIN_REPEAT"
        | .possessive => "POSSESSIVE_REPEAT"))
    else body.fault? template
  | group _ body => body.fault? template
  | atomic body => body.fault? template
  | conditional _ yes no => (yes.fault? template).or (no.fault? template)
  | ahead _ body => body.fault? template
  | behind _ least most body =>
    if Nat.pow 2 32 - 1 < least then some .hugeLookbehind
    else if least ≠ most then some .variableLookbehind
    else body.fault? template

/-- The tree that has been read when no token is left. -/
def Reader.finish (r : Reader) : Except Trouble Node :=
  match r.outer with
  | (_, left, _) :: _ => .error (.flaw .unterminatedGroup (some left))
  | [] =>
    if r.isContradictory then .error (.limit .contradictoryFlags)
    else match r.asked.find? fun (index, _) => r.nextGroup ≤ index with
      | some (index, left) => .error (.flaw (.invalidReference index) (some left))
      | none =>
        let node := r.level.node
        match node.fault? (r.flags.contains .template) with
        | some flaw => .error (.flaw flaw none)
        | none => .ok node

variable [Host]

/-- The tree that the reader makes of the remaining tokens. -/
def Reader.run (r : Reader) (ts : List Token) : Except Trouble Node :=
  match ts with
  | [] => r.finish
  | t :: rest =>
    match r.step t rest with
    | .error e => .error e
    | .ok u => u.value.run u.rest
termination_by ts.length
decreasing_by
  have := u.rest_le
  simp only [List.length_cons]
  omega

/-- The syntax tree of a pattern. -/
def read (pattern : String) : Except Refusal Node :=
  let chars := pattern.toList
  let tokens := tokenize chars
  match Scan.settle tokens with
  | .error (.limit limit) => .error (.limit limit)
  | .error (.flaw flaw left?) =>
    .error (.malformed ⟨pattern, flaw, left?.map (chars.length - ·)⟩)
  | .ok _ =>
    match Reader.start.run tokens with
    | .ok node => .ok node
    | .error (.limit limit) => .error (.limit limit)
    | .error (.flaw flaw left?) =>
      .error (.malformed ⟨pattern, flaw, left?.map (chars.length - ·)⟩)

end Winnow.Pattern
