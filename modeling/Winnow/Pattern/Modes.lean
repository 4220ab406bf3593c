import Winnow.Pattern.CharTest

set_option autoImplicit false

/-!
# Modes of patterns

The flags that a pattern can set for itself, from its start on or for a part of it, and the modes
that they make up.

## Main definitions

* `Winnow.Pattern.Flag` — the flags, and `Winnow.Pattern.Flag.ofChar?`, their letters.
* `Winnow.Pattern.Modes` — the modes in force at a place of a pattern.
-/

namespace Winnow.Pattern

/-- A flag that a pattern can set. -/
inductive Flag where
  | ignoreCase
  | locale
  | multiLine
  | lineFeeds
  | verbose
  | ascii
  | template
  | unicode
deriving DecidableEq

namespace Flag

/-- The flag that a letter stands for. -/
def ofChar? : Char → Option Flag
  | 'i' => some ignoreCase
  | 'L' => some locale
  | 'm' => some multiLine
  | 's' => some lineFeeds
  | 'x' => some verbose
  | 'a' => some ascii
  | 't' => some template
  | 'u' => some unicode
  | _ => none

/-- Flags that choose which characters count as letters; at most one of them can be set. -/
def isType : Flag → Bool
  | ascii | unicode | locale => true
  | _ => false

/-- Flags that hold for a whole pattern or not at all. -/
def isGlobal : Flag → Bool
  | template => true
  | _ => false

end Flag

/-- The modes in force at a place of a pattern. -/
structure Modes where
  ignoreCase : Bool
  multiLine : Bool
  lineFeeds : Bool
  verbose : Bool
  ascii : Bool
deriving DecidableEq

namespace Modes

/-- The modes of a pattern that sets no flag. -/
def default : Modes := ⟨false, false, false, false, false⟩

/-- The modes after a flag is set. -/
def turnOn (m : Modes) : Flag → Modes
  | .ignoreCase => { m with ignoreCase := true }
  | .multiLine => { m with multiLine := true }
  | .lineFeeds => { m with lineFeeds := true }
  | .verbose => { m with verbose := true }
  | .ascii => { m with ascii := true }
  | .unicode => { m with ascii := false }
  | .locale | .template => m

/-- The modes after a flag is unset. -/
def turnOff (m : Modes) : Flag → Modes
  | .ignoreCase => { m with ignoreCase := false }
  | .multiLine => { m with multiLine := false }
  | .lineFeeds => { m with lineFeeds := false }
  | .verbose => { m with verbose := false }
  | .ascii | .unicode | .locale | .template => m

/-- The modes after flags are set and others unset. -/
def change (m : Modes) (on off : List Flag) : Modes :=
  off.foldl turnOff (on.foldl turnOn m)

/-- How characters are compared under the modes. -/
def caseRule (m : Modes) : CaseRule :=
  if m.ignoreCase then (if m.ascii then .ascii else .full) else .exact

end Modes

end Winnow.Pattern
