set_option autoImplicit false

/-!
# The host

What is looked up by name outside the library: characters, by the names that Unicode gives them, and
the names that the logging of the host knows. Neither list is part of the library, so every function
that asks for a name, and everything built on it, has the host as a parameter.

## Main definitions

* `Winnow.Host` — the two lookups, as a class.
* `Winnow.Host.ofLists`, `Winnow.Host.bare` — the host with given names, and the one with none.
-/

namespace Winnow

/-- What a name that the logging of the host knows stands for. -/
inductive NamedThing where
  /-- A number, or a truth value that counts as one. -/
  | number (value : Nat)
  | text (value : String)
  /-- Anything else, such as a function, by the text that shows it. -/
  | other (shown : String)
deriving DecidableEq

/-- The lookups that the library leaves to its host. -/
class Host where
  /-- The character with a Unicode name. -/
  character? : String → Option Char
  /-- What a name stands for in logging, if it is none of a level. -/
  loggingName? : String → Option NamedThing

/-- The host that knows the names of two lists, and no others. -/
abbrev Host.ofLists (characters : List (String × Char)) (names : List (String × NamedThing)) :
    Host :=
  ⟨fun name => List.lookup name characters, fun name => List.lookup name names⟩

/-- A host that knows no names. -/
abbrev Host.bare : Host :=
  .ofLists [] []

end Winnow
