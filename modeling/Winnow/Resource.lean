set_option autoImplicit false

/-!
# Resources

A resource maps keys to texts. A key may be there without a text, which counts as missing.

## Main definitions

* `Winnow.Resource` — resources.
* `Winnow.Resource.get?` — the text of a property.
-/

namespace Winnow

/-- The properties of a resource. -/
structure Resource where
  fields : List (String × Option String)
deriving DecidableEq

/-- The text of a property, if the resource has the property and it has a text. -/
def Resource.get? (r : Resource) (key : String) : Option String :=
  (r.fields.lookup key).join

end Winnow
