set_option autoImplicit false

/-!
# Timestamps

Date and time to the microsecond, with an optional offset from universal time, and their written
form. Fields have fixed widths, so texts with one offset sort as the times do.

## Main definitions

* `Winnow.Timestamp` — date, time and offset.
* `Winnow.Timestamp.render` — the written form.
-/

namespace Winnow

/-- The decimal digits of a number in a field of fixed width. -/
def decimalField : Nat → Nat → List Char
  | 0, _ => []
  | width + 1, n => decimalField width (n / 10) ++ [Char.ofNat (0x30 + n % 10)]

/-- Date and time, with an optional offset from universal time in seconds. -/
structure Timestamp where
  year : Nat
  month : Nat
  day : Nat
  hour : Nat
  minute : Nat
  second : Nat
  microsecond : Nat
  offset? : Option Int
deriving DecidableEq

namespace Timestamp

/-- The written form of the date and the time of day. Microseconds are left out if there are none.
-/
def renderTime (t : Timestamp) : List Char :=
  decimalField 4 t.year ++ '-' :: decimalField 2 t.month ++ '-' :: decimalField 2 t.day
    ++ 'T' :: decimalField 2 t.hour ++ ':' :: decimalField 2 t.minute
    ++ ':' :: decimalField 2 t.second
    ++ if t.microsecond = 0 then [] else '.' :: decimalField 6 t.microsecond

/-- The written form of an offset: hours and minutes, and seconds if there are any. -/
def renderOffset (offset : Int) : List Char :=
  let size := offset.natAbs
  let seconds := size % 60
  (if offset < 0 then '-' else '+') :: decimalField 2 (size / 3600)
    ++ ':' :: decimalField 2 (size / 60 % 60)
    ++ if seconds = 0 then [] else ':' :: decimalField 2 seconds

/-- The written form. -/
def render (t : Timestamp) : String :=
  String.ofList <| t.renderTime ++ match t.offset? with
    | some offset => renderOffset offset
    | none => []

end Timestamp

end Winnow
