/-!
What a double stands for. A finite double is a sign and a magnitude `mantissa · 2 ^ exponent` with
natural `mantissa`; the other doubles are the two infinities and the one that is no number.
Comparison with integers and the choice of decimal digits are exact, on these magnitudes.
-/

namespace SchemaDraft.Number

/-- The value of a double, taken apart. -/
inductive Parts where
  | notANumber
  | infinite (negative : Bool)
  | finite (negative : Bool) (mantissa : Nat) (exponent : Int)
  deriving Repr, DecidableEq

/-- The parts of the double with these 64 bits: sign, eleven bits of exponent, 52 of fraction. -/
def Parts.ofBits (bits : Nat) : Parts :=
  let negative := bits >>> 63 % 2 == 1
  let biased : Nat := bits >>> 52 % 0x800
  let fraction : Nat := bits % 0x10000000000000
  if biased = 0x7FF then
    if fraction = 0 then .infinite negative else .notANumber
  else if biased = 0 then .finite negative fraction (-1074)
  else .finite negative (fraction + 0x10000000000000) ((biased : Int) - 1075)

def Parts.of (x : Float) : Parts := Parts.ofBits x.toBits.toNat

/-- `mantissa · 2 ^ exponent` against the integer `n`, exactly. -/
def compareScaled (mantissa : Int) (exponent : Int) (n : Int) : Ordering :=
  if exponent < 0 then compare mantissa (n * Int.pow 2 (-exponent).toNat)
  else compare (mantissa * Int.pow 2 exponent.toNat) n

/-- A double against an integer; `none` if the double is no number. -/
def compareInt (x : Float) (n : Int) : Option Ordering :=
  match Parts.of x with
  | .notANumber => none
  | .infinite negative => some (if negative then .lt else .gt)
  | .finite negative mantissa exponent =>
    some (compareScaled (if negative then -(mantissa : Int) else mantissa) exponent n)

/-- The integer that `mantissa · 2 ^ exponent` is, if it is one. -/
def wholeScaled (mantissa : Int) (exponent : Int) : Option Int :=
  if 0 ≤ exponent then some (mantissa * Int.pow 2 exponent.toNat)
  else
    let unit : Int := Int.pow 2 (-exponent).toNat
    if mantissa % unit = 0 then some (mantissa / unit) else none

/-- The integer that a double is, if it is one. -/
def whole? (x : Float) : Option Int :=
  match Parts.of x with
  | .finite negative mantissa exponent =>
    wholeScaled (if negative then -(mantissa : Int) else mantissa) exponent
  | _ => none

end SchemaDraft.Number
