import SchemaDraft.Number.Binary

/-!
The fewest decimal digits that read back as a given double. A decimal reads back if it lies in the
interval of reals that round to the double: half a unit to each side, a quarter below a power of
two, the ends included if the mantissa is even. For one digit, two digits, … the two points of that
decimal grid on either side of the double are tried; the first grid with a hit wins, and of two hits
the nearer one. A double may lie just between its two neighbours on a grid; a `Tie` rule then
decides.
-/

namespace SchemaDraft.Number

/-- The decimal `digits · 10 ^ exponent`. -/
structure Decimal where
  digits : Nat
  exponent : Int
  deriving Repr, DecidableEq

/-- Which of two neighbours on a decimal grid stands for the double in the middle between them. -/
inductive Tie where
  | even
  | up
  deriving Repr, DecidableEq

/-- Is the upper neighbour the one, if the last digit of the lower one is that of `digits`? -/
def Tie.takesAbove (tie : Tie) (digits : Nat) : Bool :=
  match tie with
  | even => digits % 2 == 1
  | up => true

/-- The interval of reals that round to a double, on the grid of quarter units: all of `low`,
`value` and `high` are numerators over one common denominator. -/
structure Interval where
  low : Nat
  value : Nat
  high : Nat
  denominator : Nat
  closed : Bool

/-- The interval of `mantissa · 2 ^ exponent`. -/
def Interval.of (mantissa : Nat) (exponent : Int) : Interval :=
  let up := Nat.pow 2 exponent.toNat
  let below := if mantissa = 0x10000000000000 ∧ -1074 < exponent then 1 else 2
  { low := (4 * mantissa - below) * up
    value := 4 * mantissa * up
    high := (4 * mantissa + 2) * up
    denominator := 4 * Nat.pow 2 (-exponent).toNat
    closed := mantissa % 2 == 0 }

/-- Does `digits · 10 ^ exponent` lie in the interval? -/
def Interval.holds (i : Interval) (d : Decimal) : Bool :=
  let point := d.digits * Nat.pow 10 d.exponent.toNat * i.denominator
  let scale := Nat.pow 10 (-d.exponent).toNat
  if i.closed then decide (i.low * scale ≤ point) && decide (point ≤ i.high * scale)
  else decide (i.low * scale < point) && decide (point < i.high * scale)

/-- The largest multiple of `10 ^ exponent` up to the interval's value. -/
def Interval.floorAt (i : Interval) (exponent : Int) : Nat :=
  i.value * Nat.pow 10 (-exponent).toNat / (i.denominator * Nat.pow 10 exponent.toNat)

/-- The middle between `digits` and `digits + 1` on the grid of `10 ^ exponent` against the value.
-/
def Interval.compareMiddle (i : Interval) (d : Decimal) : Ordering :=
  compare ((2 * d.digits + 1) * Nat.pow 10 d.exponent.toNat * i.denominator)
    (2 * i.value * Nat.pow 10 (-d.exponent).toNat)

/-- Does `digits + 1` stand for the value rather than `digits`? -/
def Interval.takesAbove (tie : Tie) (i : Interval) (d : Decimal) : Bool :=
  match i.compareMiddle d with
  | .lt => true
  | .eq => tie.takesAbove d.digits
  | .gt => false

/-- The point of the grid of `10 ^ exponent` that lies in the interval, the nearer one of two. -/
def Interval.hit (tie : Tie) (i : Interval) (exponent : Int) : Option Decimal :=
  let below : Decimal := ⟨i.floorAt exponent, exponent⟩
  let above : Decimal := ⟨below.digits + 1, exponent⟩
  match i.holds below, i.holds above with
  | true, true => some (if i.takesAbove tie below then above else below)
  | true, false => some below
  | false, true => some above
  | false, false => none

/-- The first hit on the grids of `10 ^ top`, `10 ^ (top - 1)`, …, trying `fuel` grids. -/
def Interval.firstHit (tie : Tie) (i : Interval) : Nat → Int → Decimal
  | 0, top => ⟨i.floorAt top, top⟩
  | fuel + 1, top => (i.hit tie top).getD (Interval.firstHit tie i fuel (top - 1))

def digitCount (n : Nat) : Nat := (Nat.toDigits 10 n).length

/-- The decimal exponent of a positive value's first digit, one more if in doubt. -/
def Interval.leadingExponent (i : Interval) : Int :=
  (digitCount i.value : Int) - digitCount i.denominator

/-- The digits without the zeros at their end, which move into the exponent; `fuel` bounds how many
are moved. -/
def Decimal.stripZeros : Nat → Decimal → Decimal
  | 0, d => d
  | fuel + 1, d =>
    if d.digits % 10 = 0 then Decimal.stripZeros fuel ⟨d.digits / 10, d.exponent + 1⟩ else d

/-- The shortest decimal that reads back as the positive double `mantissa · 2 ^ exponent`. -/
def shortest (tie : Tie) (mantissa : Nat) (exponent : Int) : Decimal :=
  if mantissa = 0 then ⟨0, 0⟩
  else
    let i := Interval.of mantissa exponent
    let d := i.firstHit tie 19 i.leadingExponent
    d.stripZeros (digitCount d.digits - 1)

end SchemaDraft.Number
