import SchemaDraft.Number.Basic
import SchemaDraft.Number.Shortest
import SchemaDraft.Text.Blank

/-!
From decimal digits to numbers. A decimal becomes the nearest double, a magnitude beyond the largest
one is infinite, and one below half the least positive double is zero. Magnitudes far outside are
settled by their first digit's exponent, so the work is bounded by the number of digits given.
-/

namespace SchemaDraft.Number

/-- Is this one of the ten digits `0` to `9`? -/
def isDigit (c : Char) : Bool := decide ('0' ≤ c) && decide (c ≤ '9')

/-- The value of a run of digits. -/
def digitsValue (cs : List Char) : Nat :=
  cs.foldl (fun n c => 10 * n + (c.toNat - '0'.toNat)) 0

/-- The double nearest to `digits · 10 ^ exponent`. -/
def nearest (d : Decimal) : Float :=
  if d.digits = 0 then 0.0
  else
    let leading := (digitCount d.digits : Int) + d.exponent
    if 400 < leading then 1.0 / 0.0
    else if leading < -400 then 0.0
    else Float.ofScientific d.digits (decide (d.exponent < 0)) d.exponent.natAbs

/-- The double nearest to a decimal with a sign. -/
def nearestSigned (negative : Bool) (d : Decimal) : Float :=
  if negative then -(nearest d) else nearest d

/-- A sign, `+` or `-` or none, and what follows; is it a minus? -/
def readSign : List Char → Bool × List Char
  | '-' :: cs => (true, cs)
  | '+' :: cs => (false, cs)
  | cs => (false, cs)

/-- Whole digits, fraction digits and exponent as a decimal. -/
def assemble (whole fraction : List Char) (exponent : Int) : Decimal :=
  ⟨digitsValue (whole ++ fraction), exponent - fraction.length⟩

/-- The text in small letters of the Latin alphabet. -/
def asciiLower (cs : List Char) : List Char := cs.map Char.toLower

/-- An exponent part that is the whole rest of a text: nothing, or `e` with a sign and digits. -/
def readExponent : List Char → Option Int
  | [] => some 0
  | c :: cs =>
    if c = 'e' ∨ c = 'E' then
      let (negative, ds) := readSign cs
      if ds ≠ [] ∧ ds.all isDigit then
        some (if negative then -(digitsValue ds : Int) else digitsValue ds)
      else none
    else none

/-- A decimal that is the whole text: digits with at most one point, at least one of them, and an
exponent. -/
def readDecimal (cs : List Char) : Option Decimal :=
  let whole := cs.takeWhile isDigit
  let rest := cs.dropWhile isDigit
  let (fraction, rest) := match rest with
    | '.' :: more => (more.takeWhile isDigit, more.dropWhile isDigit)
    | _ => ([], rest)
  if whole = [] ∧ fraction = [] then none
  else (readExponent rest).map (assemble whole fraction)

/-- A double as a word without blanks: a decimal, `nan`, `inf` or `infinity` in any letter case,
with or without a sign. -/
def readReal (cs : List Char) : Option Float :=
  let (negative, body) := readSign cs
  let word := String.ofList (asciiLower body)
  if word = "nan" then some (0.0 / 0.0)
  else if word = "inf" ∨ word = "infinity" then
    some (if negative then -(1.0 / 0.0) else 1.0 / 0.0)
  else (readDecimal body).map (nearestSigned negative)

/-- Blanks that may stand around a number: all but the four record separators. -/
def isSpacing (c : Char) : Bool := Text.isBlank c && !(decide ('\x1c' ≤ c) && decide (c ≤ '\x1f'))

/-- A text without the blanks around it. -/
def trimSpacing (cs : List Char) : List Char :=
  ((cs.dropWhile isSpacing).reverse.dropWhile isSpacing).reverse

/-- Do two underscores stand side by side? -/
def hasDoubleUnderscore : List Char → Bool
  | '_' :: '_' :: _ => true
  | _ :: cs => hasDoubleUnderscore cs
  | [] => false

/-- The text without its underscores, which are single and stand neither first nor last. -/
def dropUnderscores (cs : List Char) : Option (List Char) :=
  if cs.head? = some '_' ∨ cs.getLast? = some '_' ∨ hasDoubleUnderscore cs = true then none
  else some (cs.filter (· ≠ '_'))

/-- A double as people write it: with blanks around it, or else with underscores inside it. -/
def readLenient (cs : List Char) : Option Float :=
  match readReal (trimSpacing cs) with
  | some x => some x
  | none => (dropUnderscores cs).bind readReal

end SchemaDraft.Number
