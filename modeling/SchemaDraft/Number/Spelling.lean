import SchemaDraft.Number.Read
import SchemaDraft.Text.Pieces

/-!
Which words are spelled numbers: decimals, integers with a mark of their base, and complex numbers.
A single underscore may stand between two digits. Only the spelling counts here, not the value.
-/

namespace SchemaDraft.Number

/-- One digit or more, with single underscores between them. -/
def isDigitRun (cs : List Char) : Bool :=
  !cs.isEmpty && (dropUnderscores cs).any (·.all isDigit)

/-- Whole digits, a point, digits after it; one of the two may be left out, and so may the point. -/
def isMantissa (cs : List Char) : Bool :=
  match Text.piecesAt '.' cs with
  | [whole] => isDigitRun whole
  | [whole, []] => isDigitRun whole
  | [[], fraction] => isDigitRun fraction
  | [whole, fraction] => isDigitRun whole && isDigitRun fraction
  | _ => false

def startsExponent (c : Char) : Bool := c == 'e' || c == 'E'

/-- Nothing, or an exponent. -/
def isExponent : List Char → Bool
  | [] => true
  | _ :: cs => isDigitRun (readSign cs).2

/-- A decimal without a sign. -/
def isDecimal (cs : List Char) : Bool :=
  isMantissa (cs.takeWhile (!startsExponent ·)) && isExponent (cs.dropWhile (!startsExponent ·))

/-- A decimal without a sign, or a word for a double that is not finite. -/
def isMagnitude (cs : List Char) : Bool :=
  isDecimal cs || ["nan", "inf", "infinity"].contains (String.ofList (asciiLower cs))

/-- A number with or without a sign. -/
def isReal (cs : List Char) : Bool := isMagnitude (readSign cs).2

def isSign (c : Char) : Bool := c == '+' || c == '-'

/-- A sign, a magnitude or both, the factor of the imaginary unit after another number. -/
def isSignedFactor : List Char → Bool
  | [] => false
  | c :: cs => isSign c && (cs.isEmpty || isMagnitude cs)

/-- What stands before the imaginary unit: a number, a sign, nothing, or a number and a signed
factor. -/
def isBeforeUnit (cs : List Char) : Bool :=
  cs.isEmpty || isSignedFactor cs || isReal cs
    || (List.range cs.length).any fun i => isReal (cs.take i) && isSignedFactor (cs.drop i)

def isUnit (c : Char) : Bool := c == 'j' || c == 'J'

/-- A complex number, its imaginary part last and marked by the imaginary unit. -/
def isComplex (cs : List Char) : Bool :=
  isReal cs || (cs.getLast?.any isUnit && isBeforeUnit cs.dropLast)

/-- A digit of a base up to sixteen. -/
def isDigitOf (base : Nat) (c : Char) : Bool :=
  if isDigit c then decide (c.toNat - '0'.toNat < base)
  else decide (base = 16) && decide ('a' ≤ c.toLower) && decide (c.toLower ≤ 'f')

/-- The base that a letter marks. -/
def baseOf? (c : Char) : Option Nat :=
  match c.toLower with
  | 'x' => some 16
  | 'o' => some 8
  | 'b' => some 2
  | _ => none

/-- An integer without a sign after a mark of its base; an underscore may follow the mark. -/
def isBased : List Char → Bool
  | '0' :: mark :: cs =>
    let digits := if cs.head? = some '_' then cs.drop 1 else cs
    match baseOf? mark with
    | some base => !digits.isEmpty && (dropUnderscores digits).any (·.all (isDigitOf base))
    | none => false
  | _ => false

/-- A decimal integer without a sign; only zero itself starts with a zero. -/
def isWhole (cs : List Char) : Bool :=
  isDigitRun cs && (cs.head? != some '0' || cs.all fun c => c == '0' || c == '_')

/-- Is a word a number with or without a sign? -/
def isSpelledNumber (cs : List Char) : Bool :=
  isComplex (trimSpacing cs) || isBased (readSign (trimSpacing cs)).2

end SchemaDraft.Number
