import SchemaDraft.Number.Basic
import SchemaDraft.Number.Shortest

/-!
Numbers as text. The digits are the fewest that read back; a `Layout` fixes the rest: where the
point is given up for an exponent, whether a whole number keeps `.0`, and the words for the doubles
that are not finite.
-/

namespace SchemaDraft.Number

/-- How a double is laid out. -/
structure Layout where
  /-- The exponents of the first digit for which the number is written without an exponent. -/
  positional : Int → Bool
  /-- What follows a whole number that has no exponent. -/
  wholeEnding : List Char
  /-- Which way a double goes that lies between two decimals of the same length. -/
  tie : Tie
  notANumber : List Char
  infinity : List Char

/-- Documents: an exponent from 10¹⁶ and below 10⁻⁴, and always a mark of being a double. -/
def Layout.document : Layout where
  positional e := decide (-4 ≤ e) && decide (e < 16)
  wholeEnding := ['.', '0']
  tie := .even
  notANumber := ['N', 'a', 'N']
  infinity := ['I', 'n', 'f', 'i', 'n', 'i', 't', 'y']

/-- A number turned into a word: as in documents, with short words for what is not finite. -/
def Layout.word : Layout :=
  { Layout.document with notANumber := ['n', 'a', 'n'], infinity := ['i', 'n', 'f'] }

/-- Plain digits, never an exponent and no fraction if there is none. -/
def Layout.plain : Layout where
  positional _ := true
  wholeEnding := []
  tie := .up
  notANumber := ['N', 'a', 'N']
  infinity := ['i', 'n', 'f']

/-- The decimal digits of a natural number. -/
def natText (n : Nat) : List Char := Nat.toDigits 10 n

/-- The decimal digits of an integer, after `-` if it is negative. -/
def intText (n : Int) : List Char :=
  if n < 0 then '-' :: natText n.natAbs else natText n.natAbs

/-- A decimal without an exponent. -/
def positionalText (l : Layout) (digits : List Char) (exponent : Int) : List Char :=
  if 0 ≤ exponent then digits ++ List.replicate exponent.toNat '0' ++ l.wholeEnding
  else
    let places := (-exponent).toNat
    if places < digits.length then
      digits.take (digits.length - places) ++ '.' :: digits.drop (digits.length - places)
    else '0' :: '.' :: (List.replicate (places - digits.length) '0' ++ digits)

/-- A decimal with one digit before the point and an exponent of two digits or more. -/
def exponentText (digits : List Char) (leading : Int) : List Char :=
  let size := natText leading.natAbs
  let padded := if size.length < 2 then '0' :: size else size
  let fraction := match digits.drop 1 with
    | [] => []
    | ds => '.' :: ds
  digits.take 1 ++ fraction ++ 'e' :: (if leading < 0 then '-' else '+') :: padded

/-- A decimal, laid out. -/
def decimalText (l : Layout) (d : Decimal) : List Char :=
  let digits := natText d.digits
  let leading := d.exponent + digits.length - 1
  if l.positional leading then positionalText l digits d.exponent else exponentText digits leading

/-- A double, laid out. -/
def realText (l : Layout) (x : Float) : List Char :=
  match Parts.of x with
  | .notANumber => l.notANumber
  | .infinite negative => if negative then '-' :: l.infinity else l.infinity
  | .finite negative mantissa exponent =>
    let text := decimalText l (shortest l.tie mantissa exponent)
    if negative then '-' :: text else text

/-- A number, laid out; integers are their digits. -/
def text (l : Layout) : Number → List Char
  | int n => intText n
  | real x => realText l x

end SchemaDraft.Number
