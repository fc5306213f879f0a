import SchemaDraft.Json.Basic
import SchemaDraft.Number.Layout

/-!
JSON values as text in printable ASCII. Other characters are escaped by their units of sixteen bits,
in two escapes beyond U+FFFF. A value stands on one line, or each item of a container on a line of
its own, indented by its depth. There is no text with an indentation beyond 64 bits, and none of a
value in which an integer has too many digits.
-/

namespace SchemaDraft.Json

/-- A hexadecimal digit, in small letters. -/
def hexDigit (n : Nat) : Char :=
  if n < 10 then Char.ofNat ('0'.toNat + n) else Char.ofNat ('a'.toNat + (n - 10))

/-- A unit of sixteen bits as an escape. -/
def unitEscape (n : Nat) : List Char :=
  ['\\', 'u', hexDigit (n / 4096 % 16), hexDigit (n / 256 % 16), hexDigit (n / 16 % 16),
    hexDigit (n % 16)]

/-- A character inside quotes. -/
def escapeChar (c : Char) : List Char :=
  if c = '"' then ['\\', '"']
  else if c = '\\' then ['\\', '\\']
  else if c = '\n' then ['\\', 'n']
  else if c = '\r' then ['\\', 'r']
  else if c = '\t' then ['\\', 't']
  else if c = '\x08' then ['\\', 'b']
  else if c = '\x0c' then ['\\', 'f']
  else if 0x20 ≤ c.toNat ∧ c.toNat < 0x7F then [c]
  else if c.toNat < 0x10000 then unitEscape c.toNat
  else
    let n := c.toNat - 0x10000
    unitEscape (0xD800 + n / 1024) ++ unitEscape (0xDC00 + n % 1024)

/-- A text in quotes. -/
def quoted (cs : List Char) : List Char := '"' :: (cs.flatMap escapeChar ++ ['"'])

/-- A text in quotes, with only quotes, backslashes and the controls below the blank escaped. -/
def quotedReadable (cs : List Char) : List Char :=
  '"' :: (cs.flatMap (fun c => if c.toNat < 0x7F then escapeChar c else [c]) ++ ['"'])

/-- What stands between the brackets and the items of a container: how deep a level is indented, or
`none` for a single line. -/
abbrev Indent := Option Nat

/-- The start of a new item at a depth, empty on a single line. -/
def lineStart (indent : Indent) (level : Nat) : List Char :=
  match indent with
  | none => []
  | some width => '\n' :: List.replicate (width * level) ' '

/-- What separates two items at a depth. -/
def itemBreak (indent : Indent) (level : Nat) : List Char :=
  match indent with
  | none => [',', ' ']
  | some _ => ',' :: lineStart indent level

/-- The text of a container: brackets alone if it has no items. -/
def container (opening closing : Char) (indent : Indent) (level : Nat) (items : List (List Char)) :
    List Char :=
  if items.isEmpty then [opening, closing]
  else
    opening :: (lineStart indent (level + 1) ++ (itemBreak indent (level + 1)).intercalate items
      ++ lineStart indent level ++ [closing])

mutual

/-- The text of a value that stands at a depth. -/
def textAt (indent : Indent) (level : Nat) : Json → List Char
  | null => ['n', 'u', 'l', 'l']
  | bool true => ['t', 'r', 'u', 'e']
  | bool false => ['f', 'a', 'l', 's', 'e']
  | number n => n.text .document
  | string s => quoted s.toList
  | array items => container '[' ']' indent level (itemTexts indent (level + 1) items)
  | object members => container '\x7b' '\x7d' indent level (memberTexts indent (level + 1) members)

def itemTexts (indent : Indent) (level : Nat) : List Json → List (List Char)
  | [] => []
  | v :: vs => textAt indent level v :: itemTexts indent level vs

/-- The texts of the members of an object: key, colon, value. -/
def memberTexts (indent : Indent) (level : Nat) : List (String × Json) → List (List Char)
  | [] => []
  | (k, v) :: ms =>
    (quoted k.toList ++ ':' :: ' ' :: textAt indent level v) :: memberTexts indent level ms

end

def write (indent : Indent) (v : Json) : String := String.ofList (textAt indent 0 v)

/-! ### What can not be written -/

/-- Why a value has no text. -/
inductive WriteFault where
  | wideIndent
  | longInteger
  deriving Repr, DecidableEq

/-- The indentation of a level, given as any integer: a negative one is none. -/
def indentOf (width : Option Int) : Indent := width.map Int.toNat

/-- Is this an indentation in signed 64 bits? -/
def fitsIndent (width : Option Int) : Bool :=
  width.all fun n => decide (-(Nat.pow 2 63 : Int) ≤ n ∧ n < Nat.pow 2 63)

/-- How many digits an integer may have, besides its sign. -/
def maxDigits : Nat := 4300

/-- Is this a double, or an integer that is not too long? -/
def isWritable : Number → Bool
  | .int n => decide ((Number.natText n.natAbs).length ≤ maxDigits)
  | .real _ => true

/-- The text of a value, or why it has none. The indentation is looked at first. -/
def dump (width : Option Int) (v : Json) : Except WriteFault String :=
  if fitsIndent width then
    if v.numbers.all isWritable then .ok (write (indentOf width) v) else .error .longInteger
  else .error .wideIndent

end SchemaDraft.Json
