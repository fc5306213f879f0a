import SchemaDraft.Json.Basic
import SchemaDraft.Number.Read

/-!
Strict reading of JSON text: no comments, no trailing commas, no leading zeros, no raw control
characters in strings and no escape of half a pair; only the words for doubles that are not finite
are allowed beyond the standard. A number without point and exponent is an integer of any size,
unless a reader limits how long numbers may be. A reader takes the text that is left and gives a
value with the rest.
-/

namespace SchemaDraft.Json

/-- Blanks between the tokens of a JSON text. -/
def isGap (c : Char) : Bool := c == ' ' || c == '\t' || c == '\n' || c == '\r'

def skipGap (cs : List Char) : List Char := cs.dropWhile isGap

/-! ### Strings -/

/-- The value of a hexadecimal digit. -/
def hexValue (c : Char) : Option Nat :=
  if '0' ≤ c ∧ c ≤ '9' then some (c.toNat - '0'.toNat)
  else if 'a' ≤ c ∧ c ≤ 'f' then some (c.toNat - 'a'.toNat + 10)
  else if 'A' ≤ c ∧ c ≤ 'F' then some (c.toNat - 'A'.toNat + 10)
  else none

/-- A unit of sixteen bits from its four hexadecimal digits. -/
def unitValue (a b c d : Char) : Option Nat := do
  return 4096 * (← hexValue a) + 256 * (← hexValue b) + 16 * (← hexValue c) + (← hexValue d)

/-- The character of an escape with one letter. -/
def shortEscape (c : Char) : Option Char :=
  if c = '"' ∨ c = '\\' ∨ c = '/' then some c
  else if c = 'n' then some '\n'
  else if c = 'r' then some '\r'
  else if c = 't' then some '\t'
  else if c = 'b' then some '\x08'
  else if c = 'f' then some '\x0c'
  else none

/-- The rest of a string and what follows its closing quote. A unit between U+D800 and U+DBFF must
be followed by the second half of its pair. -/
def readStringRest : List Char → Option (List Char × List Char)
  | [] => none
  | '"' :: rest => some ([], rest)
  | '\\' :: 'u' :: a :: b :: c :: d :: rest =>
    match unitValue a b c d with
    | none => none
    | some unit =>
      if unit < 0xD800 ∨ 0xE000 ≤ unit then
        (readStringRest rest).map fun (cs, more) => (Char.ofNat unit :: cs, more)
      else if unit < 0xDC00 then
        match rest with
        | '\\' :: 'u' :: e :: f :: g :: h :: rest' =>
          match unitValue e f g h with
          | none => none
          | some second =>
            if 0xDC00 ≤ second ∧ second < 0xE000 then
              (readStringRest rest').map fun (cs, more) =>
                (Char.ofNat (0x10000 + (unit - 0xD800) * 1024 + (second - 0xDC00)) :: cs, more)
            else none
        | _ => none
      else none
  | '\\' :: c :: rest =>
    match shortEscape c with
    | none => none
    | some e => (readStringRest rest).map fun (cs, more) => (e :: cs, more)
  | c :: rest =>
    if c = '\\' ∨ c.toNat < 0x20 then none
    else (readStringRest rest).map fun (cs, more) => (c :: cs, more)

/-! ### Numbers -/

/-- The exponent of a number, zero if it has none, and whether it has one. -/
def readExponentPart (cs : List Char) : Option (Option Int × List Char) :=
  match cs with
  | [] => some (none, cs)
  | c :: rest =>
    if c = 'e' ∨ c = 'E' then
      let (negative, rest) := Number.readSign rest
      let digits := rest.takeWhile Number.isDigit
      if digits = [] then none
      else
        let n : Int := Number.digitsValue digits
        some (some (if negative then -n else n), rest.dropWhile Number.isDigit)
    else some (none, cs)

/-- The fraction digits of a number; `none` inside if it has no point. -/
def readFractionPart (cs : List Char) : Option (Option (List Char) × List Char) :=
  match cs with
  | '.' :: rest =>
    let digits := rest.takeWhile Number.isDigit
    if digits = [] then none else some (some digits, rest.dropWhile Number.isDigit)
  | _ => some (none, cs)

/-- The whole digits of a number: a single zero, or digits that do not start with zero. -/
def readWholePart (cs : List Char) : Option (List Char × List Char) :=
  match cs with
  | [] => none
  | c :: rest =>
    if c = '0' then some (['0'], rest)
    else if Number.isDigit c then some (cs.takeWhile Number.isDigit, cs.dropWhile Number.isDigit)
    else none

def signLength (negative : Bool) : Nat := if negative then 1 else 0

/-- Is this too many characters for the sign and the whole digits of a number together? Without a
limit no number is too long. -/
def isTooLong (limit : Option Nat) (length : Nat) : Bool :=
  limit.any fun most => decide (most < length)

/-- A number after its sign. -/
def readMagnitude (limit : Option Nat) (negative : Bool) (cs : List Char) :
    Option (Number × List Char) := do
  let (whole, rest) ← readWholePart cs
  if isTooLong limit (signLength negative + whole.length) then none
  let (fraction, rest) ← readFractionPart rest
  let (exponent, rest) ← readExponentPart rest
  match fraction, exponent with
  | none, none =>
    let n : Int := Number.digitsValue whole
    some (.int (if negative then -n else n), rest)
  | _, _ =>
    let decimal := Number.assemble whole (fraction.getD []) (exponent.getD 0)
    some (.real (Number.nearestSigned negative decimal), rest)

/-! ### Values -/

/-- The text after a word that must come next. -/
def skipWord : List Char → List Char → Option (List Char)
  | [], cs => some cs
  | w :: ws, c :: cs => if w = c then skipWord ws cs else none
  | _ :: _, [] => none

/-- A value that is a single word, or a number. -/
def readScalar (limit : Option Nat) (cs : List Char) : Option (Json × List Char) :=
  match cs with
  | 'n' :: _ => (skipWord "null".toList cs).map (null, ·)
  | 't' :: _ => (skipWord "true".toList cs).map (bool true, ·)
  | 'f' :: _ => (skipWord "false".toList cs).map (bool false, ·)
  | 'N' :: _ => (skipWord "NaN".toList cs).map (number (.real (0.0 / 0.0)), ·)
  | 'I' :: _ => (skipWord "Infinity".toList cs).map (number (.real (1.0 / 0.0)), ·)
  | '-' :: 'I' :: _ => (skipWord "-Infinity".toList cs).map (number (.real (-(1.0 / 0.0))), ·)
  | '-' :: rest => (readMagnitude limit true rest).map fun (n, more) => (number n, more)
  | _ => (readMagnitude limit false cs).map fun (n, more) => (number n, more)

mutual

/-- A value at the start of a text that does not start with a blank; `fuel` bounds the work. -/
def readValue (limit : Option Nat) (fuel : Nat) (cs : List Char) : Option (Json × List Char) :=
  match fuel with
  | 0 => none
  | fuel + 1 =>
    match cs with
    | '"' :: rest =>
      (readStringRest rest).map fun (s, more) => (string (String.ofList s), more)
    | '[' :: rest =>
      match skipGap rest with
      | ']' :: more => some (array [], more)
      | rest => (readItems limit fuel rest).map fun (items, more) => (array items, more)
    | '\x7b' :: rest =>
      match skipGap rest with
      | '\x7d' :: more => some (object [], more)
      | rest => (readMembers limit fuel rest).map fun (members, more) => (object members, more)
    | _ => readScalar limit cs

/-- The items of an array, at least one, up to and with its closing bracket. -/
def readItems (limit : Option Nat) (fuel : Nat) (cs : List Char) : Option (List Json × List Char) :=
  match fuel with
  | 0 => none
  | fuel + 1 =>
    match readValue limit fuel cs with
    | none => none
    | some (v, rest) =>
      match skipGap rest with
      | ']' :: more => some ([v], more)
      | ',' :: rest => (readItems limit fuel (skipGap rest)).map fun (vs, more) => (v :: vs, more)
      | _ => none

/-- The members of an object, at least one, up to and with its closing brace. -/
def readMembers (limit : Option Nat) (fuel : Nat) (cs : List Char) :
    Option (List (String × Json) × List Char) :=
  match fuel with
  | 0 => none
  | fuel + 1 =>
    match cs with
    | '"' :: rest =>
      match readStringRest rest with
      | none => none
      | some (key, rest) =>
        match skipGap rest with
        | ':' :: rest =>
          match readValue limit fuel (skipGap rest) with
          | none => none
          | some (v, rest) =>
            match skipGap rest with
            | '\x7d' :: more => some ([(String.ofList key, v)], more)
            | ',' :: rest =>
              (readMembers limit fuel (skipGap rest)).map fun (ms, more) =>
                ((String.ofList key, v) :: ms, more)
            | _ => none
        | _ => none
    | _ => none

end

/-- The value that a text holds; `none` if it is not JSON, or one of its numbers is too long. Every
step of the readers takes a character away or is followed by one that does, so twice the length is
work enough. -/
def readWithin (limit : Option Nat) (text : String) : Option Json :=
  let cs := text.toList
  match readValue limit (2 * cs.length + 2) (skipGap cs) with
  | some (v, rest) => if skipGap rest = [] then some v else none
  | none => none

/-- The value that a text holds; `none` if it is not JSON. -/
def read (text : String) : Option Json := readWithin none text

end SchemaDraft.Json
