import SchemaDraft.Script.Reader
import SchemaDraft.Script.Split
import SchemaDraft.Text.LetterCase

/-!
Names in SQL: bare, or in double quotes, backticks or brackets, and dotted names of which only the
last part counts. Names are compared without quotes and in lower case.
-/

namespace SchemaDraft.Script

/-! ### Normal form -/

/-- The quotes of names, opening and closing. -/
def quotePairs : List (Char × Char) := [('"', '"'), ('\x60', '\x60'), ('[', ']')]

/-- Does a text of at least two characters stand in these quotes? -/
def isQuotedBy (quotes : Char × Char) (cs : List Char) : Bool :=
  decide (2 ≤ cs.length) && cs.head? == some quotes.1 && cs.getLast? == some quotes.2

/-- A name without blanks around it and without one layer of quotes. -/
def unquote (cs : List Char) : List Char :=
  let trimmed := Text.trim cs
  if quotePairs.any fun quotes => isQuotedBy quotes trimmed then (trimmed.drop 1).dropLast
  else trimmed

/-- A name as it is compared: without quotes and in lower case. -/
def normalName (cs : List Char) : List Char := Text.lower (unquote cs)

/-! ### Reading -/

/-- A character of a bare name: no blank, quote, bracket or mark that ends a name. -/
def isBare (c : Char) : Bool :=
  !(Text.isBlank c || ['(', ')', ',', '.', ';', '"', '\x60', '[', ']'].contains c)

/-- A name in quotes, which are kept: not empty, and up to the first closing quote. -/
def quotedName (opening closing : Char) : Reader (List Char) := do
  Reader.char opening
  let inner ← Reader.run1 (· ≠ closing)
  Reader.char closing
  return opening :: (inner ++ [closing])

def anyQuotedName : Reader (List Char) :=
  Reader.firstOf (quotePairs.map fun (opening, closing) => quotedName opening closing)

/-- A name as it is written. -/
def identifier : Reader (List Char) := Reader.firstOf [anyQuotedName, Reader.run1 isBare]

/-- A dot with blanks around it, and the name after it, as they are written. -/
def dottedPart : Reader (List Char) := do
  let before ← Reader.gap
  Reader.char '.'
  let after ← Reader.gap
  let name ← identifier
  return before ++ '.' :: (after ++ name)

/-- As many dotted parts as there are; `fuel` bounds their number. -/
def dottedParts : Nat → Reader (List Char)
  | 0 => pure []
  | fuel + 1 => fun cs =>
    match dottedPart cs with
    | none => some ([], cs)
    | some (part, rest) =>
      match dottedParts fuel rest with
      | none => none
      | some (parts, rest) => some (part ++ parts, rest)

/-- A name with dots, as it is written. -/
def qualifiedName : Reader (List Char) := do
  let first ← identifier
  let parts ← fun cs => dottedParts cs.length cs
  return first ++ parts

/-- All names in a text, from left to right, characters that start none being passed over; `fuel`
bounds the steps. -/
def identifiersIn : Nat → List Char → List (List Char)
  | 0, _ => []
  | _, [] => []
  | fuel + 1, c :: cs =>
    match identifier (c :: cs) with
    | some (name, rest) => name :: identifiersIn fuel rest
    | none => identifiersIn fuel cs

/-- A table name as it is compared: the last of its parts. -/
def normalTableName (cs : List Char) : List Char :=
  normalName ((identifiersIn cs.length cs).getLast?.getD cs)

/-- The names of a list in parentheses, as they are compared. -/
def columnNames (cs : List Char) : List (List Char) := (splitCommas cs).map normalName

/-- The text in parentheses, not empty, up to the first closing one. -/
def parenthesised : Reader (List Char) := do
  Reader.char '('
  let inner ← Reader.run1 (· ≠ ')')
  Reader.char ')'
  return inner

end SchemaDraft.Script
