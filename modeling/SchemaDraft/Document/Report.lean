import SchemaDraft.Document.Fault
import SchemaDraft.Text.Printable
import SchemaDraft.Text.Utf8

/-!
The report on a document that is not accepted: a headline, then for every fault its place, its
wording, and the value that was found, shortened to its start and its end.
-/

namespace SchemaDraft.Document

/-! ### Values -/

/-- The last so many hexadecimal digits of a number. -/
def hexDigits (count n : Nat) : List Char :=
  (List.range count).reverse.map fun i => Json.hexDigit (n >>> (4 * i) % 16)

/-- A character that can not be shown, by its code point. -/
def codeEscape (c : Char) : List Char :=
  if c.toNat < 0x100 then '\\' :: 'x' :: hexDigits 2 c.toNat
  else if c.toNat < 0x10000 then '\\' :: 'u' :: hexDigits 4 c.toNat
  else '\\' :: 'U' :: hexDigits 8 c.toNat

/-- A character inside quotes of one kind. -/
def shownChar (quote c : Char) : List Char :=
  if c = quote ∨ c = '\\' then ['\\', c]
  else if c = '\n' then ['\\', 'n']
  else if c = '\r' then ['\\', 'r']
  else if c = '\t' then ['\\', 't']
  else if Text.isPrintable c then [c]
  else codeEscape c

/-- A string in single quotes; in double quotes if that saves escapes. -/
def shownString (cs : List Char) : List Char :=
  let quote := if cs.contains '\'' && !cs.contains '"' then '"' else '\''
  quote :: (cs.flatMap (shownChar quote) ++ [quote])

def listed (items : List (List Char)) : List Char := [',', ' '].intercalate items

mutual

/-- A value as a report shows it. -/
def shown : Json → List Char
  | .null => "None".toList
  | .bool b => (if b then "True" else "False").toList
  | .number n => n.text .word
  | .string s => shownString s.toList
  | .array items => '[' :: (listed (shownItems items) ++ [']'])
  | .object members => '\x7b' :: (listed ((shownMembers members).map (·.2)) ++ ['\x7d'])

def shownItems : List Json → List (List Char)
  | [] => []
  | v :: vs => shown v :: shownItems vs

/-- The members of an object by key, each key once, at its first place and with its last value. -/
def shownMembers : List (String × Json) → List (String × List Char)
  | [] => []
  | (k, v) :: rest =>
    let others := shownMembers rest
    match others.lookup k with
    | some later => (k, later) :: others.filter (·.1 ≠ k)
    | none => (k, shownString k.toList ++ ':' :: ' ' :: shown v) :: others

end

/-- The word for the kind of a value. -/
def kindWord : Json → String
  | .null => "NoneType"
  | .bool _ => "bool"
  | .number (.int _) => "int"
  | .number (.real _) => "float"
  | .string _ => "str"
  | .array _ => "list"
  | .object _ => "dict"

/-- How many bytes of a value are shown at most. -/
def maxShownBytes : Nat := 50

/-- A text, or its start and its end if it is long. -/
def abbreviated (cs : List Char) : List Char :=
  if Text.utf8Length cs ≤ maxShownBytes then cs
  else
    Text.fittingStart (maxShownBytes / 2) cs ++ ['.', '.', '.']
      ++ Text.fittingEnd (maxShownBytes / 2 - 1) cs

/-! ### Faults -/

/-- A step as a report shows it. -/
def Step.text : Step → List Char
  | field name => name.toList
  | index i => Number.natText i

/-- The line for the place of a fault; the root has none. -/
def pathLine : List Step → List Char
  | [] => []
  | path => ['.'].intercalate (path.map Step.text) ++ ['\n']

/-- The wording of a cause in a report. -/
def Cause.wording (form : Form) (c : Cause) : String := (c.message form).getD "Invalid JSON"

/-- A fault as a report shows it. -/
def Fault.text (form : Form) (f : Fault) : List Char :=
  '\n' :: (pathLine f.path ++ ' ' :: ' ' :: (f.cause.wording form).toList
    ++ " [type=".toList ++ f.cause.word.toList ++ ", input_value=".toList ++
      abbreviated (shown f.found)
    ++ ", input_type=".toList ++ (kindWord f.found).toList ++ [']'])

/-- What a report says after its headline. -/
def details (form : Form) (faults : List Fault) : List Char := faults.flatMap (Fault.text form)

end SchemaDraft.Document
