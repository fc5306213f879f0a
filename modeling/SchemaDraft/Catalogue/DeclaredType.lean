import SchemaDraft.Catalogue.Basic
import SchemaDraft.Model.TypeFamily
import SchemaDraft.Text.Alphanumeric

/-!
The types of declared columns. A type may be quoted like a name. It is known by the words at its
start; a name that the database does not know is put into a family by the letters in it.
-/

namespace SchemaDraft.Catalogue

/-! ### Quotes -/

/-- Does this character open a quoted name? -/
def opensQuote (c : Char) : Bool := c == '"' || c == '\'' || c == '`' || c == '['

/-- The character that closes a quoted name. -/
def closingQuote (opening : Char) : Char := if opening = '[' then ']' else opening

/-- A quoted text up to its closing quote, a quote that is written twice being one. -/
def upToQuote (closing : Char) : List Char → List Char
  | [] => []
  | [c] => if c = closing then [] else [c]
  | c :: d :: cs =>
    if c ≠ closing then c :: upToQuote closing (d :: cs)
    else if d = closing then c :: upToQuote closing cs
    else []

/-- A text without its quotes, if it starts with one; what follows its closing quote is lost. -/
def unquoted : List Char → List Char
  | [] => []
  | c :: cs => if opensQuote c then upToQuote (closingQuote c) cs else c :: cs

/-- A text without its first and its last character, if the first opens a quoted name and nothing
inside does. -/
def stripQuotes (cs : List Char) : List Char :=
  let inside := (cs.drop 1).dropLast
  if 3 ≤ cs.length ∧ cs.head?.any opensQuote = true ∧ inside.any opensQuote = false then inside
  else cs

/-- Blanks between the words of a declaration. -/
def isDeclarationGap (c : Char) : Bool :=
  c == ' ' || c == '\t' || c == '\n' || c == '\x0c' || c == '\x0d'

/-- A declared type without the blanks around it and without its quotes. -/
def plainType (declared : String) : List Char :=
  let cs := declared.toList.dropWhile isDeclarationGap
  unquoted (stripQuotes (cs.reverse.dropWhile isDeclarationGap).reverse)

/-! ### Families -/

/-- The name of a declared type: the words at its start, in upper case. -/
def typeName (declared : String) : List Char :=
  (Text.upper (plainType declared)).takeWhile fun c => Text.isWordChar c || c == ' '

/-- The type names that the database knows. -/
def knownTypes : List (TypeFamily × List String) :=
  [(.integer, ["BIGINT", "INT", "INTEGER", "SMALLINT"]),
   (.named "BLOB", ["BLOB"]),
   (.named "TIME", ["TIME", "TIME_CHAR"]),
   (.boolean, ["BOOL", "BOOLEAN"]),
   (.string, ["CHAR", "VARCHAR", "NVARCHAR", "NCHAR"]),
   (.date, ["DATE", "DATE_CHAR"]),
   (.dateTime, ["DATETIME", "DATETIME_CHAR", "TIMESTAMP"]),
   (.double, ["DOUBLE"]),
   (.numeric, ["DECIMAL", "NUMERIC"]),
   (.float, ["FLOAT", "REAL"]),
   (.json, ["JSON", "JSONB"]),
   (.text, ["TEXT"])]

/-- Does a text hold these letters somewhere? -/
def holds (letters : List Char) : List Char → Bool
  | [] => letters.isEmpty
  | c :: cs => letters.isPrefixOf (c :: cs) || holds letters cs

/-- The family of a type name that the database does not know, by the letters in it. -/
def familyByLetters (name : List Char) : TypeFamily :=
  let any (words : List String) : Bool := words.any fun w => holds w.toList name
  if any ["INT"] then .integer
  else if any ["CHAR", "CLOB", "TEXT"] then .text
  else if name.isEmpty || any ["BLOB"] then .unknown
  else if any ["REAL", "FLOA", "DOUB"] then .float
  else .numeric

/-- The family of a declared type. -/
def typeFamily (declared : String) : TypeFamily :=
  let name := typeName declared
  match knownTypes.find? fun entry => entry.2.contains (String.ofList name) with
  | some entry => entry.1
  | none => familyByLetters name

end SchemaDraft.Catalogue
