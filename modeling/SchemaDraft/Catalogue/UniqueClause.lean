import SchemaDraft.Catalogue.Basic
import SchemaDraft.Export.Identifier
import SchemaDraft.Script.Reader

/-!
The unique clauses of a table. A database keeps the text of a declaration and, for every unique
clause and for the primary key, the list of columns; only the text tells which lists are unique
clauses. So a clause is known if the names that are read from its text are exactly one of these
lists. A name with a quote or a parenthesis in it is not read as it was meant, and its clause stays
unknown.
-/

namespace SchemaDraft.Catalogue

open Script

/-! ### The text of a declaration -/

def quotedName (name : String) : List Char := Export.quoteName name.toList

def inParentheses (items : List (List Char)) : List Char :=
  '(' :: ([',', ' '].intercalate items ++ [')'])

/-- Some names in parentheses. -/
def nameList (names : List String) : List Char := inParentheses (names.map quotedName)

/-- The declaration of a column. -/
def ColumnEntry.declaration (c : ColumnEntry) : List Char :=
  quotedName c.name ++ (if c.type = "" then [] else ' ' :: c.type.toList)
    ++ (if c.notNull then " NOT NULL".toList else [])

/-- A primary key clause, if there are columns in it. -/
def keyClause (columns : List String) : List (List Char) :=
  if columns.isEmpty then [] else ["PRIMARY KEY ".toList ++ nameList columns]

/-- A foreign key clause. -/
def KeyEntry.declaration (k : KeyEntry) : List Char :=
  "FOREIGN KEY ".toList ++ nameList k.columns ++ " REFERENCES ".toList ++ quotedName k.table
    ++ (match k.referred with
      | some columns => ' ' :: nameList columns
      | none => [])

/-- The declaration of a table. -/
def TableEntry.declaration (t : TableEntry) : List Char :=
  "CREATE TABLE ".toList ++ quotedName t.name ++ ' ' ::
    inParentheses (t.columns.map ColumnEntry.declaration ++ keyClause t.primaryKey
      ++ t.uniques.map (fun columns => "UNIQUE ".toList ++ nameList columns)
      ++ t.foreignKeys.map KeyEntry.declaration)

/-! ### Reading it -/

/-- One character or more on one line, up to the next closing character after the first one. -/
def upTo (closing : Char) : Reader (List Char) := fun cs =>
  match cs with
  | [] => none
  | c :: rest =>
    let more := rest.takeWhile fun d => d != closing && d != '\n'
    match rest.drop more.length with
    | [] => none
    | d :: after => if c ≠ '\n' ∧ d = closing then some (c :: more, after) else none

/-- The text between the parentheses of a unique clause. -/
def uniqueClause : Reader (List Char) := do
  Reader.keyword "UNIQUE"
  let _ ← Reader.run (· == ' ')
  Reader.char '('
  upTo ')'

/-- May this character stand in a name without quotes? -/
def isBareChar (c : Char) : Bool :=
  c.isAlphanum || c == '_' || ['\u0130', '\u0131', '\u017f', '\u212a'].contains c

/-- A name in a list: in double quotes, or without quotes. -/
def listedName : Reader (List Char) :=
  Reader.firstOf [do Reader.char '"'; upTo '"', Reader.run1 isBareChar]

/-- The lists of names that are read as unique clauses in a declaration. -/
def readUniques (declaration : List Char) : List (List String) :=
  (Reader.searchAll uniqueClause declaration).map fun names =>
    (Reader.searchAll listedName names).map String.ofList

/-- The lists of columns that a database keeps for unique clauses and the primary key. -/
def TableEntry.keptLists (t : TableEntry) : List (List String) :=
  t.keyColumns :: t.uniques.map fun columns => columns.map t.ownName

/-- The unique clauses of a table that are known as such. -/
def TableEntry.knownUniques (t : TableEntry) : List (List String) :=
  (readUniques t.declaration).filter t.keptLists.contains

end SchemaDraft.Catalogue
