import SchemaDraft.Model.ColumnType
import SchemaDraft.Model.ForeignKey
import SchemaDraft.Script.Name

/-!
The definitions in the body of a table. A definition is a key clause, a clause that says nothing
about columns, or a column; they are tried in this order. A column ends its type at the first word
that starts a constraint, and its flags are found wherever their words stand.
-/

namespace SchemaDraft.Script

open Reader

def columnNameStrings (cs : List Char) : List String := (columnNames cs).map String.ofList

/-! ### Key clauses -/

/-- A reference as it is written: the table and the list of its columns. -/
structure Reference where
  table : List Char
  columns : List Char
  deriving Repr, DecidableEq

/-- `REFERENCES table (columns)`. -/
def references : Reader Reference := do
  keyword "REFERENCES"
  let _ ← blanks
  let table ← qualifiedName
  let _ ← gap
  let columns ← parenthesised
  return ⟨table, columns⟩

/-- `CONSTRAINT name`, or nothing. -/
def constraintName : Reader Unit :=
  optional do
    keyword "CONSTRAINT"
    let _ ← blanks
    let _ ← identifier
    let _ ← blanks
    return ()

/-- `PRIMARY KEY (columns)`. -/
def primaryKeyClause : Reader (List Char) := do
  constraintName
  phrase ["PRIMARY", "KEY"]
  let _ ← gap
  parenthesised

/-- `KEY` or `INDEX` with a name or without. -/
def indexWords : Reader Unit := do
  anyKeyword ["KEY", "INDEX"]
  optional do
    let _ ← blanks
    let _ ← identifier
    return ()

/-- `UNIQUE (columns)`, perhaps with `KEY` or `INDEX` and a name. -/
def uniqueClause : Reader (List Char) := do
  constraintName
  keyword "UNIQUE"
  optional do
    let _ ← blanks
    indexWords
  let _ ← gap
  parenthesised

/-- `FOREIGN KEY (columns) REFERENCES table (columns)`. -/
def foreignKeyWords : Reader (List Char × Reference) := do
  phrase ["FOREIGN", "KEY"]
  let _ ← gap
  let columns ← parenthesised
  let _ ← gap
  let reference ← references
  return (columns, reference)

/-- A foreign key clause, perhaps with a name. -/
def foreignKeyClause : Reader (List Char × Reference) := do
  constraintName
  foreignKeyWords

/-! ### Clauses without columns -/

/-- Refuses a text that starts with a digit after blanks. -/
def noDigit : Reader Unit := fun cs =>
  if (cs.dropWhile Text.isBlank).head?.any Text.isDecimalDigit then none else some ((), cs)

/-- `CHECK (`. -/
def checkClause : Reader Unit := do
  constraintName
  keyword "CHECK"
  let _ ← gap
  char '('

/-- `EXCLUDE USING`. -/
def excludeClause : Reader Unit := do
  constraintName
  phrase ["EXCLUDE", "USING"]
  wordEnd

/-- `FULLTEXT KEY` and its like. -/
def specialIndexClause : Reader Unit := do
  anyKeyword ["FULLTEXT", "SPATIAL"]
  let _ ← blanks
  anyKeyword ["KEY", "INDEX"]
  wordEnd

/-- `KEY (` or `INDEX name (`; a number in the parentheses makes it the type of a column. -/
def indexClause : Reader Unit := do
  indexWords
  let _ ← gap
  char '('
  noDigit

/-- A clause that says nothing about columns. -/
def otherClause : Reader Unit :=
  firstOf [checkClause, excludeClause, specialIndexClause, indexClause]

/-! ### Columns -/

/-- The first character of a plain column name. -/
def startsPlainName (c : Char) : Bool :=
  (decide ('a' ≤ c) && decide (c ≤ 'z')) || (decide ('A' ≤ c) && decide (c ≤ 'Z')) || c == '_'

def isPlainNameRest (c : Char) : Bool := Text.isWordChar c || c == '$'

/-- A column name without quotes: a Latin letter or underscore, then word characters and dollars. -/
def plainName : Reader (List Char) := fun cs =>
  match cs with
  | [] => none
  | c :: rest =>
    if startsPlainName c then
      some (c :: rest.takeWhile isPlainNameRest, rest.dropWhile isPlainNameRest)
    else none

/-- A column definition cut into its name and what follows it. -/
def columnParts (definition : List Char) : Option (List Char × List Char) :=
  let parts : Reader (List Char) := do
    let name ← firstOf [anyQuotedName, plainName]
    let _ ← blanks
    return name
  match parts (Text.trim definition) with
  | some (name, c :: rest) => some (name, c :: rest)
  | _ => none

/-- The phrases that end the type of a column. -/
def typeEnds : List (List String) :=
  [["PRIMARY", "KEY"], ["NOT", "NULL"], ["UNIQUE"], ["DEFAULT"], ["REFERENCES"], ["CONSTRAINT"],
    ["CHECK"], ["GENERATED"], ["COLLATE"]]

/-- A whole phrase: no letter, digit or underscore follows it. -/
def wholePhrase (words : List String) : Reader Unit := do
  phrase words
  wordEnd

/-- Blanks and a phrase that ends the type of a column. -/
def typeEnd : Reader Unit := do
  let _ ← blanks
  firstOf (typeEnds.map wholePhrase)

/-- The type of a column: what comes before the first phrase that ends it. -/
def typeText (remainder : List Char) : List Char :=
  match search typeEnd remainder with
  | some found => found.before
  | none => remainder

/-- Do these words stand somewhere in a text? -/
def hasPhrase (words : List String) (cs : List Char) : Bool :=
  (searchWord (wholePhrase words) cs).isSome

/-- A column definition: a name, a type and constraints. -/
def readColumn (definition : List Char) : Option ColumnSpec :=
  (columnParts definition).map fun (name, remainder) =>
    ColumnSpec.make (String.ofList (normalName name)) (ColumnType.ofText (typeText remainder)).name
      (hasPhrase ["PRIMARY", "KEY"] remainder) (hasPhrase ["NOT", "NULL"] remainder)
      (hasPhrase ["UNIQUE"] remainder)

/-! ### All definitions -/

/-- What a definition in the body of a table says. -/
inductive Clause where
  | primaryKey (columns : List String)
  | unique (columns : List String)
  | foreignKey (key : Except Notice ForeignKey)
  | nothing
  | column (spec : ColumnSpec) (key : Option (Except Notice ForeignKey))
  | unreadable (notice : Notice)

/-- The foreign key from some columns of a table along a reference. -/
def Reference.key (r : Reference) (table : String) (columns : List String) :
    Except Notice ForeignKey :=
  ForeignKey.ofColumns table columns (String.ofList (normalTableName r.table))
    (columnNameStrings r.columns)

/-- What a definition of a table with this name says. -/
def Clause.read (table : String) (definition : List Char) : Clause :=
  match primaryKeyClause definition with
  | some (columns, _) => primaryKey (columnNameStrings columns)
  | none =>
  match uniqueClause definition with
  | some (columns, _) => unique (columnNameStrings columns)
  | none =>
  match foreignKeyClause definition with
  | some ((columns, reference), _) => foreignKey (reference.key table (columnNameStrings columns))
  | none =>
  match otherClause definition with
  | some _ => nothing
  | none =>
  match readColumn definition with
  | none => unreadable (.unreadableDefinition table (String.ofList definition))
  | some spec =>
    column spec ((searchWord references definition).map fun found =>
      found.value.key table [spec.name])

namespace Clause

/-- The columns that a clause puts into the primary key. -/
def primaryKeyColumns : Clause → List String
  | primaryKey columns => columns
  | _ => []

def uniqueColumns : Clause → List String
  | unique columns => columns
  | _ => []

def column? : Clause → Option ColumnSpec
  | column spec _ => some spec
  | _ => none

/-- What a clause says about a foreign key. -/
def key? : Clause → Option (Except Notice ForeignKey)
  | foreignKey key => some key
  | column _ key => key
  | _ => none

/-- The notice that a clause leaves. -/
def notice? : Clause → Option Notice
  | unreadable notice => some notice
  | c => c.key?.bind noticeOf?

/-- The foreign key that a clause makes. -/
def foreignKey? (c : Clause) : Option ForeignKey := c.key?.bind Except.toOption

end Clause

end SchemaDraft.Script
