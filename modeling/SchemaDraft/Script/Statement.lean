import SchemaDraft.Model.Drawn
import SchemaDraft.Script.Clause

/-!
The two statements that a script is read for: `CREATE TABLE` gives a table and the foreign keys
declared in it, and `ALTER TABLE … FOREIGN KEY` gives one foreign key. Either may start anywhere in
its statement. Key clauses of a table raise the flags of its columns and never lower them.
-/

namespace SchemaDraft.Script

open Reader

/-! ### Tables -/

/-- `CREATE TABLE name` up to the parenthesis that opens the body, which is left. -/
def createTable : Reader (List Char) := do
  keyword "CREATE"
  let _ ← blanks
  optional do
    anyKeyword ["GLOBAL", "LOCAL"]
    let _ ← blanks
    return ()
  optional do
    anyKeyword ["TEMPORARY", "TEMP", "UNLOGGED"]
    let _ ← blanks
    return ()
  keyword "TABLE"
  let _ ← blanks
  optional do
    phrase ["IF", "NOT", "EXISTS"]
    let _ ← blanks
    return ()
  let name ← qualifiedName
  let _ ← gap
  fun cs => if cs.head? = some '(' then some (name, cs) else none

/-- A column with the flags that the key clauses of its table raise. -/
def raiseFlags (primaryKeys uniques : List String) (c : ColumnSpec) : ColumnSpec :=
  let primaryKey := c.isPrimaryKey || primaryKeys.contains c.name
  { c with
    isPrimaryKey := primaryKey
    isNotNull := c.isNotNull || primaryKey
    isUnique := c.isUnique || primaryKey || uniques.contains c.name }

/-- A table and the foreign keys that it declares. -/
structure TableReading where
  table : TableSpec
  keys : List ForeignKey
  deriving Repr, DecidableEq

/-- The columns that some clauses define, with the flags that they raise. -/
def foldColumns (clauses : List Clause) : List ColumnSpec :=
  (clauses.filterMap Clause.column?).map
    (raiseFlags (clauses.flatMap Clause.primaryKeyColumns) (clauses.flatMap Clause.uniqueColumns))

/-- A table of this name from the clauses of its body. -/
def TableReading.ofClauses (name : String) (clauses : List Clause) : TableReading :=
  ⟨⟨name, foldColumns clauses⟩, clauses.filterMap Clause.foreignKey?⟩

def readBody (name : String) (body : List Char) : List Clause :=
  (splitCommas body).map (Clause.read name)

/-- The table that a statement creates. -/
def readTable (statement : List Char) : Noted (Option TableReading) :=
  match search createTable statement with
  | none => ⟨none, []⟩
  | some found =>
    match closingIndex found.after with
    | none => ⟨none, [.unbalancedTable (String.ofList found.value)]⟩
    | some index =>
      let name := String.ofList (normalTableName found.value)
      let clauses := readBody name ((found.after.take index).drop 1)
      ⟨some (.ofClauses name clauses), clauses.filterMap Clause.notice?⟩

/-! ### Foreign keys -/

/-- `IF EXISTS` and blanks. -/
def ifExists : Reader Unit := do
  phrase ["IF", "EXISTS"]
  let _ ← blanks
  return ()

/-- `ONLY` and blanks. -/
def onlyWord : Reader Unit := do
  keyword "ONLY"
  let _ ← blanks
  return ()

/-- The words that may stand before the name of the altered table, as many as possible first: each
of them may also be the name. -/
def alterOpenings : List (Reader Unit) :=
  [do ifExists; onlyWord, ifExists, onlyWord, pure ()]

/-- `ADD` with the name of a constraint or without, or nothing. -/
def addWords : Reader Unit :=
  optional do
    keyword "ADD"
    let _ ← blanks
    constraintName

/-- The altered table, the referring columns and the reference, after one of the openings. -/
def alterTableAfter (opening : Reader Unit) : Reader (List Char × List Char × Reference) := do
  phrase ["ALTER", "TABLE"]
  let _ ← blanks
  opening
  let table ← qualifiedName
  let _ ← blanks
  addWords
  let (columns, reference) ← foreignKeyWords
  return (table, columns, reference)

/-- `ALTER TABLE table ADD FOREIGN KEY (columns) REFERENCES table (columns)`. -/
def alterTable : Reader (List Char × List Char × Reference) :=
  firstOf (alterOpenings.map alterTableAfter)

/-- The foreign key that a statement adds. -/
def readForeignKey (statement : List Char) : Noted (Option ForeignKey) :=
  match search alterTable statement with
  | none => ⟨none, []⟩
  | some found =>
    let (table, columns, reference) := found.value
    match reference.key (String.ofList (normalTableName table)) (columnNameStrings columns) with
    | .ok key => ⟨some key, []⟩
    | .error notice => ⟨none, [notice]⟩

/-! ### Statements -/

/-- What a statement gives to a drawing. -/
inductive Contribution where
  | table (reading : TableReading)
  | key (key : ForeignKey)
  | nothing

/-- How much of a statement that gives nothing is told. -/
def openingLength : Nat := 80

/-- What a statement gives to a drawing, and the notices it leaves. -/
def readStatement (statement : List Char) : Noted Contribution :=
  let asTable := readTable statement
  match asTable.value with
  | some reading => ⟨.table reading, asTable.notices⟩
  | none =>
    let asKey := readForeignKey statement
    match asKey.value with
    | some key => ⟨.key key, asTable.notices ++ asKey.notices⟩
    | none =>
      ⟨.nothing, asTable.notices ++ asKey.notices ++
        [.ignoredStatement (String.ofList (statement.take openingLength))]⟩

def Contribution.table? : Contribution → Option TableSpec
  | table reading => some reading.table
  | _ => none

/-- The foreign keys that a statement gives. -/
def Contribution.keys : Contribution → List ForeignKey
  | table reading => reading.keys
  | key k => [k]
  | nothing => []

end SchemaDraft.Script
