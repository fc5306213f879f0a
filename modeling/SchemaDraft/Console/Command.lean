import SchemaDraft.Catalogue.Draw
import SchemaDraft.Console.Arguments
import SchemaDraft.Console.Grid
import SchemaDraft.Console.Markup
import SchemaDraft.Document.Load
import SchemaDraft.Document.Report
import SchemaDraft.Document.Save
import SchemaDraft.Export.Statements

/-!
The commands of the program, as actions on what it has printed so far. Drawings go to the output,
messages to the error output. A command ends well, fails after an error message, or breaks off if a
text to be printed has a closing style tag that closes nothing.
-/

namespace SchemaDraft.Console

/-! ### Actions -/

/-- What a file holds: text, or the catalogue of a database. -/
inductive FileContent where
  | text (contents : String)
  | database (catalogue : Catalogue)

/-- The files that the program can see, by location. -/
abbrev Folder := List (String × FileContent)

/-- What the program has printed and noted so far, and the supply of ids. -/
structure Progress where
  output : List Char
  messages : List (List Char)
  notices : List Notice
  ids : IdSupply

/-- Why a command does not end well. -/
inductive Halt where
  | failed
  | badMarkup
  deriving Repr, DecidableEq

/-- A part of a command. -/
abbrev Action (α : Type) := ExceptT Halt (StateM Progress) α

/-- Puts text on the output. -/
def put (cs : List Char) : Action Unit := modify fun p => { p with output := p.output ++ cs }

/-- Notes what was left out. -/
def note (notices : List Notice) : Action Unit :=
  modify fun p => { p with notices := p.notices ++ notices }

/-- Breaks off if a text has a closing tag that closes nothing. -/
def rendered (cs : List Char) : Action (List Char) :=
  match render cs with
  | .ok plain => pure plain
  | .error _ => throw .badMarkup

/-- Prints a message under a mark. -/
def printMessage (style markText : String) (message : List Char) : Action Unit := do
  let line ←
      rendered ('[' :: (style.toList ++ ']' :: (markText.toList ++ "[/] ".toList ++ message)))
  modify fun p => { p with messages := p.messages ++ [line] }

/-- Prints what the program is about to do. -/
def printInfo (message : List Char) : Action Unit := printMessage "bold blue" "i" message

def printSuccess (message : List Char) : Action Unit := printMessage "bold green" "✓" message

/-- Prints an error and fails. -/
def fail {α : Type} (message : List Char) : Action α := do
  printMessage "bold red" "Error:" message
  throw .failed

/-- The supply of ids, which the given function moves on. -/
def withIds {α : Type} (f : IdSupply → α) (after : α → IdSupply) : Action α := do
  let p ← get
  let a := f p.ids
  set { p with ids := after a }
  return a

/-! ### Reading -/

/-- Extensions of scripts, in order. -/
def scriptExtensions : List String := [".ddl", ".sql", ".txt"]

def documentExtensions : List String := [".json"]

def databaseExtensions : List String := [".db", ".sqlite", ".sqlite3"]

/-- The file at a location; it must exist and have one of some extensions. -/
def openFile (folder : Folder) (place : List Char) (extensions : List String) :
    Action FileContent := do
  match folder.lookup (String.ofList place) with
  | none => fail ("File does not exist: ".toList ++ place)
  | some content =>
    if hasExtension extensions place then return content
    else
      fail ("File has invalid extension, expected one of: ".toList
        ++ (", ".intercalate extensions).toList)

/-- The text with one kind of line end. -/
def unifyLineEnds : List Char → List Char
  | '\r' :: '\n' :: cs => '\n' :: unifyLineEnds cs
  | '\r' :: cs => '\n' :: unifyLineEnds cs
  | c :: cs => c :: unifyLineEnds cs
  | [] => []

/-- The text of a file; a database has none. -/
def FileContent.readText : FileContent → String
  | text contents => String.ofList (unifyLineEnds contents.toList)
  | database _ => ""

/-- The catalogue of a file. A file of one byte or none is an empty database, any other text is
none. -/
def FileContent.catalogue? : FileContent → Option Catalogue
  | text contents => if contents.utf8ByteSize ≤ 1 then some .empty else none
  | database catalogue => some catalogue

/-- The catalogue that is opened for a location. What follows a question mark is not part of the
database's own location, and a database that does not exist is empty. -/
def catalogueAt? (folder : Folder) (place : List Char) : Option Catalogue :=
  match folder.lookup (String.ofList (place.takeWhile (· != '?'))) with
  | some content => content.catalogue?
  | none => some .empty

/-- The drawing of a script. -/
def readScript (folder : Folder) (place : List Char) : Action Schema := do
  let content ← openFile folder place scriptExtensions
  printInfo ("SQL script: ".toList ++ place)
  let drawn ← withIds (Script.draw content.readText) (·.ids)
  note drawn.notices
  return drawn.schema

/-- The drawing of a document. -/
def readDocument (folder : Folder) (place : List Char) : Action Schema := do
  let content ← openFile folder place documentExtensions
  printInfo ("Schema document: ".toList ++ place)
  match Document.loadText content.readText (← get).ids with
  | .error faults => fail ((Document.headline faults).toList ++ Document.details .text faults)
  | .ok loaded =>
    modify fun p => { p with ids := loaded.ids }
    note loaded.notices
    return loaded.schema

/-- The drawing of a database. What is said of a file that is none is up to the database, and holds
no tags. -/
def readDatabase (folder : Folder) (place : List Char) : Action Schema := do
  let _ ← openFile folder place databaseExtensions
  printInfo ("Source database: ".toList ++ place)
  let failure := "Failed to read database: ".toList
  match catalogueAt? folder place with
  | none => fail failure
  | some catalogue =>
    match catalogue.draw (← get).ids with
    | .error fault => fail (failure ++ fault.wording.toList)
    | .ok drawn =>
      modify fun p => { p with ids := drawn.ids }
      note drawn.notices
      return drawn.schema

/-- Fails if an import gave no tables. -/
def requireTables (s : Schema) : Action Unit :=
  if s.tables.isEmpty then fail "No CREATE TABLE statements were found".toList else return

/-! ### Printing -/

/-- The name of the table that a relation refers to: the last table with its id. -/
def targetName? (s : Schema) (r : Relation) : Option String :=
  (lastTable? s.tables r.target.tableId).map (·.name)

/-- The tables that a table refers to, with the types of the relations. -/
def referencesOf (s : Schema) (tableId : String) : List String :=
  (s.relations.filter (·.source.tableId = tableId)).map fun r =>
    (targetName? s r).getD "" ++ " (" ++ r.type ++ ")"

/-- The cells of a table: name, number of columns, primary key, references. -/
def summaryCells (s : Schema) (t : Table) : List String :=
  [t.name, String.ofList (Number.natText t.columns.length),
    ", ".intercalate ((t.columns.filter (·.isPrimaryKey)).map (·.name)),
    ", ".intercalate (referencesOf s t.id)]

/-- Prints some cells of a row, with their tags read. -/
def renderCells (cells : List String) : Action (List (List Char)) :=
  cells.mapM fun cell => rendered cell.toList

def summaryHeading : List (List Char) :=
  ["Table", "Columns", "Primary Key", "References"].map String.toList

/-- Puts a summary of a drawing on the output. -/
def putSummary (s : Schema) : Action Unit := do
  if s.tables.isEmpty then put "Schema is empty.\n".toList
  else
    let rows ← s.tables.mapM fun t => renderCells (summaryCells s t)
    put ((gridLines "Schema Summary".toList summaryHeading rows).flatMap (· ++ ['\n']))

/-- Puts a drawing on the output. Nothing stands against the text of what commands make. -/
def putSchema (s : Schema) : Format → Action Unit
  | .json => put (s.writtenText defaultIndent).toList
  | .table => putSummary s

/-- A number in a message. -/
def countText (n : Nat) : List Char := Number.natText n

/-! ### Commands -/

/-- Does what a command asks for. -/
def Command.perform (folder : Folder) : Command → Action Unit
  | parse script format => do
    let s ← readScript folder script
    requireTables s
    putSchema s format
    printSuccess ("Imported ".toList ++ countText s.tables.length ++ " table(s) and ".toList
      ++ countText s.relations.length ++ " relation(s)".toList)
  | merge document script mode format => do
    let current ← readDocument folder document
    let imported ← readScript folder script
    requireTables imported
    printInfo ("Import mode: ".toList ++ mode.name.toList)
    putSchema (current.importFrom imported mode) format
    printSuccess ("Imported ".toList ++ countText imported.tables.length ++ " table(s) (".toList
      ++ mode.name.toList ++ [')'])
  | generate document => do
    let s ← readDocument folder document
    note (Export.exportNotices s)
    match Export.script s with
    | [] => printInfo "Schema is empty, nothing to generate".toList
    | script =>
      put script
      printSuccess "DDL generation completed successfully".toList
  | reflect database format => do
    let s ← readDatabase folder database
    requireTables s
    putSchema s format
    printSuccess "Schema reflection completed successfully".toList
  | summary document => do
    let s ← readDocument folder document
    putSummary s

/-- How a command ended. -/
inductive Ending where
  | usageFault
  | badMarkup
  | finished (exitCode : Nat)
  deriving Repr, DecidableEq

/-- How a command ended, and what it printed and noted. -/
structure Report where
  ending : Ending
  progress : Progress

/-- Runs a command line. -/
def run (arguments : List String) (folder : Folder) (ids : IdSupply) : Report :=
  let start : Progress := ⟨[], [], [], ids⟩
  match readCommand arguments with
  | none => ⟨.usageFault, start⟩
  | some command =>
    match (command.perform folder).run.run start with
    | (.ok _, progress) => ⟨.finished 0, progress⟩
    | (.error .failed, progress) => ⟨.finished 1, progress⟩
    | (.error .badMarkup, progress) => ⟨.badMarkup, progress⟩

/-- The lines of the error output, with blanks for tabs, without blanks at their ends and without
empty lines at its end. -/
def Progress.errorLines (p : Progress) : List (List Char) :=
  let lines := (p.messages.flatMap Text.textLines).map fun line => Text.trimRight (expandTabs line)
  (lines.reverse.dropWhile List.isEmpty).reverse

end SchemaDraft.Console
