import SchemaDraft.Json.Write
import SchemaDraft.Model.Basic

/-!
Foreign keys by name, and the notices that reading and writing leave behind. A notice says that
something was left out and why; it never stops the work.
-/

namespace SchemaDraft

/-- A reference from one column to one column, by names. -/
structure ForeignKey where
  fromTable : String
  fromColumn : String
  toTable : String
  toColumn : String
  deriving Repr, DecidableEq, Inhabited

/-- Something that was left out. -/
inductive Notice where
  | compositeKey (fromTable : String) (fromColumns : List String) (toTable : String)
      (toColumns : List String)
  | keyToUnknownTable (key : ForeignKey)
  | keyToUnknownColumn (key : ForeignKey)
  | unbalancedTable (name : String)
  | unreadableDefinition (table : String) (definition : String)
  | ignoredStatement (opening : String)
  | danglingRelation (id : String)
  | unknownTableToConnect
  | unknownColumnToConnect
  | relationsDropped (count : Nat)
  deriving Repr, DecidableEq

/-- The four names of a foreign key as a list in brackets, each in quotes. -/
def ForeignKey.text (k : ForeignKey) : List Char :=
  let names := [k.fromTable, k.fromColumn, k.toTable, k.toColumn]
  '[' :: ([',', ' '].intercalate (names.map fun n => Json.quotedReadable n.toList) ++ [']'])

namespace Notice

/-- Some names, separated by commas. -/
def nameList (names : List String) : String := ", ".intercalate names

/-- The weight of a notice: only relations lost from a document are worth a warning. -/
def level : Notice → String
  | relationsDropped _ => "WARNING"
  | _ => "DEBUG"

/-- The wording of a notice. -/
def message : Notice → String
  | compositeKey fromTable fromColumns toTable toColumns =>
    "Dropping composite foreign key " ++ fromTable ++ "(" ++ nameList fromColumns ++ ") -> "
      ++ toTable ++ "(" ++ nameList toColumns ++ ")"
  | keyToUnknownTable key =>
    "Dropping foreign key to unknown table: " ++ String.ofList key.text
  | keyToUnknownColumn key =>
    "Dropping foreign key to unknown column: " ++ String.ofList key.text
  | unbalancedTable name => "Unbalanced parentheses in CREATE TABLE " ++ name
  | unreadableDefinition table definition =>
    "Skipping definition in " ++ table ++ ": " ++ definition
  | ignoredStatement opening => "Ignoring statement: " ++ opening
  | danglingRelation id => "Skipping relation " ++ id ++ " with unknown endpoints"
  | unknownTableToConnect => "Relation references an unknown table, skipping"
  | unknownColumnToConnect => "Relation references an unknown column, skipping"
  | relationsDropped count =>
    "Dropped " ++ String.ofList (Number.natText count) ++ " relation(s) with unknown endpoints"

/-- A notice as a line of a log. -/
def line (n : Notice) : String := n.level ++ " " ++ n.message

end Notice

/-- The notice of an outcome that gave nothing else. -/
def noticeOf? {α : Type} : Except Notice α → Option Notice
  | .ok _ => none
  | .error notice => some notice

/-- The foreign key from the one column to the one column of two lists; a key of several columns (or
none) is no relation and leaves a notice. -/
def ForeignKey.ofColumns (fromTable : String) (fromColumns : List String) (toTable : String)
    (toColumns : List String) : Except Notice ForeignKey :=
  match fromColumns, toColumns with
  | [fromColumn], [toColumn] => .ok ⟨fromTable, fromColumn, toTable, toColumn⟩
  | _, _ => .error (.compositeKey fromTable fromColumns toTable toColumns)

end SchemaDraft
