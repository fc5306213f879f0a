import SchemaDraft.Catalogue.Basic
import SchemaDraft.Json.Basic

/-!
The catalogue of a database as a JSON value: an object with a list of tables, and perhaps one of
views. What is absent is empty.
-/

namespace SchemaDraft.Catalogue

/-- The string in a JSON value. -/
def stringOf? : Json → Option String
  | .string s => some s
  | _ => none

/-- The items of a list in a JSON value, each read in the same way. -/
def listOf? {α : Type} (read : Json → Option α) : Json → Option (List α)
  | .array items => items.mapM read
  | _ => none

/-- A list in a member, empty if it is absent. -/
def listIn? {α : Type} (read : Json → Option α) (object : Json) (name : String) :
    Option (List α) :=
  match object.get? name with
  | some v => listOf? read v
  | none => some []

def stringIn? (object : Json) (name : String) : Option String := (object.get? name).bind stringOf?

/-- A flag in a member, down if it is absent. -/
def flagIn (object : Json) (name : String) : Bool :=
  match object.get? name with
  | some (.bool b) => b
  | _ => false

def readColumn (v : Json) : Option ColumnEntry := do
  return ⟨← stringIn? v "name", ← stringIn? v "type", flagIn v "notnull"⟩

/-- A foreign key. -/
def readForeignKey (v : Json) : Option KeyEntry := do
  let referred ← match v.get? "ref" with
    | some ref => (listOf? stringOf? ref).map some
    | none => some none
  return ⟨← listIn? stringOf? v "columns", ← stringIn? v "table", referred⟩

def readIndex (v : Json) : Option IndexEntry := do
  return ⟨← listIn? stringOf? v "columns", flagIn v "unique"⟩

/-- A table. -/
def readTable (v : Json) : Option TableEntry := do
  return ⟨← stringIn? v "name", ← listIn? readColumn v "columns",
    ← listIn? stringOf? v "primary_key", ← listIn? (listOf? stringOf?) v "unique",
    ← listIn? readForeignKey v "foreign_keys", ← listIn? readIndex v "indexes"⟩

def readView (v : Json) : Option ViewEntry := do
  return ⟨← stringIn? v "name", ← stringIn? v "of"⟩

/-- The catalogue in a JSON value. -/
def ofJson? (v : Json) : Option Catalogue := do
  let _ ← v.get? "tables"
  return ⟨← listIn? readTable v "tables", ← listIn? readView v "views"⟩

end SchemaDraft.Catalogue
