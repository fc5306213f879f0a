import SchemaDraft.Document.Fault
import SchemaDraft.Model.Basic
import SchemaDraft.Number.Read

/-!
The form of a document: which fields its objects have, what they may hold, and what stands for a
field that is absent. Numbers pass for strings, and the usual words for flags and numbers. Fields
that no object has are ignored.
-/

namespace SchemaDraft.Document

open Checked

/-! ### Single values -/

/-- The layout in which a double passes for a string. -/
def Form.layout : Form → Number.Layout
  | text => .plain
  | value => .word

/-- A string, or a number as its text. -/
def readString (form : Form) : Json → Except Cause String
  | .string s => .ok s
  | .number n => .ok (String.ofList (n.text form.layout))
  | _ => .error .notString

/-- A string that is not empty. -/
def readName (form : Form) (v : Json) : Except Cause String := do
  let s ← readString form v
  if s = "" then .error .emptyString else .ok s

/-- The words for false. -/
def falseWords : List String := ["0", "off", "f", "false", "n", "no"]

def trueWords : List String := ["1", "on", "t", "true", "y", "yes"]

/-- A flag by its word, in any case of Latin letters. -/
def flagOfWord (s : String) : Option Bool :=
  let word := String.ofList (Number.asciiLower s.toList)
  if falseWords.contains word then some false
  else if trueWords.contains word then some true
  else none

/-- A flag that is given as an integer: zero or one. One beyond 64 bits is not even looked at. -/
def flagOfWhole (n : Int) : Except Cause Bool :=
  if n = 0 then .ok false
  else if n = 1 then .ok true
  else if -0x8000000000000000 ≤ n ∧ n < 0x8000000000000000 then .error .unreadableBool
  else .error .notBool

/-- A flag that is given as a double: one that is a whole number counts as that number. The least
integer of 64 bits is left out. -/
def flagOfReal (x : Float) : Except Cause Bool :=
  match Number.whole? x with
  | some n => if n = -0x8000000000000000 then .error .notBool else flagOfWhole n
  | none => .error .notBool

/-- A flag: a boolean, zero or one, or a word for it. -/
def readFlag : Json → Except Cause Bool
  | .bool b => .ok b
  | .number (.int n) => flagOfWhole n
  | .number (.real x) => flagOfReal x
  | .string s =>
    match flagOfWord s with
    | some b => .ok b
    | none => .error .unreadableBool
  | _ => .error .notBool

/-- Is an integer beyond all doubles refused in this form? In text it counts as infinite. -/
def Form.refuses (form : Form) (n : Number) : Bool :=
  match form, n with
  | .value, .int n => Number.isBeyondReals n
  | _, _ => false

/-- A coordinate, always a double: a number, a flag or the text of a double. -/
def readCoordinate (form : Form) : Json → Except Cause Number
  | .number n => if form.refuses n then .error .notNumber else .ok (.real n.toReal)
  | .bool b => .ok (.real (if b then 1.0 else 0.0))
  | .string s =>
    match Number.readLenient s.toList with
    | some x => .ok (.real x)
    | none => .error .unreadableNumber
  | _ => .error .notNumber

/-! ### Fields -/

/-- A field that must be there. -/
def required {α : Type} (object : Json) (name : String) (check : Json → Checked α) : Checked α :=
  match object.get? name with
  | some v => (check v).under (.field name)
  | none => (fault .missing object).under (.field name)

/-- A field with a value to take if it is absent; a null is not absent. -/
def withDefault {α : Type} (object : Json) (name : String) (absent : α)
    (check : Json → Checked α) : Checked α :=
  match object.get? name with
  | some v => (check v).under (.field name)
  | none => valid absent

/-- An id, or none to get a fresh one. -/
def checkId (form : Form) (object : Json) : Checked (Option String) :=
  withDefault object "id" none fun v => some <$> single (readString form) v

/-- A list of objects. -/
def checkList {α : Type} (check : Json → Checked α) : Json → Checked (List α)
  | .array items => eachFrom check 0 items
  | v => fault .notList v

/-- An object of a kind. -/
def checkObject {α : Type} (part : Part) (check : Json → Checked α) (v : Json) : Checked α :=
  match v with
  | .object _ => check v
  | _ => fault (.notObject part) v

/-! ### Objects -/

/-- A column as a document has it. -/
structure ColumnEntry where
  id : Option String
  name : String
  type : String
  isPrimaryKey : Bool
  isNotNull : Bool
  isUnique : Bool
  deriving Repr, DecidableEq

/-- A table as a document has it. -/
structure TableEntry where
  id : Option String
  name : String
  columns : List ColumnEntry
  position : Position
  deriving Repr

/-- A relation as a document has it. -/
structure RelationEntry where
  id : Option String
  source : Endpoint
  target : Endpoint
  type : String
  deriving Repr, DecidableEq

/-- A document that has the right form. -/
structure Entries where
  tables : List TableEntry
  relations : List RelationEntry
  deriving Repr

/-- A place; a coordinate that is absent is the integer zero. -/
def checkPosition (form : Form) : Json → Checked Position :=
  checkObject .position fun v =>
    Position.mk <$> withDefault v "x" 0 (single (readCoordinate form))
      <*> withDefault v "y" 0 (single (readCoordinate form))

/-- A column; its type is text and its flags are down if they are absent. -/
def checkColumn (form : Form) : Json → Checked ColumnEntry :=
  checkObject .column fun v =>
    ColumnEntry.mk <$> checkId form v <*> required v "name" (single (readName form))
      <*> withDefault v "type" "text" (single (readString form))
      <*> withDefault v "isPrimaryKey" false (single readFlag)
      <*> withDefault v "isNotNull" false (single readFlag)
      <*> withDefault v "isUnique" false (single readFlag)

/-- A table, without columns and at the corner of the canvas if they are absent. -/
def checkTable (form : Form) : Json → Checked TableEntry :=
  checkObject .table fun v =>
    TableEntry.mk <$> checkId form v <*> required v "name" (single (readName form))
      <*> withDefault v "columns" [] (checkList (checkColumn form))
      <*> withDefault v "position" ⟨0, 0⟩ (checkPosition form)

/-- A relation; its ends are empty ids if they are absent. -/
def checkRelation (form : Form) : Json → Checked RelationEntry :=
  checkObject .relation fun v =>
    (fun id fromTable fromColumn toTable toColumn type =>
        (⟨id, ⟨fromTable, fromColumn⟩, ⟨toTable, toColumn⟩, type⟩ : RelationEntry))
      <$> checkId form v
      <*> withDefault v "fromTableId" "" (single (readString form))
      <*> withDefault v "fromColumnId" "" (single (readString form))
      <*> withDefault v "toTableId" "" (single (readString form))
      <*> withDefault v "toColumnId" "" (single (readString form))
      <*> withDefault v "type" Cardinality.oneToMany.name (single (readString form))

/-- A whole document. -/
def checkSchema (form : Form) : Json → Checked Entries :=
  checkObject .schema fun v =>
    Entries.mk <$> required v "tables" (checkList (checkTable form))
      <*> withDefault v "relations" [] (checkList (checkRelation form))

end SchemaDraft.Document
