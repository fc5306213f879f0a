import SchemaDraft.Json.Write

/-!
What can be wrong with a document, and a check that goes on after a fault so that all of them are
told. A fault lies at a path of field names and list indices from the root; the faults of a document
come in the order of its fields.
-/

namespace SchemaDraft.Document

/-- A step down into a document. -/
inductive Step where
  | field (name : String)
  | index (i : Nat)
  deriving Repr, DecidableEq

/-- The kinds of objects in a document. -/
inductive Part where
  | schema
  | table
  | column
  | position
  | relation
  deriving Repr, DecidableEq

/-- The title of a kind of object. -/
def Part.title : Part → String
  | schema => "SchemaDocument"
  | table => "TableDocument"
  | column => "ColumnDocument"
  | position => "PositionDocument"
  | relation => "RelationDocument"

/-- What is wrong at a place. -/
inductive Cause where
  | notJson
  | missing
  | notString
  | emptyString
  | notBool
  | unreadableBool
  | notNumber
  | unreadableNumber
  | notList
  | notObject (part : Part)
  deriving Repr, DecidableEq

/-- Something wrong at a place of a document, with the value that was found there: for a missing
field, the object without it. -/
structure Fault where
  path : List Step
  cause : Cause
  found : Json

/-- The form in which a document comes: as JSON text, or as a value that is already read. The forms
differ in a few words and in the text of a double. -/
inductive Form where
  | text
  | value
  deriving Repr, DecidableEq

/-- The short word for a cause. -/
def Cause.word : Cause → String
  | notJson => "json_invalid"
  | missing => "missing"
  | notString => "string_type"
  | emptyString => "string_too_short"
  | notBool => "bool_type"
  | unreadableBool => "bool_parsing"
  | notNumber => "float_type"
  | unreadableNumber => "float_parsing"
  | notList => "list_type"
  | notObject _ => "model_type"

/-- The wording of a cause; that a text is not JSON needs no more words. -/
def Cause.message (form : Form) : Cause → Option String
  | notJson => none
  | missing => some "Field required"
  | notString => some "Input should be a valid string"
  | emptyString => some "String should have at least 1 character"
  | notBool => some "Input should be a valid boolean"
  | unreadableBool => some "Input should be a valid boolean, unable to interpret input"
  | notNumber => some "Input should be a valid number"
  | unreadableNumber =>
    some "Input should be a valid number, unable to parse string as a number"
  | notList =>
    match form with
    | .text => some "Input should be a valid array"
    | .value => some "Input should be a valid list"
  | notObject part =>
    match form with
    | .text => some "Input should be an object"
    | .value => some ("Input should be a valid dictionary or instance of " ++ part.title)

/-- The headline over some faults. -/
def headline (faults : List Fault) : String :=
  "Invalid schema document: " ++ String.ofList (Number.natText faults.length)
    ++ (if faults.length = 1 then " validation error for " else " validation errors for ")
    ++ Part.schema.title

/-! ### Checks -/

/-- The outcome of a check: a value, or all faults that were found. -/
inductive Checked (α : Type) where
  | valid (value : α)
  | faulty (faults : List Fault)

namespace Checked

/-- A single fault of a value, at the place that is looked at. -/
def fault {α : Type} (cause : Cause) (found : Json) : Checked α := faulty [⟨[], cause, found⟩]

/-- The outcome of a check that finds at most one thing wrong. -/
def single {α : Type} (check : Json → Except Cause α) (v : Json) : Checked α :=
  match check v with
  | .ok a => valid a
  | .error cause => fault cause v

/-- A value if both outcomes have one, else the faults of both. -/
def both {α β : Type} : Checked (α → β) → Checked α → Checked β
  | valid f, valid a => valid (f a)
  | valid _, faulty fs => faulty fs
  | faulty fs, valid _ => faulty fs
  | faulty fs, faulty gs => faulty (fs ++ gs)

instance : Applicative Checked where
  pure := valid
  seq f a := both f (a ())

/-- The outcome for a place one step up. -/
def under {α : Type} (step : Step) : Checked α → Checked α
  | valid a => valid a
  | faulty fs => faulty (fs.map fun f => { f with path := step :: f.path })

/-- The outcomes for the items of a list, numbered from `i` on. -/
def eachFrom {α : Type} (check : Json → Checked α) (i : Nat) : List Json → Checked (List α)
  | [] => valid []
  | v :: vs => List.cons <$> (check v).under (.index i) <*> eachFrom check (i + 1) vs

end Checked

end SchemaDraft.Document
