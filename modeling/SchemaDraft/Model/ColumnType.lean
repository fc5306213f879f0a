import SchemaDraft.Model.Basic
import SchemaDraft.Text.Blank
import SchemaDraft.Text.LetterCase

/-!
The vocabulary of column types, and the word of it that is closest to a type written in SQL. A type
that is a word of the vocabulary is that word; else the first rule with a matching start decides,
and a type that no rule knows is text. Letter case and the width of blanks do not count.
-/

namespace SchemaDraft

/-- The vocabulary of column types. -/
inductive ColumnType where
  | uuid
  | integer
  | serial
  | text
  | varchar
  | boolean
  | timestamp
  | date
  | json
  | jsonb
  | real
  | doublePrecision
  deriving Repr, DecidableEq

namespace ColumnType

/-- The word for a type. -/
def name : ColumnType → String
  | uuid => "uuid"
  | integer => "integer"
  | serial => "serial"
  | text => "text"
  | varchar => "varchar"
  | boolean => "boolean"
  | timestamp => "timestamp"
  | date => "date"
  | json => "json"
  | jsonb => "jsonb"
  | real => "real"
  | doublePrecision => "double precision"

def all : List ColumnType :=
  [uuid, integer, serial, text, varchar, boolean, timestamp, date, json, jsonb, real,
    doublePrecision]

/-- Starts of type names and the type they stand for; the first rule that matches wins, however long
its start is. -/
def startRules : List (List String × ColumnType) :=
  [(["character varying", "varchar", "char"], varchar),
   (["uuid"], uuid),
   (["serial", "bigserial", "smallserial"], serial),
   (["int", "integer", "bigint", "smallint"], integer),
   (["text"], text),
   (["bool"], boolean),
   (["timestamp"], timestamp),
   (["date"], date),
   (["jsonb"], jsonb),
   (["json"], json),
   (["real", "float4"], real),
   (["double precision", "float8", "decimal", "numeric"], doublePrecision)]

/-- The type of a text that no rule knows. -/
def fallback : ColumnType := text

/-- Does the text start in one of these ways? -/
def startsWithAny (starts : List String) (cs : List Char) : Bool :=
  starts.any fun start => start.toList.isPrefixOf cs

/-- The type whose word is exactly this text. -/
def ofName? (cs : List Char) : Option ColumnType := all.find? fun t => t.name.toList = cs

/-- The spelling that the rules look at: lower case, trimmed, blanks collapsed. -/
def normalSpelling (cs : List Char) : List Char :=
  Text.collapseBlanks (Text.lower (Text.trim cs))

/-- The type closest to one written in SQL. -/
def ofText (cs : List Char) : ColumnType :=
  let spelling := normalSpelling cs
  match ofName? spelling with
  | some t => t
  | none =>
    match startRules.find? fun rule => startsWithAny rule.1 spelling with
    | some rule => rule.2
    | none => fallback

theorem mem_all (t : ColumnType) : t ∈ all := by
  cases t <;> simp [all]

theorem name_mem (t : ColumnType) : t.name ∈ all.map name := List.mem_map_of_mem (mem_all t)

end ColumnType

/-- The word of the vocabulary closest to a type written in SQL. -/
def columnTypeName (text : String) : String := (ColumnType.ofText text.toList).name

/-- A type as it is written in SQL: in upper case. -/
def columnTypeInSql (type : String) : String := String.ofList (Text.upper type.toList)

end SchemaDraft
