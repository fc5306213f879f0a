import SchemaDraft.Model.ColumnType

/-!
Types as a database catalogue reports them. Such a type belongs to a family, which decides the
column type; a type outside of all families is known only by the name it is written with, and that
name is read like a type in a script.
-/

namespace SchemaDraft

/-- The families of catalogue types. -/
inductive TypeFamily where
  | unknown
  | boolean
  | integer
  | uuid
  | binaryJson
  | json
  | text
  | string
  | dateTime
  | date
  | double
  | float
  | numeric
  | named (written : String)
  deriving Repr, DecidableEq

namespace TypeFamily

/-- The column type of a family. -/
def columnType : TypeFamily → ColumnType
  | unknown => ColumnType.fallback
  | boolean => .boolean
  | integer => .integer
  | uuid => .uuid
  | binaryJson => .jsonb
  | json => .json
  | text => .text
  | string => .varchar
  | dateTime => .timestamp
  | date => .date
  | double => .doublePrecision
  | float => .real
  | numeric => .doublePrecision
  | named written => ColumnType.ofText written.toList

/-- Names of types with a family. A name in capitals is the type of that name in SQL, a name after
`PG.` is special to PostgreSQL, and the other names stand for the type that each database offers. -/
def members : List (TypeFamily × List String) :=
  [(boolean, ["BOOLEAN", "Boolean"]),
   (integer, ["BIGINT", "INT", "INTEGER", "SMALLINT", "BigInteger", "Integer", "SmallInteger"]),
   (uuid, ["UUID", "Uuid", "PG.UUID"]),
   (binaryJson, ["PG.JSONB"]),
   (json, ["JSON", "PG.JSON"]),
   (unknown, ["NullType"]),
   (text, ["CLOB", "TEXT", "Text", "UnicodeText", "PG.CITEXT"]),
   (string, ["CHAR", "NCHAR", "NVARCHAR", "VARCHAR", "String", "Unicode", "Enum"]),
   (dateTime, ["DATETIME", "TIMESTAMP", "DateTime", "PG.TIMESTAMP"]),
   (date, ["DATE", "Date"]),
   (double, ["DOUBLE", "DOUBLE_PRECISION", "Double", "PG.DOUBLE_PRECISION"]),
   (float, ["FLOAT", "REAL", "Float", "PG.REAL"]),
   (numeric, ["DECIMAL", "NUMERIC", "Numeric"]),
   (named "TIME", ["Time"]),
   (named "BLOB", ["LargeBinary", "PickleType"]),
   (named "DATETIME", ["Interval"])]

/-- The name that a type without a family is written with: its own, less the mark of a dialect. -/
def writtenName (name : String) : String :=
  match name.toList with
  | 'P' :: 'G' :: '.' :: rest => String.ofList rest
  | _ => name

/-- The family of a type by its name. -/
def ofTypeName (name : String) : TypeFamily :=
  match members.find? fun entry => entry.2.contains name with
  | some entry => entry.1
  | none => named (writtenName name)

end TypeFamily

end SchemaDraft
