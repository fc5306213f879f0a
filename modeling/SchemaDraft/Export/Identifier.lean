import SchemaDraft.Export.Sha256
import SchemaDraft.Json.Write
import SchemaDraft.Text.Utf8

/-!
Identifiers as they are written. They stand in double quotes, inside which a quote is written twice.
One that is too long for the database is cut at a whole character and keeps apart from others by the
start of its digest.
-/

namespace SchemaDraft.Export

/-- A text with every double quote written twice. -/
def doubleQuotes (cs : List Char) : List Char :=
  cs.flatMap fun c => if c = '"' then ['"', '"'] else [c]

def quoteName (cs : List Char) : List Char := '"' :: (doubleQuotes cs ++ ['"'])

/-! ### Length -/

/-- The bytes that an identifier may take. -/
def maxIdentifierBytes : Nat := 63

/-- The digits of the digest that mark a cut identifier. -/
def markLength : Nat := 8

/-- The first digits of the digest of a text, in small letters. -/
def mark (cs : List Char) : List Char :=
  let word := (Sha256.digest (Text.utf8Bytes cs)).a.toNat
  [28, 24, 20, 16, 12, 8, 4, 0].map fun shift => Json.hexDigit (word >>> shift % 16)

/-- An identifier that fits: itself, or a start of it with its mark. -/
def fitName (cs : List Char) : List Char :=
  if Text.utf8Length cs ≤ maxIdentifierBytes then cs
  else Text.fittingStart (maxIdentifierBytes - markLength - 1) cs ++ '_' :: mark cs

end SchemaDraft.Export
