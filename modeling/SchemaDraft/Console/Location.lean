import SchemaDraft.Text.LetterCase
import SchemaDraft.Text.Pieces

/-!
Locations of files. A location is its parts between slashes, where empty parts and single dots do
not count. Its extension is what follows the last dot of the last part, if something stands on both
sides of that dot.
-/

namespace SchemaDraft.Console

/-- The slashes that a location keeps at its start: one for the root, and two if there are exactly
two. -/
def rootOf : List Char → List Char
  | '/' :: '/' :: '/' :: _ => ['/']
  | '/' :: '/' :: _ => ['/', '/']
  | '/' :: _ => ['/']
  | _ => []

/-- The parts of a location that count. -/
def partsOf (cs : List Char) : List (List Char) :=
  (Text.piecesAt '/' cs).filter fun part => part ≠ [] ∧ part ≠ ['.']

/-- A location as it is printed and looked up; the place itself is a dot. -/
def locationOf (cs : List Char) : List Char :=
  match rootOf cs ++ ['/'].intercalate (partsOf cs) with
  | [] => ['.']
  | location => location

/-- The extension of a location with its dot, empty if it has none. -/
def extensionOf (location : List Char) : List Char :=
  let name := (partsOf location).getLast?.getD []
  let tail := (name.reverse.takeWhile (· ≠ '.')).reverse
  if tail = [] ∨ name.length ≤ tail.length + 1 then [] else '.' :: tail

/-- Is the extension one of these, in any letter case? -/
def hasExtension (extensions : List String) (location : List Char) : Bool :=
  extensions.contains (String.ofList (Text.lower (extensionOf location)))

end SchemaDraft.Console
