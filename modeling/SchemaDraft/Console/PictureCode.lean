import SchemaDraft.Text.Blank
import SchemaDraft.Text.LetterCase
import SchemaDraft.Text.Pictures

/-!
Pictures written by name. A name between colons, without blanks and in any letter case, stands for
its picture; at its end it may ask for the colored or for the plain form. A name that no picture has
stays as it is, with its colons.
-/

namespace SchemaDraft.Console

open SchemaDraft.Text

/-- Endings of a name, each with the selector of the form it asks for. -/
def pictureForms : List (List Char × Char) :=
  [("-emoji".toList, '\ufe0f'), ("-text".toList, '\ufe0e')]

/-- A name without the ending that asks for a form, and the selector of that form. -/
def splitForm (code : List Char) : List Char × List Char :=
  match pictureForms.find? fun form => form.1.isSuffixOf code with
  | some (ending, selector) => (code.take (code.length - ending.length), [selector])
  | none => (code, [])

/-- The picture that a code between colons stands for. -/
def codePicture? (code : List Char) : Option (List Char) :=
  let (name, selector) := splitForm code
  (picture? (lower name)).map (· ++ selector)

/-- A code with its colons, or the picture in its place. -/
def showCode (code : List Char) : List Char :=
  (codePicture? code).getD (':' :: (code ++ [':']))

/-- The pieces of a text between colons, put together with pictures for codes. The first piece is no
code. -/
def joinCodes : List (List Char) → List Char
  | [] => []
  | [piece] => piece
  | [piece, last] => piece ++ ':' :: last
  | piece :: code :: next :: more =>
    if code.any isBlank then piece ++ ':' :: joinCodes (code :: next :: more)
    else piece ++ (showCode code ++ joinCodes (next :: more))

/-- A text with pictures in place of their names between colons. -/
def showPictures (cs : List Char) : List Char := joinCodes (piecesAt ':' cs)

end SchemaDraft.Console
