import SchemaDraft.Text.Ranges

/-!
Blank space: the characters that separate words, and the removal of blanks from the ends of a text.
-/

namespace SchemaDraft.Text

/-- Blank characters: the controls that move the cursor or separate records, and the spaces of
every width. -/
def blankRanges : Ranges :=
  [(0x09, 0x0D), (0x1C, 0x20), (0x85, 0x85), (0xA0, 0xA0), (0x1680, 0x1680), (0x2000, 0x200A),
  (0x2028, 0x2029), (0x202F, 0x202F), (0x205F, 0x205F), (0x3000, 0x3000)]

def isBlank (c : Char) : Bool := blankRanges.contains c.toNat

/-- The text without the blanks before it. -/
def trimLeft (cs : List Char) : List Char := cs.dropWhile isBlank

def trimRight (cs : List Char) : List Char := (cs.reverse.dropWhile isBlank).reverse

/-- The text without the blanks around it. -/
def trim (cs : List Char) : List Char := trimRight (trimLeft cs)

/-- Each run of blanks replaced by a single space. -/
def collapseBlanks : List Char → List Char
  | [] => []
  | c :: cs =>
    if isBlank c then
      match collapseBlanks cs with
      | ' ' :: rest => ' ' :: rest
      | rest => ' ' :: rest
    else c :: collapseBlanks cs

@[simp]
theorem trim_nil : trim [] = [] := rfl

end SchemaDraft.Text
