import SchemaDraft.Script.Cursor
import SchemaDraft.Text.Blank
import SchemaDraft.Text.Pieces

/-!
A text cut at separators that stand outside parentheses and quotes, and a script cut into its
statements. Pieces are trimmed, and empty pieces are dropped.
-/

namespace SchemaDraft.Script

/-- The pieces between separators at the top, as they stand; `s` is the cursor before the text. -/
def piecesFrom (isSeparator : Char → Bool) (s : Cursor) : List Char → List (List Char)
  | [] => [[]]
  | c :: cs =>
    if isSeparator c && (s.step c).atTop then [] :: piecesFrom isSeparator (s.step c) cs
    else Text.consHead c (piecesFrom isSeparator (s.step c) cs)

/-- The pieces trimmed, without those that are blank. -/
def tidy (pieces : List (List Char)) : List (List Char) :=
  (pieces.map Text.trim).filter (· ≠ [])

/-- A text cut at the separators at the top. -/
def splitTop (isSeparator : Char → Bool) (cs : List Char) : List (List Char) :=
  tidy (piecesFrom isSeparator .start cs)

def splitCommas (cs : List Char) : List (List Char) := splitTop (· == ',') cs

/-- A text cut at a separator at the top; only a separator of one character occurs anywhere. -/
def splitAtSeparator (separator : String) (cs : List Char) : List (List Char) :=
  splitTop (fun c => separator.toList == [c]) cs

/-- The statements of a script: a semicolon ends a statement wherever it stands. -/
def splitStatements (cs : List Char) : List (List Char) := tidy (Text.piecesAt ';' cs)

/-! ### Comments -/

/-- The text after the next end of a block comment. -/
def afterBlockEnd : List Char → Option (List Char)
  | '*' :: '/' :: rest => some rest
  | _ :: cs => afterBlockEnd cs
  | [] => none

theorem afterBlockEnd_length {cs rest : List Char} (h : afterBlockEnd cs = some rest) :
    rest.length < cs.length := by
  fun_induction afterBlockEnd cs with
  | case1 r => cases h; simp only [List.length_cons]; omega
  | case2 c cs _ ih => exact Nat.lt_succ_of_lt (ih h)
  | case3 => cases h

/-- The text without its block comments; one that is not closed stays. -/
def dropBlockComments : List Char → List Char
  | '/' :: '*' :: cs =>
    match _h : afterBlockEnd cs with
    | some rest => dropBlockComments rest
    | none => '/' :: dropBlockComments ('*' :: cs)
  | c :: cs => c :: dropBlockComments cs
  | [] => []
  termination_by cs => cs.length
  decreasing_by
    · have := afterBlockEnd_length _h; simp only [List.length_cons]; omega
    · simp
    · simp

/-- The text without its line comments, each from two dashes to the end of its line; the flag
tells whether the text starts in one. -/
def dropLineCommentsFrom : Bool → List Char → List Char
  | _, [] => []
  | true, c :: cs =>
    if c = '\n' then c :: dropLineCommentsFrom false cs else dropLineCommentsFrom true cs
  | false, '-' :: '-' :: cs => dropLineCommentsFrom true cs
  | false, c :: cs => c :: dropLineCommentsFrom false cs

/-- The text without its line comments. -/
def dropLineComments (cs : List Char) : List Char := dropLineCommentsFrom false cs

/-- The text without comments: first block comments, then line comments. -/
def dropComments (cs : List Char) : List Char := dropLineComments (dropBlockComments cs)

end SchemaDraft.Script
