/-!
A walk through SQL text that knows parentheses and quotes. The `Cursor` carries the depth of open
parentheses, whether the place lies in single or in double quotes, and whether the last character
was a backslash, after which a quote does not count. Parentheses in quotes do not count, and a
closing one without a partner leaves the depth at zero. Splitting at separators and finding the
partner of a parenthesis are both read off this walk.
-/

namespace SchemaDraft.Script

/-- What a walk through SQL text remembers. -/
structure Cursor where
  depth : Nat
  inSingle : Bool
  inDouble : Bool
  afterBackslash : Bool
  deriving Repr, DecidableEq, Inhabited

namespace Cursor

def start : Cursor := ⟨0, false, false, false⟩

/-- Does the cursor stand in quotes? -/
def quoted (s : Cursor) : Bool := s.inSingle || s.inDouble

/-- Does it stand outside all parentheses and quotes? -/
def atTop (s : Cursor) : Bool := s.depth == 0 && !s.quoted

/-- A quote opens or closes its kind, unless the other kind is open or a backslash comes before. -/
def toggleQuotes (s : Cursor) (c : Char) : Cursor :=
  if c = '\'' ∧ s.inDouble = false ∧ s.afterBackslash = false then
    { s with inSingle := !s.inSingle }
  else if c = '"' ∧ s.inSingle = false ∧ s.afterBackslash = false then
    { s with inDouble := !s.inDouble }
  else s

/-- A parenthesis outside quotes changes the depth. -/
def countParenthesis (s : Cursor) (c : Char) : Cursor :=
  if s.quoted then s
  else if c = '(' then { s with depth := s.depth + 1 }
  else if c = ')' then { s with depth := s.depth - 1 }
  else s

/-- The cursor after one more character. -/
def step (s : Cursor) (c : Char) : Cursor :=
  { (s.toggleQuotes c).countParenthesis c with afterBackslash := c = '\\' }

def after (s : Cursor) (cs : List Char) : Cursor := cs.foldl step s

end Cursor

/-- The characters of a text, each with the cursor after it. -/
def scanFrom (s : Cursor) : List Char → List (Char × Cursor)
  | [] => []
  | c :: cs => (c, s.step c) :: scanFrom (s.step c) cs

/-- The characters of a text, each with the cursor after it, from a fresh start. -/
def scan (cs : List Char) : List (Char × Cursor) := scanFrom .start cs

/-- How many characters come before the first parenthesis that closes at depth zero. -/
def closingFrom (s : Cursor) : List Char → Option Nat
  | [] => none
  | c :: cs =>
    if c = ')' ∧ (s.step c).atTop = true then some 0
    else (closingFrom (s.step c) cs).map (· + 1)

/-- The index of the parenthesis that closes the one at the start of a text. -/
def closingIndex (cs : List Char) : Option Nat := closingFrom .start cs

/-- The characters from an index on; a negative index counts from the end, and one that is out of
range stands for the nearest end. -/
def dropIndex (cs : List Char) (index : Int) : List Char :=
  if index < 0 then cs.drop (cs.length + index).toNat else cs.drop index.toNat

/-- The index of the parenthesis that closes the one at a given index, counted from there. -/
def closingParenthesis (cs : List Char) (openIndex : Int) : Option Int :=
  (closingIndex (dropIndex cs openIndex)).map fun n => openIndex + (n : Int)

theorem after_append (s : Cursor) (cs ds : List Char) :
    s.after (cs ++ ds) = (s.after cs).after ds := by
  simp [Cursor.after]

end SchemaDraft.Script
