import SchemaDraft.Text.Alphanumeric
import SchemaDraft.Text.Blank

/-!
Readers of SQL text. A reader takes what it knows from the start of a text and gives it with the
rest, or refuses. It takes as much as it can and never thinks twice: in the phrases of this library
what follows a name, a run of blanks or a list can not start with a character that it could have
taken as well. Where a phrase has two readings they are listed, and the first that succeeds counts.

Keywords are read in any letter case; `I`, `S` and `K` also in the forms that share their small or
capital letter: the dotted and the dotless I, the long s and the sign for kelvin.
-/

namespace SchemaDraft.Script

/-- Takes something from the start of a text, or refuses. -/
def Reader (α : Type) := List Char → Option (α × List Char)

namespace Reader

instance : Monad Reader where
  pure a := fun cs => some (a, cs)
  bind r f := fun cs =>
    match r cs with
    | none => none
    | some (a, rest) => f a rest

def refuse {α : Type} : Reader α := fun _ => none

/-- The first reading that succeeds. -/
def firstOf {α : Type} : List (Reader α) → Reader α
  | [] => refuse
  | r :: rs => fun cs =>
    match r cs with
    | some found => some found
    | none => firstOf rs cs

/-- Takes what it can: nothing if the reader refuses. -/
def optional (r : Reader Unit) : Reader Unit := fun cs =>
  match r cs with
  | some found => some found
  | none => some ((), cs)

@[simp]
theorem bind_apply {α β : Type} (r : Reader α) (f : α → Reader β) (cs : List Char) :
    (r >>= f) cs = (r cs).bind fun p => f p.1 p.2 := by
  show (match r cs with | none => none | some (a, rest) => f a rest) = _
  cases r cs <;> rfl

/-! ### Single characters and runs -/

/-- One given character. -/
def char (c : Char) : Reader Unit := fun cs =>
  match cs with
  | [] => none
  | d :: rest => if c = d then some ((), rest) else none

/-- A run of characters of a kind, perhaps empty. -/
def run (p : Char → Bool) : Reader (List Char) := fun cs => some (cs.takeWhile p, cs.dropWhile p)

/-- A run of characters of a kind, at least one. -/
def run1 (p : Char → Bool) : Reader (List Char) := fun cs =>
  if cs.takeWhile p = [] then none else some (cs.takeWhile p, cs.dropWhile p)

/-- Blanks, perhaps none. -/
def gap : Reader (List Char) := run Text.isBlank

/-- Blanks, at least one. -/
def blanks : Reader (List Char) := run1 Text.isBlank

/-! ### Keywords -/

/-- The forms in which a capital letter of a keyword may be written. -/
def letterForms (c : Char) : List Char :=
  c :: c.toLower ::
    (if c = 'I' then ['\u0130', '\u0131']
    else if c = 'S' then ['\u017f']
    else if c = 'K' then ['\u212a']
    else [])

/-- The letters of a keyword, given in capitals. -/
def letters : List Char → Reader Unit
  | [] => pure ()
  | k :: ks => fun cs =>
    match cs with
    | [] => none
    | c :: rest => if c ∈ letterForms k then letters ks rest else none

/-- A keyword, given in capitals; more letters may follow it. -/
def keyword (word : String) : Reader Unit := letters word.toList

/-- The end of a word: no letter, digit or underscore follows. -/
def wordEnd : Reader Unit := fun cs => if cs.head?.any Text.isWordChar then none else some ((), cs)

/-- Keywords with blanks between them. -/
def phrase : List String → Reader Unit
  | [] => pure ()
  | [word] => keyword word
  | word :: words => do
    keyword word
    let _ ← blanks
    phrase words

def anyKeyword (words : List String) : Reader Unit := firstOf (words.map keyword)

/-! ### Search -/

/-- What a search finds: the text before, what is read there, and the text after. -/
structure Found (α : Type) where
  before : List Char
  value : α
  after : List Char

/-- The leftmost place where a reader succeeds. The reader is told the character before its place.
-/
def searchFrom {α : Type} (previous : Option Char) (r : Option Char → Reader α) :
    List Char → Option (Found α)
  | [] => (r previous []).map fun (a, rest) => ⟨[], a, rest⟩
  | c :: cs =>
    match r previous (c :: cs) with
    | some (a, rest) => some ⟨[], a, rest⟩
    | none =>
      (searchFrom (some c) r cs).map fun found => { found with before := c :: found.before }

/-- The leftmost place where a reader succeeds. -/
def search {α : Type} (r : Reader α) (cs : List Char) : Option (Found α) :=
  searchFrom none (fun _ => r) cs

/-- The leftmost start of a word where a reader succeeds. -/
def searchWord {α : Type} (r : Reader α) (cs : List Char) : Option (Found α) :=
  searchFrom none (fun previous => if previous.any Text.isWordChar then refuse else r) cs

/-- What a reader reads at all places where it succeeds, from left to right, each after the one
before; `fuel` bounds their number. -/
def searchAllWithin {α : Type} (r : Reader α) : Nat → List Char → List α
  | 0, _ => []
  | fuel + 1, cs =>
    match search r cs with
    | some found => found.value :: searchAllWithin r fuel found.after
    | none => []

/-- What a reader, which takes at least one character, reads at all places where it succeeds. -/
def searchAll {α : Type} (r : Reader α) (cs : List Char) : List α := searchAllWithin r cs.length cs

end Reader

end SchemaDraft.Script
