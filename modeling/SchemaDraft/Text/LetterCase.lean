import SchemaDraft.Text.CaseTables
import SchemaDraft.Text.Cased

/-!
Letter case of whole texts in every script. Names are compared in lower case, types are written in
upper case. Both mappings may change the length of a text, and the small form of a capital sigma
depends on its neighbours: at the end of a word it is the final sigma.
-/

namespace SchemaDraft.Text

/-- The small form of one character, a capital sigma being taken as one inside a word. -/
def lowerChar (c : Char) : List Char :=
  if c = '\u0130' then ['i', '\u0307']
  else match CaseRun.image lowerRuns c.toNat with
    | some n => [Char.ofNat n]
    | none => [c]

/-- The capital form of one character. -/
def upperChar (c : Char) : List Char :=
  match CaseRun.image upperRuns c.toNat with
  | some n => [Char.ofNat n]
  | none =>
    match upperExpansions.lookup c.toNat with
    | some ns => ns.map Char.ofNat
    | none => [c]

/-- Is the first character that is not looked through a cased letter? -/
def startsCased (cs : List Char) : Bool :=
  match cs.dropWhile isCaseIgnorable with
  | c :: _ => isCased c
  | [] => false

/-- Whether a cased letter lies before the next character, given whether one lies before `c`. -/
def casedAfter (before : Bool) (c : Char) : Bool :=
  if isCaseIgnorable c then before else isCased c

/-- A text in lower case, where `before` tells whether a cased letter comes right before it. -/
def lowerFrom (before : Bool) : List Char → List Char
  | [] => []
  | c :: cs =>
    (if c = 'Σ' then [if before && !startsCased cs then 'ς' else 'σ'] else lowerChar c)
      ++ lowerFrom (casedAfter before c) cs

/-- A text in lower case. -/
def lower (cs : List Char) : List Char := lowerFrom false cs

def upper (cs : List Char) : List Char := cs.flatMap upperChar

end SchemaDraft.Text

namespace SchemaDraft

/-- A name in lower case. -/
def lowerName (s : String) : String := String.ofList (Text.lower s.toList)

end SchemaDraft
