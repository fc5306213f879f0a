import SchemaDraft.Console.Literal
import SchemaDraft.Console.PictureCode
import SchemaDraft.Console.Style

/-!
Style tags in printed text. A tag is a text in brackets that starts with a small Latin letter or one
of `#`, `/`, `@`; other brackets are plain text. A tag opens a style, or an event if it starts with
`@`, and is not printed; `[/name]` closes the last one of that name and `[/]` the last one at all. A
closing tag must have something to close, and an event that is closed must have a well-formed
action. A backslash before a tag makes it plain text, and two backslashes before one stand for one.
In plain text a name between colons stands for a picture.
-/

namespace SchemaDraft.Console

/-- Plain text or the inside of a tag. -/
inductive Piece where
  | plain (cs : List Char)
  | tag (cs : List Char)
  deriving Repr, DecidableEq

def startsTag (c : Char) : Bool :=
  (decide ('a' ≤ c) && decide (c ≤ 'z')) || c == '#' || c == '/' || c == '@'

/-- The inside of a tag and the text after it, from the text after the opening bracket. -/
def readTag : List Char → Option (List Char × List Char)
  | [] => none
  | c :: cs =>
    let body := cs.takeWhile fun d => d != '[' && d != ']'
    match startsTag c, cs.drop body.length with
    | true, ']' :: rest => some (c :: body, rest)
    | _, _ => none

/-- A tag with the backslashes before it: their number, the inside, the text after. -/
def readEscapedTag (cs : List Char) : Option (Nat × List Char × List Char) :=
  let escapes := cs.takeWhile (· == '\\')
  match cs.drop escapes.length with
  | '[' :: rest => (readTag rest).map fun (tag, after) => (escapes.length, tag, after)
  | _ => none

/-- The plain text gathered so far, last character first, as a piece. -/
def gathered (pending : List Char) : List Piece :=
  if pending.isEmpty then [] else [.plain pending.reverse]

/-- The pieces of a text; `pending` is plain text before it, and `fuel` bounds the steps. -/
def piecesFrom : Nat → List Char → List Char → List Piece
  | 0, pending, _ => gathered pending
  | _, pending, [] => gathered pending
  | fuel + 1, pending, c :: cs =>
    match readEscapedTag (c :: cs) with
    | some (escapes, tag, rest) =>
      gathered pending ++ gathered (List.replicate (escapes / 2) '\\') ++
        (if escapes % 2 = 1 then Piece.plain ('[' :: (tag ++ [']'])) else Piece.tag tag)
          :: piecesFrom fuel [] rest
    | none => piecesFrom fuel (c :: pending) cs

def pieces (cs : List Char) : List Piece := piecesFrom cs.length [] cs

/-- Plain text with every bracket that is written after a backslash as the bracket alone. -/
def unescape : List Char → List Char
  | '\\' :: '[' :: cs => '[' :: unescape cs
  | c :: cs => c :: unescape cs
  | [] => []

/-- Controls that a terminal would act on: bell, backspace, the vertical ones and the return. -/
def isTerminalControl (c : Char) : Bool :=
  ['\x07', '\x08', '\x0b', '\x0c', '\x0d'].contains c

/-- Plain text as it is printed: without escapes, with pictures for their names, without controls.
-/
def printed (cs : List Char) : List Char :=
  (showPictures (unescape cs)).filter (!isTerminalControl ·)

/-! ### Open styles -/

/-- What a tag opens: the name of a style or of an event, with what stands after an equals sign. -/
structure Opening where
  name : List Char
  parameters : List Char
  deriving Repr, DecidableEq

/-- What is wrong with a closing tag: it closes nothing, or what it closes is an event with an
action that is not well formed. -/
inductive MarkupFault where
  | nothingToClose
  | badAction
  deriving Repr, DecidableEq

/-- What a tag opens. -/
def openingOf (tag : List Char) : Opening :=
  ⟨styleName (tag.takeWhile (· != '=')), (tag.dropWhile (· != '=')).drop 1⟩

/-- May what was opened be closed? An event needs an action that is well formed, or none at all. -/
def Opening.isSound (o : Opening) : Bool :=
  o.name.head? != some '@' || o.parameters.isEmpty || isAction o.parameters

/-- What a closing tag of a name closes: the last one of that name, or the last one at all. -/
def openedBy? (opened : List Opening) (name : List Char) : Option Opening :=
  if (Text.trim name).isEmpty then opened.head?
  else opened.find? (·.name = styleName (Text.trim name))

/-- What is open after a closing tag, the last one first. -/
def closeTag (opened : List Opening) (name : List Char) : Except MarkupFault (List Opening) :=
  match openedBy? opened name with
  | none => .error .nothingToClose
  | some o => if o.isSound then .ok (opened.erase o) else .error .badAction

/-- What is open after a tag, the last one first. -/
def applyTag (opened : List Opening) (tag : List Char) : Except MarkupFault (List Opening) :=
  match tag.takeWhile (· != '=') with
  | '/' :: name => closeTag opened name
  | _ => .ok (openingOf tag :: opened)

/-- The text of some pieces after what is open. -/
def renderPieces (opened : List Opening) : List Piece → Except MarkupFault (List Char)
  | [] => .ok []
  | .plain cs :: rest => do return printed cs ++ (← renderPieces opened rest)
  | .tag t :: rest => do renderPieces (← applyTag opened t) rest

/-- The text without its tags. -/
def render (cs : List Char) : Except MarkupFault (List Char) := renderPieces [] (pieces cs)

end SchemaDraft.Console
