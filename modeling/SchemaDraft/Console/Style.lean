import SchemaDraft.Console.Color
import SchemaDraft.Text.Blank
import SchemaDraft.Text.LetterCase

/-!
Styles of printed text: what is switched on or off, a color, a background and a link. A style is
given by words in any order and letter case, and two styles are the same if their names are: the
name lists what a style sets in one fixed order, with one word for each thing.
-/

namespace SchemaDraft.Console

/-- What a style can switch on or off, in the order in which names list it. -/
inductive Attribute where
  | bold
  | dim
  | italic
  | underline
  | blink
  | fastBlink
  | reverse
  | conceal
  | strike
  | doubleUnderline
  | frame
  | encircle
  | overline
  deriving Repr, DecidableEq

namespace Attribute

def all : List Attribute :=
  [bold, dim, italic, underline, blink, fastBlink, reverse, conceal, strike, doubleUnderline, frame,
    encircle, overline]

/-- The word for an attribute. -/
def name : Attribute → String
  | bold => "bold"
  | dim => "dim"
  | italic => "italic"
  | underline => "underline"
  | blink => "blink"
  | fastBlink => "blink2"
  | reverse => "reverse"
  | conceal => "conceal"
  | strike => "strike"
  | doubleUnderline => "underline2"
  | frame => "frame"
  | encircle => "encircle"
  | overline => "overline"

/-- The short word for an attribute, for those that have one. -/
def shortName? : Attribute → Option String
  | bold => some "b"
  | dim => some "d"
  | italic => some "i"
  | underline => some "u"
  | reverse => some "r"
  | conceal => some "c"
  | strike => some "s"
  | doubleUnderline => some "uu"
  | overline => some "o"
  | _ => none

/-- The attribute that a word stands for. -/
def ofWord? (word : List Char) : Option Attribute :=
  let w := String.ofList word
  all.find? fun a => a.name = w || a.shortName? = some w

end Attribute

/-- What a style sets. -/
structure Style where
  attributes : List (Attribute × Bool)
  color : Option (List Char)
  background : Option (List Char)
  link : Option (List Char)
  deriving Repr, DecidableEq

namespace Style

/-- The style that sets nothing. -/
def plain : Style := ⟨[], none, none, none⟩

/-- A style with an attribute switched on or off; the last setting counts. -/
def switch (s : Style) (a : Attribute) (on : Bool) : Style :=
  { s with attributes := (a, on) :: s.attributes }

/-- What a style is with one more word, an attribute or a color; none if the word has no meaning. -/
def withWord (s : Style) (word : List Char) : Option Style :=
  match Attribute.ofWord? (Text.lower word) with
  | some a => some (s.switch a true)
  | none =>
    if isColor (Text.lower word) then some { s with color := some (Text.lower word) } else none

/-- What a style is with some more words; none if one has no meaning. Three words go with the next
one. -/
def withWords (s : Style) : List (List Char) → Option Style
  | [] => some s
  | [word] => s.withWord word
  | word :: next :: more =>
    match String.ofList (Text.lower word) with
    | "on" =>
      if isColor (Text.lower next) then
        withWords { s with background := some (Text.lower next) } more
      else none
    | "not" =>
      match Attribute.ofWord? next with
      | some a => withWords (s.switch a false) more
      | none => none
    | "link" => withWords { s with link := some next } more
    | _ =>
      match s.withWord word with
      | some t => withWords t (next :: more)
      | none => none

/-- The words of a text, separated by blanks. -/
def wordsOf (cs : List Char) : List (List Char) :=
  (Text.piecesAt ' ' (Text.collapseBlanks cs)).filter (· ≠ [])

def ofText? (cs : List Char) : Option Style := plain.withWords (wordsOf cs)

/-- What a style sets, in words. -/
def description (s : Style) : List (List Char) :=
  (Attribute.all.filterMap fun a =>
      (s.attributes.lookup a).map fun on => ((if on then "" else "not ") ++ a.name).toList)
    ++ s.color.toList ++ (s.background.map ("on ".toList ++ ·)).toList
    ++ (s.link.map ("link ".toList ++ ·)).toList

/-- The name of a style. -/
def name (s : Style) : List Char :=
  match s.description with
  | [] => "none".toList
  | parts => [' '].intercalate parts

end Style

/-- The name of what a tag opens: that of a style, else the tag itself, trimmed and in small
letters. -/
def styleName (cs : List Char) : List Char :=
  match Style.ofText? cs with
  | some style => style.name
  | none => Text.lower (Text.trim cs)

end SchemaDraft.Console
