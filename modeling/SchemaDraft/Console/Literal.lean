import SchemaDraft.Number.Spelling
import SchemaDraft.Text.Alphanumeric
import SchemaDraft.Text.Blank

/-!
The action of a tag: a name with arguments in parentheses, as in `app.show('orders', 2)`. The
arguments must be literal values: numbers, strings, the words for truth and for nothing, and tuples,
sets and tables of such values, where what serves as a key must not be a set or a table. A reader
takes the text that is left and gives what it read with the rest; `fuel` bounds how deep values lie
in one another.
-/

namespace SchemaDraft.Console

/-- What kind of value a literal is, as far as it matters for what it may stand in. -/
inductive LiteralKind where
  | real
  | imaginary
  | signed
  | atom
  | collection
  deriving Repr, DecidableEq

/-- May a value be a key? -/
def LiteralKind.isKey (k : LiteralKind) : Bool := k != .collection

/-- Text that is left; the reader of a literal gives the kind of value before it. -/
abbrev LiteralReader := List Char → Option (LiteralKind × List Char)

/-- Blanks between the tokens of a literal. -/
def isLiteralGap (c : Char) : Bool := c == ' ' || c == '\t' || c == '\n' || c == '\x0c'

def skipLiteralGap (cs : List Char) : List Char := cs.dropWhile isLiteralGap

/-! ### Strings -/

/-- Do so many hexadecimal digits stand at the start of a text? -/
def startsWithHex (count : Nat) (cs : List Char) : Bool :=
  decide (count ≤ cs.length) && (cs.take count).all (Number.isDigitOf 16)

/-- Is the escape that a text starts with, after its backslash, well formed? -/
def isGoodEscape (bytes : Bool) : List Char → Bool
  | 'x' :: cs => startsWithHex 2 cs
  | 'u' :: cs => bytes || startsWithHex 4 cs
  | 'U' :: cs =>
    bytes || (startsWithHex 8 cs && (["000", "0010"].any fun start => start.toList.isPrefixOf cs))
  | 'N' :: cs => bytes || (cs.head? == some '\x7b' && cs.contains '\x7d')
  | _ => true

/-- How a string is written: without escapes, as bytes, and the marks at its end. -/
structure StringForm where
  raw : Bool
  bytes : Bool
  closing : List Char

/-- The text after the closing marks of a string; a string in single marks stays on its line. -/
def skipString (form : StringForm) : List Char → Option (List Char)
  | [] => none
  | c :: cs =>
    if form.closing.isPrefixOf (c :: cs) then some (cs.drop (form.closing.length - 1))
    else if c = '\\' then
      match cs with
      | [] => none
      | _ :: rest =>
        if form.raw || isGoodEscape form.bytes cs then skipString form rest else none
    else if c = '\n' && form.closing.length = 1 then none
    else if form.bytes && decide (0x7F < c.toNat) then none
    else skipString form cs

/-- The letters before the opening mark of a string: is it without escapes, and is it bytes? -/
def stringMarks : List (String × Bool × Bool) :=
  [("", false, false), ("u", false, false), ("r", true, false), ("b", false, true),
    ("br", true, true), ("rb", true, true)]

/-- The marks that open and close a string. -/
def quoteMarks : List (List Char) := ["\"\"\"", "'''", "\"", "'"].map String.toList

/-- A single string: is it bytes, and the text after it. -/
def readOneString (cs : List Char) : Option (Bool × List Char) := do
  let letters := cs.takeWhile Char.isAlpha
  let (raw, bytes) ← stringMarks.lookup (String.ofList (Number.asciiLower letters))
  let rest := cs.drop letters.length
  let closing ← quoteMarks.find? (·.isPrefixOf rest)
  let after ← skipString ⟨raw, bytes, closing⟩ (rest.drop closing.length)
  return (bytes, after)

/-- Strings side by side, after a first one that is bytes or not; all must be alike. -/
def readMoreStrings : Nat → Bool → List Char → Option (List Char)
  | 0, _, _ => none
  | fuel + 1, bytes, cs =>
    match readOneString (skipLiteralGap cs) with
    | some (alike, rest) => if alike = bytes then readMoreStrings fuel bytes rest else none
    | none =>
      let next := (skipLiteralGap cs).dropWhile Char.isAlpha
      if next.head? = some '"' ∨ next.head? = some '\'' then none else some cs

/-- Strings side by side. -/
def readStrings : LiteralReader := fun cs => do
  let (bytes, rest) ← readOneString cs
  return (.atom, ← readMoreStrings (cs.length + 1) bytes rest)

/-! ### Numbers and words -/

/-- May this character stand in a number? -/
def isNumberChar (c : Char) : Bool := Number.isDigit c || c == '_' || c == '.' || c.isAlpha

/-- The characters of a number at the start of a text; a sign belongs to it after the mark of an
exponent. -/
def takeNumber (based : Bool) : List Char → List Char
  | [] => []
  | [c] => if isNumberChar c then [c] else []
  | c :: d :: cs =>
    if !isNumberChar c then []
    else if !based && Number.startsExponent c && Number.isSign d then c :: d :: takeNumber based cs
    else c :: takeNumber based (d :: cs)

/-- The kind of a spelled number. -/
def numberKind? (cs : List Char) : Option LiteralKind :=
  if Number.isBased cs || Number.isWhole cs then some .real
  else if Number.isDigitRun cs then none
  else if Number.isDecimal cs then some .real
  else if cs.getLast?.any Number.isUnit && Number.isDecimal cs.dropLast then some .imaginary
  else none

/-- A number. -/
def readNumber : LiteralReader := fun cs =>
  let based := (cs.drop 1).head?.any fun c => (Number.baseOf? c).isSome
  let token := takeNumber based cs
  (numberKind? token).map fun kind => (kind, cs.drop token.length)

/-- The words for values. -/
def valueWords : List String := ["True", "False", "None"]

/-- A word for a value, three dots for an omission, or an empty set. -/
def readWord : LiteralReader := fun cs =>
  match cs with
  | '.' :: '.' :: '.' :: rest => some (.atom, rest)
  | _ =>
    let word := String.ofList (cs.takeWhile Text.isWordChar)
    let rest := cs.dropWhile Text.isWordChar
    if valueWords.contains word then some (.atom, rest)
    else if word = "set" then
      match skipLiteralGap rest with
      | '(' :: inside =>
        match skipLiteralGap inside with
        | ')' :: rest => some (.collection, rest)
        | _ => none
      | _ => none
    else none

/-! ### Collections -/

/-- The kind of a tuple: it is a key if all of its items are. -/
def tupleKind (items : List LiteralKind) : LiteralKind :=
  if items.all LiteralKind.isKey then .atom else .collection

/-- Is this the kind of a number that a sign may stand before? -/
def LiteralKind.isUnsigned (k : LiteralKind) : Bool := k == .real || k == .imaginary

mutual

/-- A value at the start of a text. -/
def readPrimary (fuel : Nat) (cs : List Char) : Option (LiteralKind × List Char) :=
  match fuel with
  | 0 => none
  | fuel + 1 =>
    match cs with
    | '(' :: rest =>
      match skipLiteralGap rest with
      | ')' :: after => some (.atom, after)
      | inside => do
        let (first, after) ← readSum fuel inside
        match skipLiteralGap after with
        | ')' :: after => some (first, after)
        | ',' :: more =>
          let (items, after) ← readTuple fuel (skipLiteralGap more)
          some (tupleKind (first :: items), after)
        | _ => none
    | '\x7b' :: rest =>
      match skipLiteralGap rest with
      | '\x7d' :: after => some (.collection, after)
      | inside => (readEntries fuel none inside).map fun after => (.collection, after)
    | c :: _ =>
      if Number.isDigit c || (c == '.' && (cs.drop 1).head?.any Number.isDigit) then readNumber cs
      else (readStrings cs).orElse fun _ => readWord cs
    | [] => none

/-- A value, a number with a sign, or a real and an imaginary number with a sign between them. -/
def readSum (fuel : Nat) (cs : List Char) : Option (LiteralKind × List Char) :=
  match fuel with
  | 0 => none
  | fuel + 1 => do
    let (kind, rest) ← match cs with
      | [] => none
      | c :: cs' =>
        if Number.isSign c then do
          let (kind, rest) ← readPrimary fuel (skipLiteralGap cs')
          if kind.isUnsigned then some (if kind = .real then LiteralKind.signed else .atom, rest)
          else none
        else readPrimary fuel cs
    match skipLiteralGap rest with
    | c :: more =>
      if Number.isSign c then do
        let (second, after) ← readPrimary fuel (skipLiteralGap more)
        if (kind = .real ∨ kind = .signed) ∧ second = .imaginary then some (.atom, after) else none
      else some (kind, rest)
    | [] => some (kind, rest)

/-- The items of a tuple after its first comma, up to and with the closing parenthesis. -/
def readTuple (fuel : Nat) (cs : List Char) : Option (List LiteralKind × List Char) :=
  match fuel with
  | 0 => none
  | fuel + 1 =>
    match cs with
    | ')' :: after => some ([], after)
    | _ => do
      let (kind, rest) ← readSum fuel cs
      match skipLiteralGap rest with
      | ')' :: after => some ([kind], after)
      | ',' :: more =>
        let (kinds, after) ← readTuple fuel (skipLiteralGap more)
        some (kind :: kinds, after)
      | _ => none

/-- The entries of a set or of a table, up to and with the closing brace: keys alone, or all with
values. Which of the two it is, is known after the first entry. -/
def readEntries (fuel : Nat) (withValues : Option Bool) (cs : List Char) : Option (List Char) :=
  match fuel with
  | 0 => none
  | fuel + 1 => do
    let (key, rest) ← readSum fuel cs
    if !key.isKey then none
    let (hasValue, rest) ← match skipLiteralGap rest with
      | ':' :: more => (readSum fuel (skipLiteralGap more)).map fun (_, after) => (true, after)
      | _ => some (false, rest)
    if withValues.any (· != hasValue) then none
    match skipLiteralGap rest with
    | '\x7d' :: after => some after
    | ',' :: more =>
      match skipLiteralGap more with
      | '\x7d' :: after => some after
      | next => readEntries fuel (some hasValue) next
    | _ => none

end

/-- Is a text a literal value, or several that make a tuple? Every value takes a character away in
at most three steps. -/
def isLiteral (cs : List Char) : Bool :=
  (readPrimary (3 * cs.length + 6) ('(' :: (cs ++ [')']))).any fun (_, rest) => rest.isEmpty

/-! ### Actions -/

/-- May this character stand in the name of an action? -/
def isActionChar (c : Char) : Bool := Text.isWordChar c || c == '.'

/-- Is the action of a tag well formed: a name without arguments, a name with literal arguments, or
literal values alone? -/
def isAction (cs : List Char) : Bool :=
  let action := Text.trim cs
  match action.dropWhile isActionChar with
  | [] => true
  | rest =>
    if rest.head? = some '(' ∧ rest.getLast? = some ')' ∧ ¬ rest.contains '\n' then isLiteral rest
    else isLiteral action

end SchemaDraft.Console
