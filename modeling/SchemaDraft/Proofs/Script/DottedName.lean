import SchemaDraft.Proofs.Script.WrittenName

/-!
Dotted names of any length. A dotted name is read twice: part by part, by the reader that recognizes
it, and again by a search for all the names in its text. Where names are written with dots between
them, the reader takes the whole text and the search finds just these names, one after the other,
whatever stands in their quotes (`identifiersIn_of_writesDotted`). So a table is known by the last
of them (`normalTableName_of_writesDotted`).
-/

namespace SchemaDraft.Script

open Text

variable {text : List Char} {names : List (List Char)}

/-- Is this text a way to write these names, with dots between them and blanks around the dots? -/
inductive WritesDotted : List Char → List (List Char) → Prop
  | last {text name : List Char} : Writes text name → WritesDotted text [name]
  | dotted {part first before after tail : List Char} {names : List (List Char)} :
    Writes part first →
      AllBlank before → AllBlank after → WritesDotted tail names →
      WritesDotted (part ++ (before ++ '.' :: (after ++ tail))) (first :: names)

/-- As a path, dotted names lead to the last of them. -/
theorem WritesDotted.exists_writesPath (h : WritesDotted text names) :
    ∃ name, names.getLast? = some name ∧ WritesPath text name := by
  induction h with
  | last hname => exact ⟨_, rfl, .last hname⟩
  | @dotted part first before after tail names hpart hbefore hafter _ ih =>
    obtain ⟨name, hlast, hpath⟩ := ih
    refine ⟨name, ?_, .dotted hpart hbefore hafter hpath⟩
    rw [List.getLast?_cons, hlast]
    rfl

/-- The names that are found in a text are those that are written there. -/
theorem identifiersIn_of_writesDotted (h : WritesDotted text names) {fuel : Nat}
    (hfuel : text.length ≤ fuel) : (identifiersIn fuel text).map unquote = names := by
  induction h generalizing fuel with
  | @last text name hname =>
    have hread : identifier (text ++ []) = some (text, []) := identifier_append hname starts_nil
    obtain ⟨left, _, hfound⟩ := identifiersIn_cons hname.ne_nil hread (by simpa using hfuel)
    rw [List.append_nil, identifiersIn_nil] at hfound
    rw [hfound, List.map_singleton, unquote_of_writes hname]
  | @dotted part first before after tail names hpart hbefore hafter _ ih =>
    -- one part costs at least one character of the fuel, which is what the hypothesis is left with
    obtain ⟨left, hleft, hfound⟩ := identifiersIn_dotted hpart hbefore hafter hfuel
    rw [hfound, List.map_cons, unquote_of_writes hpart, ih hleft]

/-- Names with dots between them are read as a whole, found one after the other in what was read,
and known by the last of them, without its quotes and in lower case. -/
theorem normalTableName_of_writesDotted (h : WritesDotted text names) :
    qualifiedName text = some (text, []) ∧ (identifiersIn text.length text).map unquote = names ∧
      ∃ name, names.getLast? = some name ∧ normalTableName text = lower name := by
  obtain ⟨name, hlast, hpath⟩ := h.exists_writesPath
  have hread := qualifiedName_append hpath starts_nil (by decide)
  rw [List.append_nil] at hread
  exact ⟨hread, identifiersIn_of_writesDotted h (Nat.le_refl _), name, hlast,
    normalTableName_of_writesPath hpath⟩

/-- A bare name, and names in all kinds of quotes that hold dots, blanks and the quotes of others.
-/
theorem normalTableName_fourParts :
    let text := "Main$1.\"my . [db\" .\t[`Odd\".x`]\n.  `A\"[B].c `".toList
    let names := ["Main$1".toList, "my . [db".toList, "`Odd\".x`".toList, "A\"[B].c ".toList]
    WritesDotted text names ∧ qualifiedName text = some (text, []) ∧
      (identifiersIn text.length text).map unquote = names ∧
        normalTableName text = "a\"[b].c ".toList := by
  intro text names
  have hbare : Writes "Main$1".toList "Main$1".toList := .bare (by decide) (by decide)
  have hdouble := Writes.quoted (show ('"', '"') ∈ quotePairs by decide)
    (show "my . [db".toList ≠ [] by decide) (by decide)
  have hbrackets := Writes.quoted (show ('[', ']') ∈ quotePairs by decide)
    (show "`Odd\".x`".toList ≠ [] by decide) (by decide)
  have hbackticks := Writes.quoted (show ('\x60', '\x60') ∈ quotePairs by decide)
    (show "A\"[B].c ".toList ≠ [] by decide) (by decide)
  have hspaces : AllBlank [] ∧ AllBlank [' '] ∧ AllBlank ['\t'] ∧ AllBlank ['\n'] ∧
      AllBlank [' ', ' '] := by decide
  obtain ⟨hnone, hspace, htab, hline, hwide⟩ := hspaces
  have hwrites : WritesDotted text names :=
    .dotted hbare hnone hnone
      (.dotted hdouble hspace htab (.dotted hbrackets hline hwide (.last hbackticks)))
  obtain ⟨hread, hfound, name, hlast, hnormal⟩ := normalTableName_of_writesDotted hwrites
  obtain rfl : "A\"[B].c ".toList = name := Option.some.inj hlast
  exact ⟨hwrites, hread, hfound, hnormal.trans (by decide +kernel)⟩

end SchemaDraft.Script
