import SchemaDraft.Proofs.Script.ClauseOrder
import SchemaDraft.Proofs.Script.Grammar
import SchemaDraft.Proofs.Script.Reorder
import SchemaDraft.Proofs.Script.RequotedTable
import SchemaDraft.Proofs.Script.TypeSpelling

/-!
Literals in column definitions. A walk over a literal comes back to where it was, whatever the
literal holds, so its contents neither end a definition nor close the body
(`completes_withLiteral`). The name and the type of the column do not change with them either
(`columnStart_append`, `ofText_typeText_withLiteral`). But the phrases that raise flags and the
references are searched for in the text of a definition as it stands, and semicolons and marks of
comments in the text of a script. A literal that spells none of these that counts can be emptied:
its definition says the same (`read_withLiteral`), and its script is drawn as before
(`draw_join_literal`).
-/

namespace SchemaDraft.Script

open Reader Text

variable {cs ds front contents inner back name remainder rest gap gap' : List Char} {s : Cursor}

/-- A text with a literal in single quotes between two parts. -/
def withLiteral (front contents back : List Char) : List Char :=
  front ++ '\'' :: (contents ++ '\'' :: back)

/-! ### Walks over a literal -/

namespace Cursor

/-- The cursor inside a literal at some depth. -/
def inLiteral (depth : Nat) : Cursor := ⟨depth, true, false, false⟩

/-- Inside a literal no parenthesis and no comma counts, up to the quote that closes it. -/
theorem completes_inLiteral (hcontents : ∀ c ∈ contents, c ≠ '\'' ∧ c ≠ '\\') (depth : Nat)
    (back : List Char) :
    (inLiteral depth).completes (contents ++ '\'' :: back) = (level depth).completes back := by
  have houtside : (inLiteral depth).atTop = false := by simp [inLiteral, atTop, quoted]
  -- on the contents: no character of them ends the literal, so the cursor stays inside
  induction contents with
  | nil =>
    have hclose : (inLiteral depth).step '\'' = level depth := rfl
    rw [List.nil_append, completes, houtside, hclose]
    rfl
  | cons c contents ih =>
    obtain ⟨hquote, hbackslash⟩ := hcontents c (by simp)
    have hstep : (inLiteral depth).step c = inLiteral depth := by
      simp [inLiteral, step, toggleQuotes, countParenthesis, quoted, hquote, hbackslash]
    rw [List.cons_append, completes, houtside, hstep,
      ih fun d hd => hcontents d (List.mem_cons_of_mem _ hd)]
    rfl

/-- The contents of a literal do not count for what is complete. -/
theorem completes_literal (hquoted : s.quoted = false) (hescaped : s.afterBackslash = false)
    (hcontents : ∀ c ∈ contents, c ≠ '\'' ∧ c ≠ '\\') (back : List Char) :
    s.completes ('\'' :: (contents ++ '\'' :: back)) = s.completes back := by
  obtain ⟨depth, rfl⟩ : ∃ depth, s = level depth := ⟨s.depth, eq_level hquoted hescaped⟩
  have hopen : (level depth).step '\'' = inLiteral depth := rfl
  rw [completes, hopen, completes_inLiteral hcontents]
  simp

theorem completes_congr (h : (s.after cs).completes ds = (s.after cs).completes rest) :
    s.completes (cs ++ ds) = s.completes (cs ++ rest) := by
  induction cs generalizing s with
  | nil => exact h
  | cons c cs ih => rw [List.cons_append, List.cons_append, completes, completes, ih h]

end Cursor

/-- A piece with a literal is complete whatever the literal holds. -/
theorem completes_withLiteral (hgap : AllBlank gap)
    (hquoted : (Cursor.start.after front).quoted = false)
    (hescaped : (Cursor.start.after front).afterBackslash = false)
    (hcontents : ∀ c ∈ contents, c ≠ '\'' ∧ c ≠ '\\') :
    Cursor.start.completes (gap ++ (withLiteral front contents back ++ gap')) =
      Cursor.start.completes (gap ++ (withLiteral front [] back ++ gap')) := by
  have hnested : Nested false gap := .of_blank hgap
  have hstart : Cursor.start.after gap = .start := (hnested.walk 0).1
  refine Cursor.completes_congr ?_
  rw [hstart, withLiteral, withLiteral, List.append_assoc, List.append_assoc]
  refine Cursor.completes_congr ?_
  simp only [List.cons_append, List.append_assoc]
  rw [Cursor.completes_literal hquoted hescaped hcontents,
    Cursor.completes_literal hquoted hescaped (by simp)]

/-! ### The name and the type -/

/-- The name of a column that ends before blanks does not depend on what follows. -/
theorem columnName_blank_append {space : List Char} (hspace : IsSpace space)
    (h : columnName cs = some (name, space ++ rest)) (ds : List Char) :
    columnName (cs ++ ds) = some (name, space ++ (rest ++ ds)) := by
  obtain ⟨r, hr, hread⟩ := exists_of_firstOf h
  rcases List.mem_cons.mp hr with rfl | hr
  · obtain ⟨r, hr, hquoted⟩ := exists_of_firstOf hread
    obtain ⟨⟨opening, closing⟩, hquotes, rfl⟩ := List.mem_map.mp hr
    obtain ⟨inner, rfl, rfl, hne, hnot⟩ := quotedName_eq_some hquoted
    rw [List.append_assoc, List.append_assoc]
    exact firstOf_of_some (anyQuotedName_append hquotes hne hnot)
  · obtain rfl := List.mem_singleton.mp hr
    cases cs with
    | nil => exact absurd hread (by simp [plainName])
    | cons c cs =>
      rw [plainName] at hread
      split at hread
      · rename_i hstarts
        obtain ⟨rfl, hrest⟩ := Prod.mk.inj (Option.some.inj hread)
        have hsplit :
            c :: cs ++ ds = c :: cs.takeWhile isPlainNameRest ++ (space ++ (rest ++ ds)) := by
          rw [← List.append_assoc space, ← hrest, List.cons_append, List.cons_append,
            ← List.append_assoc, List.takeWhile_append_dropWhile]
        rw [hsplit]
        exact columnName_plain hstarts (fun _ hd => List.mem_takeWhile_imp hd) hspace _
      · exact absurd hread (by simp)

/-- The name at the start of a definition, and that something follows it, do not depend on how it
goes on. -/
theorem columnStart_append {c : Char} (h : columnStart cs = some (name, c :: rest))
    (ds : List Char) : columnStart (cs ++ ds) = some (name, c :: (rest ++ ds)) := by
  obtain ⟨text, left, hname, h⟩ := bind_eq_some h
  obtain ⟨space, left', hblanks, h⟩ := bind_eq_some h
  obtain ⟨rfl, rfl⟩ := Prod.mk.inj (Option.some.inj h)
  obtain ⟨rfl, hspace, hink⟩ := blanks_eq_some hblanks
  have hname' := columnName_blank_append hspace hname ds
  have hink' : Starts isInk (c :: (rest ++ ds)) := starts_cons.mpr (starts_cons.mp hink)
  rw [columnStart, bind_of_eq hname']
  exact (bind_of_eq (blanks_append hspace hink') _).trans rfl

/-- Does a column definition have a literal with these contents after its name and something more?
-/
structure HasLiteral (front contents back name remainder : List Char) : Prop where
  start : columnStart front = some (name, remainder)
  ne_nil : remainder ≠ []
  ends : Ends isInk back
  quoted : (Cursor.start.after front).quoted = false
  escaped : (Cursor.start.after front).afterBackslash = false
  contents : ∀ c ∈ contents, c ≠ '\'' ∧ c ≠ '\\'

theorem HasLiteral.isTrimmed (h : HasLiteral front contents back name remainder) :
    IsTrimmed (withLiteral front contents back) := by
  obtain ⟨text, left, hname, _⟩ := bind_eq_some h.start
  obtain ⟨rfl, spelled, hwrites⟩ := writes_of_columnName hname
  constructor
  · -- the first character is that of the column name
    intro c hc
    refine hwrites.isTrimmed.1 c ?_
    rwa [withLiteral, List.append_assoc, List.head?_append_of_ne_nil _ hwrites.ne_nil] at hc
  · intro c hc
    -- the last one is the closing quote, or what ends the text behind it
    have hquote : Ends isInk ('\'' :: back) := by
      cases back with
      | nil => decide
      | cons d back =>
        have hback : Ends isInk (['\''] ++ d :: back) := ends_append_of_ne_nil (by simp) h.ends
        exact hback
    have hends : Ends isInk (text ++ left ++ ('\'' :: contents ++ '\'' :: back)) :=
      ends_append_of_ne_nil (by simp) (ends_append_of_ne_nil (by simp) hquote)
    simpa [isInk] using hends c hc

/-- A definition with a literal is cut after its name as it is without the literal. -/
theorem HasLiteral.columnParts_eq (h : HasLiteral front contents back name remainder) :
    columnParts (withLiteral front contents back) =
      some (name, withLiteral remainder contents back) := by
  obtain ⟨c, rest, hcons⟩ := List.exists_cons_of_ne_nil h.ne_nil
  have hstart := h.start
  rw [hcons] at hstart
  rw [Script.columnParts_eq, trim_eq_self h.isTrimmed, withLiteral,
    columnStart_append hstart, hcons]
  rfl

/-! ### Flags and types -/

/-- A phrase stands in a text with a literal if it stands before it, in it or after it. -/
theorem hasPhrase_withLiteral {words : List String} (hwords : ∀ word ∈ words, word ∈ keywords)
    (front contents back : List Char) : hasPhrase words (withLiteral front contents back) =
      (hasPhrase words front || (hasPhrase words contents || hasPhrase words back)) := by
  have hmark : isInk '\'' = true ∧ isMark '\'' = true := by decide
  rw [withLiteral, hasPhrase_mark hwords hmark.1 hmark.2, hasPhrase_mark hwords hmark.1 hmark.2]

/-- The type of a column does not change with a literal after its name. -/
theorem ofText_typeText_withLiteral (front contents back : List Char) :
    ColumnType.ofText (typeText (withLiteral front contents back)) =
      ColumnType.ofText (typeText (withLiteral front [] back)) := by
  rcases typeText_mark (c := '\'') (by decide) (by decide) front with ⟨type, htype⟩ | hmark
  · rw [withLiteral, withLiteral, htype, htype]
  · obtain ⟨after, hafter⟩ := hmark (contents ++ '\'' :: back)
    obtain ⟨after', hafter'⟩ := hmark ([] ++ '\'' :: back)
    rw [withLiteral, withLiteral, hafter, hafter', ColumnType.ofText_append_mark (by decide),
      ColumnType.ofText_append_mark (by decide)]

/-- The phrases that raise flags of a column. -/
def flagPhrases : List (List String) := [["PRIMARY", "KEY"], ["NOT", "NULL"], ["UNIQUE"]]

/-! ### References -/

/-- The reference that is found in a definition. -/
def referenceIn (cs : List Char) : Option Reference := (searchWord references cs).map Found.value

/-- Does every reference that starts in a text end there, however the text goes on? -/
def HoldsReferences (front rest : List Char) : Prop :=
  ∀ start ∈ front.tails, (references (start ++ rest)).map Prod.fst = (references start).map Prod.fst

instance (front rest : List Char) : Decidable (HoldsReferences front rest) :=
  inferInstanceAs (Decidable (∀ start ∈ front.tails,
    (references (start ++ rest)).map Prod.fst = (references start).map Prod.fst))

/-- What is searched for in two parts of a text is found in the first of them that has it, if no
reading of the first goes on in the second. -/
theorem value_searchFrom_append {α : Type} {r : Option Char → Reader α} {previous : Option Char}
    (hnil : ∀ p, r p [] = none) {cs ds : List Char}
    (hheld : ∀ p, ∀ start ∈ cs.tails, (r p (start ++ ds)).map Prod.fst = (r p start).map Prod.fst) :
    (searchFrom previous r (cs ++ ds)).map Found.value =
      ((searchFrom previous r cs).map Found.value).or
        ((searchFrom (cs.getLast?.or previous) r ds).map Found.value) := by
  induction cs generalizing previous with
  | nil => simp [searchFrom, hnil]
  | cons c cs ih =>
    have hfirst := hheld previous (c :: cs) (by simp)
    have hrest := @ih (some c) fun p start hstart => hheld p start (by simp [hstart])
    rw [List.cons_append, searchFrom, searchFrom, getLast?_cons_or]
    rw [List.cons_append] at hfirst
    cases hread : r previous (c :: cs) with
    | some read =>
      rw [hread] at hfirst
      obtain ⟨read', hread', hvalue⟩ := Option.map_eq_some_iff.mp hfirst
      rw [hread']
      exact congrArg some hvalue
    | none =>
      rw [hread] at hfirst
      rw [Option.map_eq_none_iff.mp hfirst]
      simpa [Option.map_map, Function.comp_def] using hrest

theorem references_quote (cs : List Char) : references ('\'' :: cs) = none :=
  bind_of_none (keyword_eq_none (by decide) (starts_cons.mpr (by decide))) _

/-- No reference starts at a quote, and the search goes on behind it. -/
theorem value_searchFrom_quote (previous : Option Char) (cs : List Char) :
    (searchFrom previous (fun p => if p.any isWordChar then refuse else references)
      ('\'' :: cs)).map Found.value = referenceIn cs := by
  have hread : (if previous.any isWordChar then refuse else references) ('\'' :: cs) = none := by
    split
    · rfl
    · exact references_quote cs
  rw [searchFrom, hread, searchFrom_word (by decide), Option.map_map]
  rfl

theorem referenceIn_quote (h : HoldsReferences front ('\'' :: cs)) :
    referenceIn (front ++ '\'' :: cs) = (referenceIn front).or (referenceIn cs) := by
  have hnil : ∀ p : Option Char, (if p.any isWordChar then refuse else references) [] = none := by
    intro p
    split <;> rfl
  rw [referenceIn, searchWord, value_searchFrom_append hnil, value_searchFrom_quote]
  · rfl
  · intro p start hstart
    split
    · rfl
    · exact h start hstart

theorem referenceIn_skip (h : ∀ start ∈ contents.tails, references (start ++ '\'' :: back) = none) :
    referenceIn (contents ++ '\'' :: back) = referenceIn back := by
  rw [referenceIn, searchWord, searchFrom_skip, Option.map_map]
  · exact value_searchFrom_quote _ back
  · intro start c more hsplit
    split
    · rfl
    · exact h (c :: more) ((List.mem_tails _ _).mpr (hsplit ▸ List.suffix_append start _))

/-! ### Literals that say nothing -/

/-- Does a literal say nothing that its definition does not say without it? It spells no flag that
is not raised anyway, and no reference unless one is found before it; no reference that starts
before it reaches into it; and the definition is a column with the literal and with it emptied. -/
structure IsInert (front contents back remainder : List Char) : Prop where
  flags : ∀ words ∈ flagPhrases, hasPhrase words contents = true →
    hasPhrase words remainder = true ∨ hasPhrase words back = true
  keys : (referenceIn front).isSome ∨
    ∀ start ∈ contents.tails, references (start ++ '\'' :: back) = none
  held : ∀ inner ∈ [contents, []], HoldsReferences front ('\'' :: (inner ++ '\'' :: back))
  column : ∀ inner ∈ [contents, []], definesColumn (withLiteral front inner back) = true

theorem HasLiteral.emptied (h : HasLiteral front contents back name remainder) :
    HasLiteral front [] back name remainder :=
  { h with contents := by simp }

/-- An inert literal finds the references that are found without it. -/
theorem IsInert.referenceIn_eq (h : IsInert front contents back remainder) :
    referenceIn (withLiteral front contents back) = referenceIn (withLiteral front [] back) := by
  rw [withLiteral, withLiteral, referenceIn_quote (h.held contents (by simp)),
    referenceIn_quote (h.held [] (by simp))]
  rcases h.keys with hfirst | hnone
  · -- a reference in front of the literal is found first
    obtain ⟨reference, hfound⟩ := Option.isSome_iff_exists.mp hfirst
    rw [hfound]
    rfl
  · -- no reference begins inside, so both searches go on behind the literal
    have hempty : ∀ start ∈ ([] : List Char).tails, references (start ++ '\'' :: back) = none := by
      intro start hstart
      obtain rfl : start = [] := by simpa using hstart
      exact references_quote back
    rw [referenceIn_skip hnone, referenceIn_skip hempty]

/-- An inert literal raises the flags that are raised without it. -/
theorem IsInert.hasPhrase_eq (h : IsInert front contents back remainder) {words : List String}
    (hwords : words ∈ flagPhrases) : hasPhrase words (withLiteral remainder contents back) =
      hasPhrase words (withLiteral remainder [] back) := by
  have hkeywords : ∀ words ∈ flagPhrases, (∀ word ∈ words, word ∈ keywords) ∧
      hasPhrase words [] = false := by
    decide
  obtain ⟨hkeyword, hnil⟩ := hkeywords words hwords
  have hinert := h.flags words hwords
  rw [hasPhrase_withLiteral hkeyword, hasPhrase_withLiteral hkeyword, hnil]
  cases hcontents : hasPhrase words contents with
  | false => rfl
  | true => rcases hinert hcontents with hfront | hback <;> simp [*]

theorem readColumn_withLiteral (h : HasLiteral front contents back name remainder)
    (hinert : IsInert front contents back remainder) :
    readColumn (withLiteral front contents back) = readColumn (withLiteral front [] back) := by
  rw [readColumn, readColumn, h.columnParts_eq, h.emptied.columnParts_eq]
  simp only [Option.map_some, ofText_typeText_withLiteral remainder contents back,
    hinert.hasPhrase_eq (by decide : ["PRIMARY", "KEY"] ∈ flagPhrases),
    hinert.hasPhrase_eq (by decide : ["NOT", "NULL"] ∈ flagPhrases),
    hinert.hasPhrase_eq (by decide : ["UNIQUE"] ∈ flagPhrases)]

/-- A definition that becomes a column is read as one. -/
theorem read_of_definesColumn {definition : List Char} (h : definesColumn definition = true)
    (table : String) : Clause.read table definition = Clause.readColumnLine table definition := by
  rw [definesColumn, Clause.read] at h
  -- a clause of any other kind would have been read before the column line
  cases hprimary : primaryKeyClause definition with
  | some _ => rw [hprimary] at h; exact absurd h (by simp [Clause.column?])
  | none =>
  cases hunique : uniqueClause definition with
  | some _ => rw [hprimary, hunique] at h; exact absurd h (by simp [Clause.column?])
  | none =>
  cases hforeign : foreignKeyClause definition with
  | some _ => rw [hprimary, hunique, hforeign] at h; exact absurd h (by simp [Clause.column?])
  | none =>
  cases hother : otherClause definition with
  | some _ =>
    rw [hprimary, hunique, hforeign, hother] at h; exact absurd h (by simp [Clause.column?])
  | none => exact read_eq_readColumnLine table hprimary hunique hforeign hother

theorem readColumnLine_eq (table : String) (definition : List Char) :
    Clause.readColumnLine table definition = match readColumn definition with
      | none => .unreadable (.unreadableDefinition table (String.ofList definition))
      | some spec => .column spec ((referenceIn definition).map (·.key table [spec.name])) := by
  rw [Clause.readColumnLine, referenceIn]
  simp only [Option.map_map]
  rfl

/-- A definition says the same with an inert literal as with the literal emptied. -/
theorem read_withLiteral (h : HasLiteral front contents back name remainder)
    (hinert : IsInert front contents back remainder) (table : String) :
    Clause.read table (withLiteral front contents back) =
      Clause.read table (withLiteral front [] back) := by
  have hcolumn := hinert.column contents (by simp)
  rw [read_of_definesColumn hcolumn, read_of_definesColumn (hinert.column [] (by simp)),
    readColumnLine_eq, readColumnLine_eq, hinert.referenceIn_eq, ← readColumn_withLiteral h hinert]
  cases hread : readColumn (withLiteral front contents back) with
  | some spec => rfl
  -- then the line would be no column
  | none =>
    rw [definesColumn, read_of_definesColumn hcolumn, Clause.readColumnLine, hread] at hcolumn
    exact absurd hcolumn (by simp [Clause.column?])

/-! ### Literals in their statements -/

/-- The place of a literal in a statement that creates a table: its definition around it, the blanks
and the other definitions around that, and the rest of the statement. -/
structure LiteralPlace where
  lead : List Char
  head : List Char
  before : List (List Char)
  gap : List Char
  front : List Char
  back : List Char
  gap' : List Char
  after : List (List Char)
  tail : List Char

namespace LiteralPlace

/-- The pieces of the body with a literal in its place. -/
def pieces (p : LiteralPlace) (contents : List Char) : List (List Char) :=
  p.before ++ (p.gap ++ (withLiteral p.front contents p.back ++ p.gap')) :: p.after

/-- The body with a literal in its place. -/
def body (p : LiteralPlace) (contents : List Char) : List Char :=
  [','].intercalate (p.pieces contents)

/-- The statement with a literal in its place. -/
def statement (p : LiteralPlace) (contents : List Char) : List Char :=
  p.lead ++ (p.head ++ '(' :: (p.body contents ++ ')' :: p.tail))

/-- Is this the place of a literal with these contents in the body of a table, which falls into the
pieces meant? -/
structure Holds (p : LiteralPlace) (contents name column remainder : List Char) : Prop where
  lead : AllBlank p.lead
  gap : AllBlank p.gap
  gap' : AllBlank p.gap'
  hasBody : HasBody p.head name (p.body contents) p.tail
  pieces : piecesFrom (· == ',') .start (p.body contents) = p.pieces contents
  literal : HasLiteral p.front contents p.back column remainder

variable {place : LiteralPlace} {column : List Char}

theorem Holds.completes (h : place.Holds contents name column remainder)
    (hinner : ∀ c ∈ inner, c ≠ '\'' ∧ c ≠ '\\') :
    ∀ piece ∈ place.pieces inner, Cursor.start.completes piece = true := by
  -- only the piece with the literal differs from those of the body that was read
  have hcomplete := h.hasBody.completes
  rw [h.pieces] at hcomplete
  have hliteral :=
    hcomplete (place.gap ++ (withLiteral place.front contents place.back ++ place.gap'))
    (by simp [LiteralPlace.pieces])
  rw [completes_withLiteral h.gap h.literal.quoted h.literal.escaped h.literal.contents,
    ← completes_withLiteral h.gap h.literal.quoted h.literal.escaped hinner] at hliteral
  intro piece hpiece
  rcases List.mem_append.mp hpiece with hbefore | hpiece
  · exact hcomplete piece (List.mem_append_left _ hbefore)
  rcases List.mem_cons.mp hpiece with rfl | hafter
  · exact hliteral
  · exact hcomplete piece (List.mem_append_right _ (List.mem_cons_of_mem _ hafter))

/-- The clauses of the body are those of the pieces around the literal and of its own definition. -/
theorem Holds.readBody_eq (h : place.Holds contents name column remainder) (table : String)
    (hliteral : HasLiteral place.front inner place.back column remainder) :
    readBody table (place.body inner) = (tidy place.before).map (Clause.read table) ++
      Clause.read table (withLiteral place.front inner place.back) ::
        (tidy place.after).map (Clause.read table) := by
  have hne : withLiteral place.front inner place.back ≠ [] := by simp [withLiteral]
  rw [readBody, body, splitCommas_join (h.completes hliteral.contents), LiteralPlace.pieces,
    tidy_append, tidy_cons, tidy_surrounded h.gap h.gap' hliteral.isTrimmed hne]
  simp

theorem Holds.trim_statement (h : place.Holds contents name column remainder) (inner : List Char) :
    trim (place.statement inner) =
      trimLeft place.head ++ '(' :: (place.body inner ++ ')' :: trimRight place.tail) := by
  rw [statement, trim_append_left h.lead, trim_append_cons (by decide),
    trimRight_append_cons (by decide)]

/-- The table of a statement with a literal has the clauses of its body. -/
theorem Holds.readStatement_trim (h : place.Holds contents name column remainder)
    (hinner : ∀ c ∈ inner, c ≠ '\'' ∧ c ≠ '\\') :
    readStatement (trim (place.statement inner)) =
      let table := String.ofList (normalTableName name)
      ⟨.table (.ofClauses table (readBody table (place.body inner))),
        (readBody table (place.body inner)).filterMap Clause.notice?⟩ := by
  have hbody : HasBody place.head name (place.body inner) (trimRight place.tail) :=
    h.hasBody.replace (h.completes hinner) _
  have hhead : place.head = place.head.takeWhile isBlank ++ trimLeft place.head :=
    List.takeWhile_append_dropWhile.symm
  have hread := hbody.readTable
  rw [hhead, List.append_assoc, readTable_append_left fun c hc => List.mem_takeWhile_imp hc,
    ← h.trim_statement] at hread
  rw [readStatement, hread]

/-- A statement says the same with an inert literal as with the literal emptied. -/
theorem Holds.readStatement_eq (h : place.Holds contents name column remainder)
    (hinert : IsInert place.front contents place.back remainder) :
    readStatement (trim (place.statement contents)) =
      readStatement (trim (place.statement [])) := by
  rw [h.readStatement_trim h.literal.contents, h.readStatement_trim (by simp)]
  simp only [h.readBody_eq _ h.literal, h.readBody_eq _ h.literal.emptied,
    read_withLiteral h.literal hinert]

end LiteralPlace

/-! ### Literals in their scripts -/

/-- Where pieces are joined, each stands between the commas before it and those after it. -/
theorem intercalate_append_cons (before after : List (List Char)) (piece : List Char) :
    [','].intercalate (before ++ piece :: after) =
      before.flatMap (· ++ [',']) ++ (piece ++ after.flatMap (',' :: ·)) := by
  -- on the pieces before; with none left, on those after
  induction before with
  | nil =>
    induction after generalizing piece with
    | nil => simp
    | cons next after ih =>
      have hrest := ih next
      rw [List.nil_append] at hrest
      rw [List.nil_append, List.intercalate_cons_cons, hrest]
      simp
  | cons first before ih =>
    obtain ⟨next, more, hnext⟩ :=
      List.exists_cons_of_ne_nil (l := before ++ piece :: after) (by simp)
    rw [List.cons_append, hnext, List.intercalate_cons_cons, ← hnext, ih]
    simp

/-- What stands around a literal in its statement does not depend on its contents. -/
theorem LiteralPlace.exists_statement_eq (p : LiteralPlace) :
    ∃ front back, ∀ contents, p.statement contents = withLiteral front contents back := by
  refine ⟨p.lead ++ (p.head ++ '(' :: (p.before.flatMap (· ++ [',']) ++ (p.gap ++ p.front))),
    p.back ++ (p.gap' ++ (p.after.flatMap (',' :: ·) ++ ')' :: p.tail)), fun contents => ?_⟩
  simp [statement, body, pieces, intercalate_append_cons, withLiteral]

/-- A literal does not make a mark that neither its contents nor the text around it have. -/
theorem avoids_withLiteral {a b : Char} (ha : '\'' ≠ a) (hb : '\'' ≠ b)
    (h : Avoids a b (withLiteral front [] back)) (hcontents : Avoids a b contents) :
    Avoids a b (withLiteral front contents back) := by
  have hfront : Avoids a b front := h.of_isInfix (List.prefix_append _ _).isInfix
  have hback : Avoids a b ('\'' :: back) :=
    h.of_isInfix ((List.suffix_append (front ++ ['\'']) _).isInfix.trans (by simp [withLiteral]))
  have hquote : ∀ {d : Char} {cs : List Char}, d ∈ ('\'' :: cs).head? → d ≠ b := by
    rintro d cs hd rfl
    exact hb (by simpa using hd)
  refine hfront.append_right (Avoids.append_left (avoids_singleton '\'') ?_ fun c hc => ?_) fun _ =>
    hquote
  · -- the quote at either end of the contents is neither of the two marks
    exact hcontents.append_right hback fun _ => hquote
  · obtain rfl : '\'' = c := by simpa using hc
    exact ha

theorem isLone_withLiteral (h : IsLone (withLiteral front [] back)) (hcontents : IsLone contents) :
    IsLone (withLiteral front contents back) := by
  refine ⟨fun hmem => ?_, avoids_withLiteral (by decide) (by decide) h.dashes hcontents.dashes,
    avoids_withLiteral (by decide) (by decide) h.stars hcontents.stars⟩
  have hsemicolon := h.semicolon
  have hinside := hcontents.semicolon
  simp_all [withLiteral]

/-- Emptying an inert literal without semicolons and marks of comments does not change what is
drawn. -/
theorem draw_join_literal {place : LiteralPlace} {column : List Char}
    (hplace : place.Holds contents name column remainder)
    (hinert : IsInert place.front contents place.back remainder) (hcontents : IsLone contents)
    {before after : List (List Char)}
    (hlone : ∀ st ∈ before ++ place.statement [] :: after, IsLone st) (ids : IdSupply) :
    draw (String.ofList (join (before ++ place.statement contents :: after))) ids =
      draw (String.ofList (join (before ++ place.statement [] :: after))) ids := by
  -- the statements are cut apart as before, since the contents hold no semicolon
  have hfilled : ∀ st ∈ before ++ place.statement contents :: after, IsLone st := by
    intro st hst
    rcases List.mem_append.mp hst with hbefore | hst
    · exact hlone st (List.mem_append_left _ hbefore)
    rcases List.mem_cons.mp hst with rfl | hafter
    · obtain ⟨front, back, hstatement⟩ := place.exists_statement_eq
      have hempty := hlone (place.statement []) (by simp)
      rw [hstatement] at hempty ⊢
      exact isLone_withLiteral hempty hcontents
    · exact hlone st (List.mem_append_right _ (List.mem_cons_of_mem _ hafter))
  have htidy : ∀ inner, tidy [place.statement inner] = [trim (place.statement inner)] := by
    intro inner
    simp [tidy, hplace.trim_statement]
  -- so the two scripts differ in one statement, which reads the same
  have hreadings : (tidy (before ++ place.statement contents :: after)).map readStatement =
      (tidy (before ++ place.statement [] :: after)).map readStatement := by
    rw [tidy_append, tidy_append, tidy_cons, tidy_cons (place.statement []), htidy, htidy]
    simp [hplace.readStatement_eq hinert]
  simp only [draw, String.toList_ofList, Contents.ofScript, statementsOf_join hfilled,
    statementsOf_join hlone, Contents.ofStatements, hreadings]

/-- The default of a column, among other definitions and before another literal. -/
def shelfLiteral : LiteralPlace where
  lead := "\n".toList
  head := "create table shelf ".toList
  before := ["id int primary key".toList]
  gap := " ".toList
  front := "kind varchar(20) check (kind <> '') default ".toList
  back := " not null comment 'of wood' references wood (kind)".toList
  gap' := "\n".toList
  after := [" unique (kind)".toList]
  tail := " ".toList

/-- The default holds a comma, a closing parenthesis and words that would raise a flag or make a
key. -/
theorem draw_join_literal_shelf :
    let contents := "oak), primary (not null) references oak".toList
    let wood := "create table wood (kind text)".toList
    draw (String.ofList (join ([wood] ++ shelfLiteral.statement contents :: [wood]))) .tally =
      draw (String.ofList (join ([wood] ++ shelfLiteral.statement [] :: [wood]))) .tally := by
  intro contents wood
  have hliteral : HasLiteral shelfLiteral.front contents shelfLiteral.back "kind".toList
      "varchar(20) check (kind <> '') default ".toList :=
    ⟨by decide +kernel, by decide +kernel, by decide +kernel, by decide +kernel, by decide +kernel,
      by decide +kernel⟩
  have hplace : shelfLiteral.Holds contents "shelf".toList "kind".toList
      "varchar(20) check (kind <> '') default ".toList :=
    ⟨by decide +kernel, by decide +kernel, by decide +kernel,
      ⟨by decide +kernel, by decide +kernel⟩, by decide +kernel, hliteral⟩
  have hinert : IsInert shelfLiteral.front contents shelfLiteral.back
      "varchar(20) check (kind <> '') default ".toList :=
    ⟨by decide +kernel, by decide +kernel, by decide +kernel, by decide +kernel⟩
  have hcontents : IsLone contents := by decide +kernel
  have hlone : ∀ st ∈ [wood] ++ shelfLiteral.statement [] :: [wood], IsLone st := by decide +kernel
  exact draw_join_literal hplace hinert hcontents hlone .tally

end SchemaDraft.Script
