import SchemaDraft.Proofs.Export.Statements

/-!
No name gets out of its quotes. A database reads a quoted name up to its first single quote, two of
them standing for one (`lexemes`). Read that way an exported script says what it was put together
from, whatever the names hold: one statement for each table and each foreign key, with their names
and no others (`exists_lexemes_script`).
-/

namespace SchemaDraft.Export

open Text

/-! ### Reading -/

/-- What a script is made of: characters outside of names, and names. -/
inductive Lexeme where
  | mark (c : Char)
  | name (cs : List Char)
  deriving Repr, DecidableEq

/-- The lexemes of a text, after the start of a name if one is open. None if a name is open at its
end. -/
def lexemesFrom : Option (List Char) → List Char → Option (List Lexeme)
  | none, [] => some []
  | none, '"' :: rest => lexemesFrom (some []) rest
  | none, c :: rest => (lexemesFrom none rest).map (.mark c :: ·)
  | some _, [] => none
  | some start, '"' :: '"' :: rest => lexemesFrom (some (start ++ ['"'])) rest
  | some start, '"' :: rest => (lexemesFrom none rest).map (.name start :: ·)
  | some start, c :: rest => lexemesFrom (some (start ++ [c])) rest

/-- The lexemes of a text. -/
def lexemes (cs : List Char) : Option (List Lexeme) := lexemesFrom none cs

/-- The names among some lexemes. -/
def namesOf (ls : List Lexeme) : List (List Char) :=
  ls.filterMap fun
    | .mark _ => none
    | .name cs => some cs

/-- Is this a blank outside of names? -/
def Lexeme.isBlank : Lexeme → Bool
  | mark c => Text.isBlank c
  | name _ => false

/-- The statements of a script: the parts that its semicolons leave, without the blanks before them.
-/
def statements (ls : List Lexeme) : List (List Lexeme) :=
  ((ls.splitOn (.mark ';')).map (List.dropWhile Lexeme.isBlank)).filter (· ≠ [])

/-- Do some lexemes hold no single quote and no mark of a comment outside of names? -/
structure IsUncommented (ls : List Lexeme) : Prop where
  apostrophe : .mark '\'' ∉ ls
  dashes : ¬[.mark '-', .mark '-'] <:+: ls
  stars : ¬[.mark '/', .mark '*'] <:+: ls

/-! ### Writing -/

/-- May a character stand outside of names? It begins no name, no text and no comment there. -/
def StandsOutside (c : Char) : Prop := c ∉ ['"', '\'', '-', '/']

instance (c : Char) : Decidable (StandsOutside c) :=
  inferInstanceAs (Decidable (c ∉ ['"', '\'', '-', '/']))

/-- Is a text written from these lexemes, each name with a character behind it that is in none? -/
inductive WrittenAs : List Lexeme → List Char → Prop
  | nil : WrittenAs [] []
  | mark {c : Char} {ls : List Lexeme} {cs : List Char} (hc : StandsOutside c)
    (h : WrittenAs ls cs) :
      WrittenAs (.mark c :: ls) (c :: cs)
  | name {c : Char} {ls : List Lexeme} {cs : List Char} (name : List Char) (hc : StandsOutside c)
      (h : WrittenAs ls cs) : WrittenAs (.name name :: .mark c :: ls) (quoteName name ++ c :: cs)

variable {ls ms : List Lexeme} {cs ds : List Char}

theorem WrittenAs.append (hls : WrittenAs ls cs) (hms : WrittenAs ms ds) :
    WrittenAs (ls ++ ms) (cs ++ ds) := by
  induction hls with
  | nil => exact hms
  | mark hc _ ih => exact .mark hc ih
  | name name hc _ ih =>
    rw [List.append_assoc]
    exact .name name hc ih

theorem StandsOutside.ne_quote {c : Char} (hc : StandsOutside c) : c ≠ '"' := by
  rintro rfl
  exact absurd hc (by decide)

theorem lexemesFrom_mark {c : Char} (hc : StandsOutside c) (cs : List Char) :
    lexemesFrom none (c :: cs) = (lexemesFrom none cs).map (.mark c :: ·) := by
  rw [lexemesFrom]
  exact hc.ne_quote

theorem lexemesFrom_close {c : Char} (hc : StandsOutside c) (start cs : List Char) :
    lexemesFrom (some start) ('"' :: c :: cs) =
      (lexemesFrom none (c :: cs)).map (.name start :: ·) := by
  simp [lexemesFrom, hc.ne_quote]

/-- A name in quotes is read back, whatever it holds, unless one more quote follows it. -/
theorem lexemesFrom_doubleQuotes {c : Char} (hc : StandsOutside c) (start name cs : List Char) :
    lexemesFrom (some start) (doubleQuotes name ++ '"' :: c :: cs) =
      (lexemesFrom none (c :: cs)).map (.name (start ++ name) :: ·) := by
  induction name generalizing start with
  | nil =>
    rw [List.append_nil, doubleQuotes, List.flatMap_nil, List.nil_append, lexemesFrom_close hc]
  | cons d name ih =>
    have hstart : start ++ d :: name = start ++ [d] ++ name := by simp
    rw [hstart, ← ih, doubleQuotes, List.flatMap_cons, List.append_assoc, ← doubleQuotes]
    -- a quote inside a name is doubled, so it does not close the name
    by_cases hd : d = '"'
    · rw [if_pos hd, hd]
      rfl
    · rw [if_neg hd, List.singleton_append, lexemesFrom]
      · exact fun _ h => absurd h hd
      · exact hd

/-- What is written is read back. -/
theorem WrittenAs.lexemes_eq (h : WrittenAs ls cs) : lexemes cs = some ls := by
  induction h with
  | nil => rfl
  | mark hc _ ih =>
    rw [lexemes] at ih ⊢
    rw [lexemesFrom_mark hc, ih, Option.map_some]
  | @name c ls cs name hc _ ih =>
    have hopen : quoteName name ++ c :: cs = '"' :: (doubleQuotes name ++ '"' :: c :: cs) := by
      simp [quoteName]
    rw [lexemes] at ih ⊢
    rw [hopen, lexemesFrom, lexemesFrom_doubleQuotes hc, lexemesFrom_mark hc, ih]
    rfl

theorem WrittenAs.standsOutside (h : WrittenAs ls cs) {c : Char} (hmem : .mark c ∈ ls) :
    StandsOutside c := by
  induction h with
  | nil => exact absurd hmem (by simp)
  | mark hd _ ih =>
    rcases List.mem_cons.mp hmem with heq | hmem
    · rwa [Lexeme.mark.inj heq]
    · exact ih hmem
  | name _ hd _ ih =>
    rcases List.mem_cons.mp (List.mem_of_ne_of_mem (by simp) hmem) with heq | hmem
    · rwa [Lexeme.mark.inj heq]
    · exact ih hmem

theorem WrittenAs.isUncommented (h : WrittenAs ls cs) : IsUncommented ls where
  apostrophe := fun hmem => absurd (h.standsOutside hmem) (by decide)
  dashes := fun hin => absurd (h.standsOutside (hin.subset (by simp)))
    (by decide : ¬StandsOutside '-')
  stars := fun hin => absurd (h.standsOutside (hin.subset (by simp)))
    (by decide : ¬StandsOutside '/')

/-! ### Statements -/

theorem statements_gap {gap : List Lexeme} (h : ∀ l ∈ gap, l.isBlank = true) (ls : List Lexeme) :
    statements (gap ++ ls) = statements ls := by
  induction gap with
  | nil => rfl
  | cons l gap ih =>
    have hblank : l.isBlank = true := h l (by simp)
    -- a blank is no semicolon, so the first statement goes on
    have hne : (l == .mark ';') = false := by
      rw [beq_eq_false_iff_ne]
      rintro rfl
      exact absurd hblank (by decide)
    obtain ⟨first, more, hsplit⟩ :=
      List.exists_cons_of_ne_nil (List.splitOn_ne_nil (.mark ';') (gap ++ ls))
    rw [← ih fun k hk => h k (List.mem_cons_of_mem _ hk), List.cons_append, statements, statements,
      List.splitOn_cons_eq_if_modifyHead, hne, if_neg Bool.false_ne_true, hsplit,
      List.modifyHead_cons,
      List.map_cons, List.map_cons, List.dropWhile_cons_of_pos hblank]

theorem statements_cons {l : Lexeme} (hl : l.isBlank = false) (hsemicolon : .mark ';' ∉ l :: ls)
    (ms : List Lexeme) : statements (l :: ls ++ .mark ';' :: ms) = (l :: ls) :: statements ms := by
  rw [statements, List.splitOn_append_cons_self_of_not_mem hsemicolon, List.map_cons,
    List.dropWhile_cons_of_neg (by rw [hl]; decide), List.filter_cons_of_pos (by simp)]
  rfl

/-! ### Names of a statement -/

/-- Does a text hold these names, and no semicolon outside of them? -/
def Tells (cs : List Char) (names : List (List Char)) : Prop :=
  ∃ ls, WrittenAs ls cs ∧ namesOf ls = names ∧ .mark ';' ∉ ls

theorem addsUp_tells : AddsUp Tells where
  nil := ⟨[], .nil, rfl, by simp⟩
  append := by
    rintro cs ds as bs ⟨ls, hls, rfl, hcs⟩ ⟨ms, hms, rfl, hds⟩
    refine ⟨ls ++ ms, hls.append hms, List.filterMap_append, fun hmem => ?_⟩
    exact (List.mem_append.mp hmem).elim hcs hds

theorem tells_word (h : ∀ c ∈ cs, StandsOutside c ∧ c ≠ ';') : Tells cs [] := by
  induction cs with
  | nil => exact addsUp_tells.nil
  | cons c cs ih =>
    obtain ⟨houtside, hne⟩ := h c (by simp)
    obtain ⟨ls, hls, hnames, hsemicolon⟩ := ih fun d hd => h d (List.mem_cons_of_mem _ hd)
    refine ⟨.mark c :: ls, .mark houtside hls, hnames, fun hmem => ?_⟩
    rcases List.mem_cons.mp hmem with heq | hmem
    · exact hne (Lexeme.mark.inj heq).symm
    · exact hsemicolon hmem

theorem WrittenAs.cons_inv {c : Char} (h : WrittenAs ls (c :: cs)) (hc : c ≠ '"') :
    ∃ ms, ls = .mark c :: ms ∧ StandsOutside c ∧ WrittenAs ms cs := by
  cases h with
  | mark houtside h => exact ⟨_, rfl, houtside, h⟩
  | name name houtside h => exact absurd rfl hc

variable {names : List (List Char)}

/-- A name may stand in front of a text that does not begin with one. -/
theorem Tells.named (h : Tells cs names) (hhead : ∃ c ∈ cs.head?, c ≠ '"') (name : List Char) :
    Tells (quoteName name ++ cs) (name :: names) := by
  obtain ⟨c, hhead, hc⟩ := hhead
  obtain ⟨ds, rfl⟩ := List.head?_eq_some_iff.mp hhead
  obtain ⟨ls, hls, rfl, hsemicolon⟩ := h
  obtain ⟨ms, rfl, houtside, hms⟩ := hls.cons_inv hc
  exact ⟨_, .name name houtside hms, rfl, by simpa using hsemicolon⟩

theorem tells_names (hne : names ≠ []) :
    Tells (", ".toList.intercalate (names.map quoteName) ++ [')']) names := by
  induction names with
  | nil => exact absurd rfl hne
  | cons name names ih =>
    cases names with
    | nil =>
      have hclose : Tells [')'] [] := tells_word (by decide)
      simpa [List.intercalate] using hclose.named ⟨')', rfl, by decide⟩ name
    | cons next names =>
      have hcomma : Tells ", ".toList [] := tells_word (by decide)
      have hrest := (addsUp_tells.append hcomma (ih (by simp))).named ⟨',', rfl, by decide⟩ name
      rw [List.map_cons, List.map_cons, List.intercalate_cons_cons, List.append_assoc,
        List.append_assoc]
      exact hrest

/-- The names in the columns of a table and those of its primary key. -/
def bodyNames (columns : List ColumnSpec) : List (List Char) :=
  columns.map (·.name.toList) ++ (columns.filter (·.isPrimaryKey)).map (·.name.toList)

/-- Are the types of all columns words of the vocabulary? -/
def HasKnownTypes (columns : List ColumnSpec) : Prop :=
  ∀ c ∈ columns, c.type ∈ ColumnType.all.map ColumnType.name

instance (columns : List ColumnSpec) : Decidable (HasKnownTypes columns) :=
  inferInstanceAs (Decidable (∀ c ∈ columns, c.type ∈ ColumnType.all.map ColumnType.name))

/-- No type of the vocabulary does anything to a script. -/
theorem standsOutside_type : ∀ type ∈ ColumnType.all.map ColumnType.name,
    ∀ c ∈ ' ' :: (columnTypeInSql type).toList, StandsOutside c ∧ c ≠ ';' := by
  decide +kernel

theorem tells_columnLine {c : ColumnSpec} (h : c.type ∈ ColumnType.all.map ColumnType.name) :
    Tells (columnLine c) [c.name.toList] := by
  have hindent : Tells indentation [] := tells_word (by decide)
  have hflag : ∀ (b : Bool) (flag : List Char), Tells flag [] →
      Tells (if b then flag else []) [] := by
    intro b flag hflag
    cases b
    · exact addsUp_tells.nil
    · exact hflag
  have hnull : Tells " NOT NULL".toList [] := tells_word (by decide)
  have hunique : Tells " UNIQUE".toList [] := tells_word (by decide)
  have hnamed :=
    (tells_word (standsOutside_type c.type h)).named ⟨' ', rfl, by decide⟩ c.name.toList
  have hflags := addsUp_tells.append (hflag c.isNotNull _ hnull)
    (hflag (c.isUnique && !c.isPrimaryKey) _ hunique)
  rw [columnLine, List.append_assoc indentation, List.append_assoc]
  exact addsUp_tells.append (addsUp_tells.append hindent hnamed) hflags

theorem tells_primaryKeyLines (columns : List ColumnSpec) :
    ∃ given, List.Forall₂ Tells (primaryKeyLines columns) given ∧
      given.flatten = (columns.filter (·.isPrimaryKey)).map (·.name.toList) := by
  rw [primaryKeyLines]
  split
  · rename_i hnone
    exact ⟨[], .nil, by rw [hnone]; rfl⟩
  · rename_i hsome
    have hopening : Tells (indentation ++ "PRIMARY KEY (".toList) [] := tells_word (by decide)
    have hnames : (columns.filter (·.isPrimaryKey)).map (·.name.toList) ≠ [] :=
      mt List.map_eq_nil_iff.mp hsome
    have hline := addsUp_tells.append hopening (tells_names hnames)
    rw [List.map_map, ← List.append_assoc] at hline
    exact ⟨[_], .cons hline .nil, List.flatten_singleton⟩

theorem tells_tableBody {t : TableSpec} (h : HasKnownTypes t.columns) :
    Tells (tableBody t) (bodyNames t.columns) := by
  obtain ⟨given, hkeys, hgiven⟩ := tells_primaryKeyLines t.columns
  -- one line for each column, and one for the primary key
  have hlines :
      List.Forall₂ Tells (tableLines t) (t.columns.map (fun c => [c.name.toList]) ++ given) :=
    List.rel_append (List.forall₂_map_left_iff.mpr (List.forall₂_map_right_iff.mpr
      (List.forall₂_same.mpr fun c hc => tells_columnLine (h c hc)))) hkeys
  have hflatten : (t.columns.map (fun c => [c.name.toList]) ++ given).flatten =
      bodyNames t.columns := by
    rw [List.flatten_append, hgiven, ← List.flatMap_def, ← List.map_eq_flatMap, bodyNames]
  rw [tableBody]
  split
  · rename_i hnone
    rw [hnone] at hlines
    rw [← hflatten, List.forall₂_nil_left_iff.mp hlines]
    exact addsUp_tells.nil
  · have hnewline : Tells ['\n'] [] := tells_word (by decide)
    have hcomma : Tells ",\n".toList [] := tells_word (by decide)
    have hbody := addsUp_tells.append hnewline
      (addsUp_tells.append (addsUp_tells.intercalate hcomma hlines) hnewline)
    rwa [hflatten, List.append_nil] at hbody

/-! ### The script -/

/-- What is to be read in a statement: the words that it opens with, and its names. -/
structure Outline where
  opening : String
  names : List (List Char)
  deriving Repr, DecidableEq

/-- Does a statement open with the words of an outline, and hold its names? -/
structure Follows (o : Outline) (statement : List Lexeme) : Prop where
  opening : o.opening.toList.map .mark <+: statement
  names : namesOf statement = o.names

/-- The outline of the statement that creates a table. -/
def tableOutline (t : TableSpec) : Outline where
  opening := "CREATE TABLE "
  names := t.name.toList :: bodyNames t.columns

/-- The outline of the statement that adds a foreign key under a name. -/
def keyOutline (k : ForeignKey) (name : List Char) : Outline where
  opening := "ALTER TABLE "
  names := [k.fromTable.toList, name, k.fromColumn.toList, k.toTable.toList, k.toColumn.toList]

/-- The outlines of the statements of a drawing. -/
def outlines (s : Schema) : List Outline :=
  s.tables.map (fun t => tableOutline t.spec) ++ (namedKeys s).map fun p => keyOutline p.1 p.2

/-- Is a text read as statements with these outlines, whatever follows it? -/
def Conveys (cs : List Char) (os : List Outline) : Prop :=
  ∃ ls given, WrittenAs ls cs ∧ List.Forall₂ Follows os given ∧
    ∀ ms, statements (ls ++ ms) = given ++ statements ms

theorem addsUp_conveys : AddsUp Conveys where
  nil := ⟨[], [], .nil, .nil, fun _ => rfl⟩
  append := by
    rintro cs ds as bs ⟨ls, given, hls, hgiven, hread⟩ ⟨ms, more, hms, hmore, hread'⟩
    refine ⟨ls ++ ms, given ++ more, hls.append hms, List.rel_append hgiven hmore, fun rest => ?_⟩
    rw [List.append_assoc, hread, hread', List.append_assoc]

theorem writes_word (h : ∀ c ∈ cs, StandsOutside c) : WrittenAs (cs.map .mark) cs := by
  induction cs with
  | nil => exact .nil
  | cons c cs ih => exact .mark (h c (by simp)) (ih fun d hd => h d (List.mem_cons_of_mem _ hd))

theorem conveys_gap (h : ∀ c ∈ cs, StandsOutside c ∧ isBlank c = true) : Conveys cs [] := by
  refine ⟨cs.map .mark, [], writes_word fun c hc => (h c hc).1, .nil,
    fun ms => statements_gap ?_ ms⟩
  intro l hl
  obtain ⟨c, hc, rfl⟩ := List.mem_map.mp hl
  exact (h c hc).2

/-- A text that opens with some words and goes on with some names is read as one statement, once a
semicolon ends it. -/
theorem conveys_statement {opening : String}
    (hfirst : ∃ c ∈ opening.toList.head?, isBlank c = false)
    (hopening : ∀ c ∈ opening.toList, StandsOutside c ∧ c ≠ ';') (h : Tells cs names) :
    Conveys (opening.toList ++ cs ++ [';']) [⟨opening, names⟩] := by
  obtain ⟨ls, hls, hnames, hsemicolon⟩ := h
  obtain ⟨c, hhead, hblank⟩ := hfirst
  obtain ⟨word, hword⟩ := List.head?_eq_some_iff.mp hhead
  have hend : WrittenAs [.mark ';'] [';'] := .mark (by decide) .nil
  have hwrites := ((writes_word fun d hd => (hopening d hd).1).append hls).append hend
  have hmarks : namesOf (opening.toList.map .mark) = [] := by simp [namesOf]
  -- no semicolon outside of names but the one at the end
  have hnone : .mark ';' ∉ opening.toList.map .mark ++ ls := by
    intro hmem
    rcases List.mem_append.mp hmem with hmem | hmem
    · obtain ⟨d, hd, heq⟩ := List.mem_map.mp hmem
      exact (hopening d hd).2 (Lexeme.mark.inj heq)
    · exact hsemicolon hmem
  have hfollows : Follows ⟨opening, names⟩ (opening.toList.map .mark ++ ls) := by
    refine ⟨List.prefix_append _ _, ?_⟩
    rw [namesOf, List.filterMap_append, ← namesOf, hmarks, List.nil_append, ← hnames]
    rfl
  refine ⟨_, [_], hwrites, .cons hfollows .nil, fun ms => ?_⟩
  have hfirstMark : (Lexeme.mark c).isBlank = false := hblank
  rw [hword, List.map_cons] at hnone ⊢
  rw [List.append_assoc, List.singleton_append]
  exact statements_cons hfirstMark hnone ms

theorem conveys_table {t : TableSpec} (h : HasKnownTypes t.columns) :
    Conveys (tableStatement t) [tableOutline t] := by
  have hopen : Tells " (".toList [] := tells_word (by decide)
  have hclose : Tells [')'] [] := tells_word (by decide)
  have hrest := addsUp_tells.append hopen (addsUp_tells.append (tells_tableBody h) hclose)
  rw [List.nil_append, List.append_nil] at hrest
  rw [tableStatement_eq]
  exact conveys_statement ⟨'C', rfl, by decide⟩ (by decide)
    (hrest.named ⟨' ', rfl, by decide⟩ t.name.toList)

theorem conveys_key (k : ForeignKey) (name : List Char) :
    Conveys (keyStatement k name) [keyOutline k name] := by
  have hclose : Tells [')'] [] := tells_word (by decide)
  have hopen : Tells " (".toList [] := tells_word (by decide)
  have hreferences : Tells ") REFERENCES ".toList [] := tells_word (by decide)
  have hforeign : Tells " FOREIGN KEY (".toList [] := tells_word (by decide)
  have hadd : Tells " ADD CONSTRAINT ".toList [] := tells_word (by decide)
  have htoColumn := addsUp_tells.append hopen (hclose.named ⟨')', rfl, by decide⟩ k.toColumn.toList)
  have htoTable :=
    addsUp_tells.append hreferences (htoColumn.named ⟨' ', rfl, by decide⟩ k.toTable.toList)
  have hfromColumn :=
    addsUp_tells.append hforeign (htoTable.named ⟨')', rfl, by decide⟩ k.fromColumn.toList)
  have hname := addsUp_tells.append hadd (hfromColumn.named ⟨' ', rfl, by decide⟩ name)
  rw [keyStatement_eq]
  exact conveys_statement ⟨'A', rfl, by decide⟩ (by decide)
    (hname.named ⟨' ', rfl, by decide⟩ k.fromTable.toList)

/-- An exported script is written from lexemes that fall apart into its statements. -/
theorem exists_writtenAs_script {s : Schema} (h : ∀ t ∈ s.tables, HasKnownTypes t.spec.columns) :
    ∃ ls, WrittenAs ls (script s) ∧ List.Forall₂ Follows (outlines s) (statements ls) := by
  have hblocks : Conveys "\n\n".toList [] := conveys_gap (by decide)
  have hlines : Conveys ['\n'] [] := conveys_gap (by decide)
  obtain ⟨ls, given, hwrites, hfollows, hread⟩ := addsUp_conveys.script hblocks hlines
    (fun t => tableOutline t.spec) (fun p => keyOutline p.1 p.2)
    (fun t ht => conveys_table (h t ht)) fun p _ => conveys_key p.1 p.2
  refine ⟨ls, hwrites, ?_⟩
  have hall := hread []
  rw [List.append_nil] at hall
  rw [hall]
  simpa [outlines, statements] using hfollows

/-- An exported script is read as one statement for each table and then one for each relation whose
ends exist, with their names and no others. No name is open at its end, and nothing outside of names
begins a text or a comment. -/
theorem exists_lexemes_script {s : Schema} (h : ∀ t ∈ s.tables, HasKnownTypes t.spec.columns) :
    ∃ ls, lexemes (script s) = some ls ∧ IsUncommented ls ∧
      List.Forall₂ Follows (outlines s) (statements ls) ∧
        (namedKeys s).map Prod.fst = relationKeys s := by
  obtain ⟨ls, hwrites, hfollows⟩ := exists_writtenAs_script h
  exact ⟨ls, hwrites.lexemes_eq, hwrites.isUncommented, hfollows, map_fst_nameKeysFrom _ _⟩

/-- A drawing whose names try to end their quotes, their statement and the script. -/
def hostile : Schema where
  tables :=
    [⟨"t", "t\"; DROP TABLE users; --",
      [⟨⟨"a\"\") /* ", "integer", true, true, true⟩, "a"⟩, ⟨⟨"", "text", false, true, false⟩, "b"⟩],
      ⟨0, 0⟩⟩,
     ⟨"u", "\"", [⟨⟨"'\n\"", "double precision", true, true, true⟩, "a"⟩], ⟨0, 0⟩⟩]
  relations := [⟨"r", ⟨"t", "b"⟩, ⟨"u", "a"⟩, "1:N"⟩, ⟨"r", ⟨"t", "b"⟩, ⟨"v", "a"⟩, "1:N"⟩]

theorem exists_lexemes_script_hostile :
    (outlines hostile).map (·.opening) = ["CREATE TABLE ", "CREATE TABLE ", "ALTER TABLE "] ∧
      ∃ ls, lexemes (script hostile) = some ls ∧ IsUncommented ls ∧
        List.Forall₂ Follows (outlines hostile) (statements ls) ∧
          (namedKeys hostile).map Prod.fst = relationKeys hostile :=
  ⟨by decide +kernel, exists_lexemes_script (by decide +kernel)⟩

/-! ### Statements that add foreign keys -/

/-- Does a statement open with these words? -/
def opensWith (opening : String) (statement : List Lexeme) : Bool :=
  (opening.toList.map Lexeme.mark).isPrefixOf statement

/-- The statements of a script that add foreign keys. -/
def additions (ls : List Lexeme) : List (List Lexeme) :=
  (statements ls).filter (opensWith "ALTER TABLE ")

/-- Of the statements of a drawing those of the keys open in that way. -/
theorem opensWith_iff {o : Outline} (ho : o.opening = "CREATE TABLE " ∨ o.opening = "ALTER TABLE ")
    {statement : List Lexeme} (h : Follows o statement) :
    o.opening = "ALTER TABLE " ↔ opensWith "ALTER TABLE " statement = true := by
  obtain ⟨rest, rfl⟩ := h.opening
  rcases ho with ho | ho
  · rw [ho]
    exact iff_of_false (by decide) (by simp [opensWith])
  · rw [ho]
    exact iff_of_true rfl (by simp [opensWith])

theorem filter_outlines (s : Schema) : (outlines s).filter (·.opening = "ALTER TABLE ") =
    (namedKeys s).map fun p => keyOutline p.1 p.2 := by
  simp [outlines, List.filter_map, Function.comp_def, tableOutline, keyOutline]

/-- The statements that an exported script adds foreign keys with are those of its keys, in order.
-/
theorem exists_additions_script {s : Schema} (h : ∀ t ∈ s.tables, HasKnownTypes t.spec.columns) :
    ∃ ls, lexemes (script s) = some ls ∧
      List.Forall₂ (fun p statement => Follows (keyOutline p.1 p.2) statement) (namedKeys s)
        (additions ls) := by
  obtain ⟨ls, hwrites, hfollows⟩ := exists_writtenAs_script h
  refine ⟨ls, hwrites.lexemes_eq, ?_⟩
  have hkinds : ∀ o ∈ outlines s, o.opening = "CREATE TABLE " ∨ o.opening = "ALTER TABLE " :=
    List.forall_mem_append.mpr
      ⟨List.forall_mem_map.mpr fun _ _ => .inl rfl, List.forall_mem_map.mpr fun _ _ => .inr rfl⟩
  have hboth := (List.forall₂_and_left _ _).mpr ⟨hkinds, hfollows⟩
  -- of the statements of the script, those that alter tables follow the keys
  have hkept : List.Forall₂ _ ((outlines s).filter (·.opening = "ALTER TABLE ")) (additions ls) :=
    List.rel_filter (fun _ _ hfollow => by simpa using opensWith_iff hfollow.1 hfollow.2) hboth
  rw [filter_outlines] at hkept
  exact List.forall₂_map_left_iff.mp (hkept.imp fun _ _ hfollow => hfollow.2)

end SchemaDraft.Export
