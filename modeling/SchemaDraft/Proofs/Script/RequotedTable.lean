import SchemaDraft.Proofs.Script.RequotedNames

/-!
`CREATE TABLE` with its names in other quotes. Every definition says the same when its names are
written in other quotes (`clausesSame_read`): key clauses give the same columns, or names with a
quote mark left in them, which are the names of no column, so the flags are raised in the same
columns (`foldColumns_of_same`). So the table that a statement creates does not depend on the style
of the quotes, and neither do its foreign keys, if each item in their lists is a single name
(`readTable_requoted`). Names that hold what the walk counts are the exception: a comma, an opening
parenthesis or an apostrophe goes unnoticed in double quotes only.
-/

namespace SchemaDraft.Script

open Reader Text

variable {cs ds : List Char} {rule : NameRule}

/-! ### Clauses -/

/-- Do two keys connect the same tables, by columns with the same names? -/
structure KeysSame (k k' : ForeignKey) : Prop where
  fromTable : k.fromTable = k'.fromTable
  fromColumn : NamesSame k.fromColumn k'.fromColumn
  toTable : k.toTable = k'.toTable
  toColumn : NamesSame k.toColumn k'.toColumn

/-- Do two lists of columns make the same key, or none? -/
inductive OutcomesSame : Except Notice ForeignKey → Except Notice ForeignKey → Prop
  | ok {k k' : ForeignKey} : KeysSame k k' → OutcomesSame (.ok k) (.ok k')
  | error (n n' : Notice) : OutcomesSame (.error n) (.error n')

/-- Do two definitions say the same? -/
inductive ClausesSame : Clause → Clause → Prop
  | primaryKey {names names' : List String} : List.Forall₂ NamesSame names names' →
      ClausesSame (.primaryKey names) (.primaryKey names')
  | unique {names names' : List String} : List.Forall₂ NamesSame names names' →
      ClausesSame (.unique names) (.unique names')
  | foreignKey {key key' : Except Notice ForeignKey} : OutcomesSame key key' →
      ClausesSame (.foreignKey key) (.foreignKey key')
  | nothing : ClausesSame .nothing .nothing
  | column {spec : ColumnSpec} {key key' : Option (Except Notice ForeignKey)} :
    ¬IsMarked spec.name →
      Option.Rel OutcomesSame key key' → ClausesSame (.column spec key) (.column spec key')
  | unreadable (n n' : Notice) : ClausesSame (.unreadable n) (.unreadable n')

theorem outcomesSame_ofColumns (table target : String) {names names' targets targets' : List String}
    (hnames : List.Forall₂ NamesSame names names')
    (htargets : List.Forall₂ NamesSame targets targets') :
    OutcomesSame (ForeignKey.ofColumns table names target targets)
      (ForeignKey.ofColumns table names' target targets') := by
  cases hnames with
  | nil => exact .error _ _
  | cons hname hmore =>
    cases hmore with
    | cons _ _ => exact .error _ _
    | nil =>
      cases htargets with
      | nil => exact .error _ _
      | cons htarget hmore =>
        cases hmore with
        | nil => exact .ok ⟨rfl, hname, rfl, htarget⟩
        | cons _ _ => exact .error _ _

theorem outcomesSame_key {r r' : Reference} (h : ReferencesSame rule r r') (table : String)
    {names names' : List String}
    (hnames : List.Forall₂ NamesSame names names') :
    OutcomesSame (r.key table names) (r'.key table names') := by
  rw [Reference.key, Reference.key, h.table]
  exact outcomesSame_ofColumns _ _ hnames (namesSame_columnNameStrings h.columns)

/-! ### Key clauses -/

namespace Requoted

theorem agrees_keyword {word : String} (hword : word ∈ keywords) :
    Agrees (Requoted rule) Eq (keyword word) (keyword word) := Script.agrees_keyword tracks hword

theorem agrees_anyKeyword {words : List String} (hwords : ∀ word ∈ words, word ∈ keywords) :
    Agrees (Requoted rule) Eq (anyKeyword words) (anyKeyword words) :=
  Script.agrees_anyKeyword tracks hwords

theorem agrees_phrase {words : List String} (hwords : ∀ word ∈ words, word ∈ keywords) :
    Agrees (Requoted rule) Eq (phrase words) (phrase words) := Script.agrees_phrase tracks hwords

theorem agrees_blanks : Agrees (Requoted rule) Eq blanks blanks := Script.agrees_blanks tracks

theorem agrees_gap : Agrees (Requoted rule) Eq gap gap := Script.agrees_gap tracks

theorem agrees_identifier : Agrees (Requoted rule) WritesSame identifier identifier :=
  Script.agrees_identifier tracksNames

end Requoted

theorem agrees_constraintName : Agrees (Requoted rule) Eq constraintName constraintName :=
  agrees_optional <| (Requoted.agrees_keyword (by decide)).andThen <|
    Requoted.agrees_blanks.andThen <|
    Requoted.agrees_identifier.andThen <| Requoted.agrees_blanks.andThen <| agrees_pure rfl

theorem agrees_primaryKeyClause :
    Agrees (Requoted rule) (Requoted rule) primaryKeyClause primaryKeyClause :=
  agrees_constraintName.andThen <| (Requoted.agrees_phrase (by decide)).andThen <|
    Requoted.agrees_gap.andThen agrees_parenthesised

theorem agrees_indexWords : Agrees (Requoted rule) Eq indexWords indexWords :=
  (Requoted.agrees_anyKeyword (by decide)).andThen <| agrees_optional <|
    Requoted.agrees_blanks.andThen <| Requoted.agrees_identifier.andThen <| agrees_pure rfl

theorem agrees_uniqueClause : Agrees (Requoted rule) (Requoted rule) uniqueClause uniqueClause := by
  have hindex : Agrees (Requoted rule) Eq (Reader.optional (blanks >>= fun _ => indexWords))
      (Reader.optional (blanks >>= fun _ => indexWords)) :=
    agrees_optional (Requoted.agrees_blanks.andThen agrees_indexWords)
  exact agrees_constraintName.andThen <| (Requoted.agrees_keyword (by decide)).andThen <|
    hindex.andThen <| Requoted.agrees_gap.andThen agrees_parenthesised

theorem agrees_foreignKeyClause : Agrees (Requoted rule)
    (fun p q => Requoted rule p.1 q.1 ∧ ReferencesSame rule p.2 q.2) foreignKeyClause
      foreignKeyClause := by
  refine agrees_constraintName.andThen <| (Requoted.agrees_phrase (by decide)).andThen <|
    Requoted.agrees_gap.andThen <| agrees_parenthesised.bind fun columns columns' hcolumns => ?_
  exact Requoted.agrees_gap.andThen <| agrees_references.bind fun reference reference' hreference =>
    agrees_pure ⟨hcolumns, hreference⟩

theorem agrees_otherClause : Agrees (Requoted rule) Eq otherClause otherClause := by
  have hopening : Agrees (Requoted rule) Eq (char '(') (char '(') :=
    agrees_char Requoted.tracks (by decide)
  have hend : Agrees (Requoted rule) Eq wordEnd wordEnd := agrees_wordEnd Requoted.tracks
  have hcheck : Agrees (Requoted rule) Eq checkClause checkClause :=
    agrees_constraintName.andThen <| (Requoted.agrees_keyword (by decide)).andThen <|
      Requoted.agrees_gap.andThen hopening
  have hexclude : Agrees (Requoted rule) Eq excludeClause excludeClause :=
    agrees_constraintName.andThen <| (Requoted.agrees_phrase (by decide)).andThen hend
  have hspecial : Agrees (Requoted rule) Eq specialIndexClause specialIndexClause :=
    (Requoted.agrees_anyKeyword (by decide)).andThen <| Requoted.agrees_blanks.andThen <|
      (Requoted.agrees_anyKeyword (by decide)).andThen hend
  have hindex : Agrees (Requoted rule) Eq indexClause indexClause :=
    agrees_indexWords.andThen <| Requoted.agrees_gap.andThen <|
      hopening.andThen (agrees_noDigit Requoted.tracks)
  refine agrees_firstOf fun r hr => ?_
  simp only [List.mem_cons, List.not_mem_nil, or_false] at hr
  rcases hr with rfl | rfl | rfl | rfl
  · exact hcheck
  · exact hexclude
  · exact hspecial
  · exact hindex

/-! ### Columns -/

/-- The name of a column and the blanks after it. -/
def columnStart : Reader (List Char) := columnName >>= fun name => blanks >>= fun _ => pure name

theorem columnParts_eq (definition : List Char) : columnParts definition =
    match columnStart (trim definition) with
    | some (name, c :: rest) => some (name, c :: rest)
    | _ => none := rfl

theorem columnParts_requoted (h : Requoted rule cs ds) :
    Option.Rel (fun p q => WritesClean p.1 q.1 ∧ Alike p.2 q.2) (columnParts cs)
      (columnParts ds) := by
  have hstart : Agrees (Requoted rule) WritesClean columnStart columnStart :=
    agrees_columnName.bind fun _ _ hname => Requoted.agrees_blanks.andThen (agrees_pure hname)
  rw [columnParts_eq, columnParts_eq]
  obtain ⟨hcs, hds⟩ | ⟨⟨name, rest⟩, ⟨name', rest'⟩, hcs, hds, hname, hrest⟩ :=
    none_or_some_of_rel (hstart h.trim)
  · rw [hcs, hds]
    exact .none
  · rw [hcs, hds]
    have hends := hrest.eq_nil_iff
    cases rest with
    | nil =>
      obtain rfl : rest' = [] := hends.mp rfl
      exact .none
    | cons c rest =>
      cases rest' with
      | nil => exact absurd (hends.mpr rfl) (by simp)
      | cons d rest' => exact .some ⟨hname, hrest.alike⟩

theorem not_isMarked_of_writesClean {text text' : List Char} (h : WritesClean text text') :
    ¬IsMarked (String.ofList (normalName text)) := by
  obtain ⟨name, hwrites, _, hmarks⟩ := h
  rintro ⟨c, hc, hmark⟩
  have hlow : ∀ m ∈ ['"', '\x60', '[', ']'], m.toNat < 97 := by decide
  rw [String.toList_ofList, normalName_of_writes hwrites] at hc
  have hmem := mem_of_mem_lower (hlow c (mem_of_isQuoteMark hmark)) hc
  exact absurd ((hmarks c hmem).symm.trans hmark) (by decide)

/-- A column is read as the same column, and no quote mark is left in its name. -/
theorem readColumn_requoted (h : Requoted rule cs ds) :
    readColumn cs = readColumn ds ∧ ∀ spec ∈ readColumn cs, ¬IsMarked spec.name := by
  rw [readColumn, readColumn]
  obtain ⟨hcs, hds⟩ | ⟨⟨name, rest⟩, ⟨name', rest'⟩, hcs, hds, hname, hrest⟩ :=
    none_or_some_of_rel (columnParts_requoted h)
  · rw [hcs, hds]
    exact ⟨rfl, by simp⟩
  · rw [hcs, hds]
    have hflags : ∀ words ∈ [["PRIMARY", "KEY"], ["NOT", "NULL"], ["UNIQUE"]],
        hasPhrase words rest = hasPhrase words rest' := fun words hwords =>
      hasPhrase_of_alike ((by decide : ∀ words ∈ [["PRIMARY", "KEY"], ["NOT", "NULL"], ["UNIQUE"]],
        ∀ word ∈ words, word ∈ keywords) words hwords) hrest
    constructor
    · simp only [Option.map_some, hname.writesSame.normalName_eq,
        ofText_of_alike (alike_typeText hrest), hflags ["PRIMARY", "KEY"] (by simp),
        hflags ["NOT", "NULL"] (by simp), hflags ["UNIQUE"] (by simp)]
    · intro spec hspec
      obtain rfl := Option.some.inj hspec
      exact not_isMarked_of_writesClean hname

/-! ### Definitions -/

/-- A definition says the same whatever the quotes around its names. -/
theorem clausesSame_read (table : String) (h : Requoted rule cs ds) :
    ClausesSame (Clause.read table cs) (Clause.read table ds) := by
  unfold Clause.read
  -- the clauses are tried in the reader's order: the first that is read in one text is the first in
  -- the other
  obtain ⟨hcs, hds⟩ | ⟨⟨columns, _⟩, ⟨columns', _⟩, hcs, hds, hcolumns, _⟩ :=
    none_or_some_of_rel (agrees_primaryKeyClause h)
  swap
  · rw [hcs, hds]
    exact .primaryKey (namesSame_columnNameStrings hcolumns)
  simp only [hcs, hds]
  obtain ⟨hcs, hds⟩ | ⟨⟨columns, _⟩, ⟨columns', _⟩, hcs, hds, hcolumns, _⟩ :=
    none_or_some_of_rel (agrees_uniqueClause h)
  swap
  · rw [hcs, hds]
    exact .unique (namesSame_columnNameStrings hcolumns)
  simp only [hcs, hds]
  obtain ⟨hcs, hds⟩ | ⟨⟨⟨columns, reference⟩, _⟩, ⟨⟨columns', reference'⟩, _⟩, hcs, hds,
      ⟨hcolumns, hreference⟩, _⟩ :=
    none_or_some_of_rel (agrees_foreignKeyClause h)
  swap
  · rw [hcs, hds]
    exact .foreignKey (outcomesSame_key hreference table (namesSame_columnNameStrings hcolumns))
  simp only [hcs, hds]
  obtain ⟨hcs, hds⟩ | ⟨_, _, hcs, hds, _⟩ := none_or_some_of_rel (agrees_otherClause h)
  swap
  · rw [hcs, hds]
    exact .nothing
  simp only [hcs, hds]
  obtain ⟨hcolumn, hunmarked⟩ := readColumn_requoted h
  rw [← hcolumn]
  cases hspec : readColumn cs with
  | none => exact .unreadable _ _
  | some spec =>
    exact .column (hunmarked spec hspec) <| rel_map (searchWord_references h) fun _ _ hreference =>
      outcomesSame_key hreference table (.cons (.inl rfl) .nil)

/-! ### Tables -/

theorem NamesSame.symm {name name' : String} (h : NamesSame name name') : NamesSame name' name :=
  h.imp Eq.symm And.symm

theorem NamesSame.eq {name name' : String} (h : NamesSame name name') (hname : ¬IsMarked name) :
    name = name' :=
  h.resolve_right fun hmarked => hname hmarked.1

theorem contains_of_namesSame {names names' : List String} (h : List.Forall₂ NamesSame names names')
    {name : String} (hname : ¬IsMarked name) : names.contains name = names'.contains name := by
  induction h with
  | nil => rfl
  | @cons first first' _ _ hfirst _ ih =>
    have hsame : (name == first) = (name == first') := by
      rw [Bool.eq_iff_iff, beq_iff_eq, beq_iff_eq]
      constructor
      · rintro rfl
        exact hfirst.eq hname
      · rintro rfl
        exact (hfirst.symm.eq hname)
    rw [List.contains_cons, List.contains_cons, hsame, ih]

section Clauses

variable {clauses clauses' : List Clause}

theorem columns_of_same (h : List.Forall₂ ClausesSame clauses clauses') :
    clauses.filterMap Clause.column? = clauses'.filterMap Clause.column? ∧
      ∀ c ∈ clauses.filterMap Clause.column?, ¬IsMarked c.name := by
  induction h with
  | nil => exact ⟨rfl, by simp⟩
  | cons hfirst _ ih =>
    cases hfirst with
    | @column spec key key' hname _ =>
      obtain ⟨hsame, hunmarked⟩ := ih
      have hcolumn : ∀ key, Clause.column? (.column spec key) = some spec := fun _ => rfl
      rw [List.filterMap_cons_some (hcolumn key), List.filterMap_cons_some (hcolumn key'), hsame]
      refine ⟨rfl, fun c hc => ?_⟩
      rcases List.mem_cons.mp hc with rfl | hc
      · exact hname
      · exact hunmarked c (hsame ▸ hc)
    | _ => exact ih

theorem primaryKeys_of_same (h : List.Forall₂ ClausesSame clauses clauses') :
    List.Forall₂ NamesSame (clauses.flatMap Clause.primaryKeyColumns)
      (clauses'.flatMap Clause.primaryKeyColumns) := by
  induction h with
  | nil => exact .nil
  | cons hfirst _ ih =>
    cases hfirst with
    | primaryKey hnames => exact List.rel_append hnames ih
    | _ => exact ih

theorem uniques_of_same (h : List.Forall₂ ClausesSame clauses clauses') :
    List.Forall₂ NamesSame (clauses.flatMap Clause.uniqueColumns)
      (clauses'.flatMap Clause.uniqueColumns) := by
  induction h with
  | nil => exact .nil
  | cons hfirst _ ih =>
    cases hfirst with
    | unique hnames => exact List.rel_append hnames ih
    | _ => exact ih

/-- The columns and their flags are the same: a name with a quote mark left in it is the name of no
column. -/
theorem foldColumns_of_same (h : List.Forall₂ ClausesSame clauses clauses') :
    foldColumns clauses = foldColumns clauses' := by
  obtain ⟨hcolumns, hunmarked⟩ := columns_of_same h
  rw [foldColumns, foldColumns, ← hcolumns]
  refine List.map_congr_left fun c hc => ?_
  rw [raiseFlags, raiseFlags, contains_of_namesSame (primaryKeys_of_same h) (hunmarked c hc),
    contains_of_namesSame (uniques_of_same h) (hunmarked c hc)]

theorem keys_of_same (h : List.Forall₂ ClausesSame clauses clauses') :
    List.Forall₂ KeysSame (clauses.filterMap Clause.foreignKey?)
      (clauses'.filterMap Clause.foreignKey?) := by
  induction h with
  | nil => exact .nil
  | cons hfirst _ ih =>
    cases hfirst with
    | foreignKey hkey =>
      cases hkey with
      | ok hkey => exact .cons hkey ih
      | error _ _ => exact ih
    | column _ hkey =>
      cases hkey with
      | none => exact ih
      | some hkey =>
        cases hkey with
        | ok hkey => exact .cons hkey ih
        | error _ _ => exact ih
    | _ => exact ih

end Clauses

/-- Does a key connect columns in whose names no quote mark is left? -/
def IsUnmarkedKey (k : ForeignKey) : Prop := ¬IsMarked k.fromColumn ∧ ¬IsMarked k.toColumn

instance (k : ForeignKey) : Decidable (IsUnmarkedKey k) :=
  inferInstanceAs (Decidable (¬IsMarked k.fromColumn ∧ ¬IsMarked k.toColumn))

theorem eq_of_keysSame {keys keys' : List ForeignKey} (h : List.Forall₂ KeysSame keys keys')
    (hkeys : ∀ k ∈ keys, IsUnmarkedKey k) : keys = keys' := by
  induction h with
  | nil => rfl
  | @cons k k' _ _ hk _ ih =>
    obtain ⟨hfrom, hto⟩ := hkeys k (by simp)
    have hsame : k = k' := by
      cases k
      cases k'
      rw [ForeignKey.mk.injEq]
      exact ⟨hk.fromTable, hk.fromColumn.eq hfrom, hk.toTable, hk.toColumn.eq hto⟩
    rw [hsame, ih fun l hl => hkeys l (List.mem_cons_of_mem _ hl)]

/-! ### Statements -/

/-- Does a statement create a table, with no quote mark before the words that do? -/
def CreatesTable (statement : List Char) : Prop :=
  ∃ found ∈ search createTable statement, ∀ c ∈ found.before, isQuoteMark c = false

instance (statement : List Char) : Decidable (CreatesTable statement) :=
  decidable_of_iff
    ((search createTable statement).any fun found => found.before.all fun c => !isQuoteMark c) (by
    simp [CreatesTable, Option.any_eq_true])

theorem agrees_createTable : Agrees (Requoted rule) PathsSame createTable createTable := by
  have hoptional : ∀ {words : List String}, (∀ word ∈ words, word ∈ keywords) →
      Agrees (Requoted rule) Eq (Reader.optional (wordAndBlanks words))
        (Reader.optional (wordAndBlanks words)) :=
    fun hwords => agrees_optional <| (Requoted.agrees_anyKeyword hwords).andThen <|
      Requoted.agrees_blanks.andThen <| agrees_pure rfl
  have hcondition :
      Agrees (Requoted rule) Eq (Reader.optional condition) (Reader.optional condition) :=
    agrees_optional <| (Requoted.agrees_phrase (by decide)).andThen <|
      Requoted.agrees_blanks.andThen <| agrees_pure rfl
  rw [createTable_eq]
  refine (Requoted.agrees_keyword (by decide)).andThen <| Requoted.agrees_blanks.andThen <|
    (hoptional (by decide)).andThen <| (hoptional (by decide)).andThen <|
    (Requoted.agrees_keyword (by decide)).andThen <| Requoted.agrees_blanks.andThen <|
      hcondition.andThen <|
    (agrees_qualifiedName Requoted.tracksNames).bind fun path path' hpath =>
      Requoted.agrees_gap.andThen ?_
  intro cs ds h
  have hhead : cs.head? = some '(' ↔ ds.head? = some '(' := by
    cases Requoted.tracks _ _ h with
    | ends => rfl
    | same _ _ => rfl
    | marks hc hd =>
      have hopening : ∀ {c : Char}, isQuoteMark c = true → c ≠ '(' := by
        rintro c hc rfl; exact absurd hc (by decide)
      simp [hopening hc, hopening hd]
  show Option.Rel _ (if cs.head? = some '(' then some (path, cs) else none)
    (if ds.head? = some '(' then some (path', ds) else none)
  by_cases hopen : cs.head? = some '('
  · rw [if_pos hopen, if_pos (hhead.mp hopen)]
    exact .some ⟨hpath, h⟩
  · rw [if_neg hopen, if_neg fun hds => hopen (hhead.mpr hds)]
    exact .none

theorem search_cons {α : Type} {r : Reader α} {c : Char} (h : r (c :: cs) = none) :
    search r (c :: cs) =
    (search r cs).map fun found => { found with before := c :: found.before } := by
  have hrest : searchFrom (some c) (fun _ => r) cs = search r cs := searchFrom_const (some c)
  rw [search, searchFrom, h, hrest]

/-- A reader that agrees finds the same, if it does so before any quote mark. -/
theorem search_requoted {α : Type} {T : α → α → Prop} {r : Reader α}
    (hr : Agrees (Requoted rule) T r r)
    (h : Requoted rule cs ds) {found : Found α} (hfound : search r cs = some found)
    (hbefore : ∀ c ∈ found.before, isQuoteMark c = false) :
    ∃ found', search r ds = some found' ∧ T found.value found'.value ∧
      Requoted rule found.after found'.after := by
  induction cs generalizing ds found with
  | nil =>
    obtain rfl : ds = [] := h.eq_nil_iff.mp rfl
    obtain ⟨hread, _⟩ | ⟨⟨a, rest⟩, ⟨b, rest'⟩, hread, hread', hsame⟩ := none_or_some_of_rel (hr h)
    · exact absurd hfound (by simp [search, searchFrom, hread])
    · rw [search_of_read hread] at hfound
      obtain rfl := Option.some.inj hfound
      exact ⟨_, search_of_read hread', hsame⟩
  | cons c cs ih =>
    obtain ⟨hread, hread'⟩ | ⟨⟨a, rest⟩, ⟨b, rest'⟩, hread, hread', hsame⟩ :=
      none_or_some_of_rel (hr h)
    · rw [search_cons hread] at hfound
      obtain ⟨inner, hinner, rfl⟩ := Option.map_eq_some_iff.mp hfound
      obtain ⟨ds', rfl, hrest⟩ := h.tail (hbefore c (by simp))
      obtain ⟨found', hfound', hsame⟩ :=
        ih hrest hinner fun d hd => hbefore d (List.mem_cons_of_mem _ hd)
      exact ⟨{ found' with before := c :: found'.before }, by rw [search_cons hread', hfound']; rfl,
        hsame⟩
    · rw [search_of_read hread] at hfound
      obtain rfl := Option.some.inj hfound
      exact ⟨_, search_of_read hread', hsame⟩

/-- The body of a table, up to its closing parenthesis. -/
theorem body_requoted (h : Requoted rule cs ds) (hopening : cs.head? = some '(') {n : Nat}
    (hclosing : closingIndex cs = some n) :
    closingIndex ds = some n ∧ Requoted rule ((cs.take n).drop 1) ((ds.take n).drop 1) := by
  obtain ⟨hsame, htake⟩ := closingFrom_requoted h (isOutside_start cs)
  refine ⟨hsame.trans hclosing, ?_⟩
  -- the first character of the group is its opening parenthesis, which no name hides
  have hbody := htake n hclosing
  cases cs with
  | nil => exact absurd hopening (by simp)
  | cons c cs =>
    obtain rfl : c = '(' := by simpa using hopening
    cases n with
    | zero => exact .nil
    | succ n =>
      obtain ⟨body, hds, hbody⟩ := hbody.tail (by decide)
      rw [hds]
      exact hbody

/-- A table is created with the same name and columns whatever the quotes around names, and with the
same keys if no quote mark is left in the columns they connect, which is so where each item of their
lists is a single name. -/
theorem readTable_requoted {statement statement' : List Char}
    (h : Requoted rule statement statement') (hcreates : CreatesTable statement) :
    (readTable statement').value.map (·.table) = (readTable statement).value.map (·.table) ∧
      ((∀ reading ∈ (readTable statement).value, ∀ key ∈ reading.keys, IsUnmarkedKey key) →
        (readTable statement').value = (readTable statement).value) := by
  obtain ⟨found, hmem, hbefore⟩ := hcreates
  have hfound := Option.mem_def.mp hmem
  obtain ⟨found', hfound', hpath, hafter⟩ := search_requoted agrees_createTable h hfound hbefore
  obtain ⟨_, start, _, hread⟩ := exists_of_searchFrom hfound
  obtain ⟨_, _, _, _, _, _, hopening⟩ := createTable_eq_some hread
  cases hclosing : closingIndex found.after with
  | none =>
    have hclosing' : closingIndex found'.after = none :=
      (closingFrom_requoted hafter (isOutside_start _)).1.trans hclosing
    simp [readTable, hfound, hfound', hclosing, hclosing']
  | some n =>
    obtain ⟨hclosing', hbody⟩ := body_requoted hafter hopening hclosing
    -- both bodies fall into as many definitions, which pair up as respellings of each other
    have hclauses : List.Forall₂ ClausesSame
        (readBody (String.ofList (normalTableName found.value)) ((found.after.take n).drop 1))
        (readBody (String.ofList (normalTableName found.value))
          ((found'.after.take n).drop 1)) := by
      rw [readBody, readBody, List.forall₂_map_left_iff, List.forall₂_map_right_iff]
      exact (splitCommas_requoted hbody).imp fun _ _ => clausesSame_read _
    have hcolumns := foldColumns_of_same hclauses
    simp only [readTable, hfound, hfound', hclosing, hclosing', ← hpath.normalTableName_eq,
      TableReading.ofClauses, ← hcolumns, Option.map_some, true_and]
    intro hkeys
    rw [eq_of_keysSame (keys_of_same hclauses) fun k hk => hkeys _ rfl k hk]

/-- A statement with four names in some quotes, and one that holds a comma and parentheses in double
quotes. -/
def orderLines (quotes : Char × Char) : List Char :=
  "CREATE TABLE shop.".toList ++ quotes.1 :: ("order lines".toList ++ quotes.2 :: (" (".toList ++
    quotes.1 :: ("id".toList ++ quotes.2 :: (" int PRIMARY KEY, ".toList ++
    '"' :: ("price (net, EUR".toList ++ '"' :: (" numeric(8) NOT NULL, FOREIGN KEY (".toList ++
    quotes.1 :: ("id".toList ++ quotes.2 :: (") REFERENCES ".toList ++
    quotes.1 :: ("orders".toList ++ quotes.2 :: " (no))".toList)))))))))

theorem requoted_orderLines {quotes quotes' : Char × Char} (hquotes : quotes ∈ quotePairs)
    (hquotes' : quotes' ∈ quotePairs) :
    Requoted .noReference (orderLines quotes) (orderLines quotes') := by
  have hname : ∀ name ∈ ["order lines".toList, "id".toList, "orders".toList],
      IsQuotable name ∧ NameRule.noReference.Allows name ∧ IsQuiet name := by decide +kernel
  have hquoted :
      ∀ name ∈ ["order lines".toList, "id".toList, "orders".toList], ∀ {cs ds : List Char},
      Requoted .noReference cs ds →
      Requoted .noReference (quotes.1 :: (name ++ quotes.2 :: cs))
        (quotes'.1 :: (name ++ quotes'.2 :: ds)) :=
    fun name hmem _ _ h =>
      .name hquotes hquotes' (hname name hmem).1 (hname name hmem).2.1
        (.inl (hname name hmem).2.2) h
  have hend : Requoted .noReference " (no))".toList " (no))".toList := by
    have hplain : ∀ c ∈ " (no))".toList, c ∉ ['\'', '"', '\x60', '[', '\\'] := by decide +kernel
    simpa using Requoted.append_plain hplain .nil
  refine .append_plain (by decide +kernel) (hquoted _ (by simp) (.append_plain (by decide +kernel)
    (hquoted _ (by simp) (.append_plain (by decide +kernel) ?_))))
  have hdouble : ('"', '"') ∈ quotePairs := by decide
  refine .name hdouble hdouble (by decide +kernel) (by decide +kernel) (.inr ⟨rfl, rfl⟩) ?_
  exact .append_plain (by decide +kernel) (hquoted _ (by simp) (.append_plain (by decide +kernel)
    (hquoted _ (by simp) hend)))

theorem readTable_requoted_orderLines : (readTable (orderLines ('[', ']'))).value =
    (readTable (orderLines ('"', '"'))).value :=
  (readTable_requoted (requoted_orderLines (by decide) (by decide)) (by decide +kernel)).2
    (by decide +kernel)

/-- A comma in backticks is taken for the end of a definition. -/
example : (readTable "CREATE TABLE \"t\" (`a,b` int)".toList).value ≠
    (readTable "CREATE TABLE \"t\" (\"a,b\" int)".toList).value := by decide +kernel

end SchemaDraft.Script
