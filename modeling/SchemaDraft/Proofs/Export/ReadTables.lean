import SchemaDraft.Proofs.Export.ReadKeys

/-!
The statement of a table, read back. Its body falls apart into its lines; the line of a column is
read as the column without what the key line says (`read_columnText`), and the key line as the list
of the columns of the key (`read_keyLine`).
-/

namespace SchemaDraft.Export

open Text Script Reader

/-! ### Columns -/

/-- What follows the name in the line of a column. -/
def columnTail (type : String) (notNull unique : Bool) : List Char :=
  (columnTypeInSql type).toList ++ ((if notNull then " NOT NULL".toList else []) ++
    (if unique then " UNIQUE".toList else []))

/-- The line of a column without its indentation. -/
def columnText (c : ColumnSpec) : List Char :=
  quoteName c.name.toList ++
    ([' '] ++ columnTail c.type c.isNotNull (c.isUnique && !c.isPrimaryKey))

/-- A column without what the key line of its table says about it. -/
def bareColumn (c : ColumnSpec) : ColumnSpec :=
  ColumnSpec.make c.name c.type false c.isNotNull (c.isUnique && !c.isPrimaryKey)

theorem columnLine_eq (c : ColumnSpec) : columnLine c = indentation ++ columnText c := by
  unfold columnLine columnText columnTail
  simp only [List.append_assoc, List.cons_append, List.nil_append]

/-- What follows the name of a column is plain, and says of the column what it was written for. -/
structure IsFaithfulTail (type : ColumnType) (notNull unique : Bool) (tail : List Char) : Prop where
  ne_nil : tail ≠ []
  trimmed : IsTrimmed tail
  plain : ∀ c ∈ tail, Cursor.isPlain c = true ∧ c ≠ ','
  type_eq : ColumnType.ofText (typeText tail) = type
  primaryKey_eq : hasPhrase ["PRIMARY", "KEY"] tail = false
  notNull_eq : hasPhrase ["NOT", "NULL"] tail = notNull
  unique_eq : hasPhrase ["UNIQUE"] tail = unique

theorem faithful_columnTail_aux : ∀ type ∈ ColumnType.all, ∀ notNull unique : Bool,
    let tail := columnTail type.name notNull unique
    (tail ≠ [] ∧ IsTrimmed tail ∧ ∀ c ∈ tail, Cursor.isPlain c = true ∧ c ≠ ',') ∧
      ColumnType.ofText (typeText tail) = type ∧ hasPhrase ["PRIMARY", "KEY"] tail = false ∧
      hasPhrase ["NOT", "NULL"] tail = notNull ∧ hasPhrase ["UNIQUE"] tail = unique := by
  decide +kernel

theorem faithful_columnTail {type : String} (htype : type ∈ ColumnType.all.map ColumnType.name)
    (notNull unique : Bool) :
    ∃ t : ColumnType, t.name = type ∧
      IsFaithfulTail t notNull unique (columnTail type notNull unique) := by
  obtain ⟨t, ht, rfl⟩ := List.mem_map.mp htype
  obtain ⟨⟨hne, htrimmed, hplain⟩, htypeEq, hprimary, hnull, hunique⟩ :=
    faithful_columnTail_aux t ht notNull unique
  exact ⟨t, rfl, hne, htrimmed, hplain, htypeEq, hprimary, hnull, hunique⟩

section Column

variable {c : ColumnSpec}

theorem plain_columnTail (hvalid : c.IsValid) : ∀ d ∈ [' '] ++
    columnTail c.type c.isNotNull (c.isUnique && !c.isPrimaryKey),
    Cursor.isPlain d = true ∧ d ≠ ',' := by
  obtain ⟨_, _, hfaithful⟩ := faithful_columnTail hvalid.vocabulary c.isNotNull
    (c.isUnique && !c.isPrimaryKey)
  intro d hd
  rcases List.mem_append.mp hd with hd | hd
  · obtain rfl := List.mem_singleton.mp hd
    decide
  · exact hfaithful.plain d hd

theorem isTrimmed_columnText (hvalid : c.IsValid) : IsTrimmed (columnText c) := by
  obtain ⟨_, _, hfaithful⟩ := faithful_columnTail hvalid.vocabulary c.isNotNull
    (c.isUnique && !c.isPrimaryKey)
  refine ⟨fun d hd => ?_, fun d hd => ?_⟩
  · obtain rfl : '"' = d := by simpa [columnText, quoteName] using hd
    decide
  · rw [columnText, ← List.append_assoc, List.getLast?_append_of_ne_nil _ hfaithful.ne_nil] at hd
    exact hfaithful.trimmed.2 d hd

theorem nested_columnText (hvalid : c.IsValid) {commas : Bool}
    (hinside : Avoids '\\' '"' c.name.toList) (hlast : c.name.toList.getLast? ≠ some '\\') :
    Nested commas (columnText c) :=
  (nested_quoteName hinside hlast).append (.of_plain (plain_columnTail hvalid))

theorem opening_notMem_columnText (hvalid : c.IsValid) (hopening : '(' ∉ c.name.toList) :
    '(' ∉ columnText c := by
  refine List.not_mem_append (notMem_quoteName (by decide) hopening) fun hmem => ?_
  exact absurd (plain_columnTail hvalid '(' hmem).1 (by decide)

/-- No column that is written refers to another table. -/
theorem searchWord_columnText (hvalid : c.IsValid) (hopening : '(' ∉ c.name.toList) :
    searchWord references (columnText c) = none := by
  refine searchFrom_eq_none_iff.mpr fun before after hsplit => ?_
  cases hprevious : (before.getLast?.or none).any isWordChar with
  | true => rfl
  | false =>
    cases hread : references after with
    | none => simp [hread]
    | some found =>
      refine absurd ?_ (opening_notMem_columnText hvalid hopening)
      rw [hsplit]
      exact List.mem_append_right _ (opening_mem_of_references hread)

/-- The line of a column whose name holds no double quote is read as the column. -/
theorem readColumn_columnText (hvalid : c.IsValid) (hname : IsCalm c.name.toList)
    (hquote : '"' ∉ c.name.toList) : readColumn (columnText c) = some (bareColumn c) := by
  obtain ⟨type, htype, hfaithful⟩ := faithful_columnTail hvalid.vocabulary c.isNotNull
    (c.isUnique && !c.isPrimaryKey)
  have hink : Starts isInk (columnTail c.type c.isNotNull (c.isUnique && !c.isPrimaryKey)) :=
    fun d hd => by simpa [isInk] using hfaithful.trimmed.1 d hd
  have hread : columnName (columnText c) = some (quoteName c.name.toList,
      [' '] ++ columnTail c.type c.isNotNull (c.isUnique && !c.isPrimaryKey)) := by
    refine firstOf_of_some ?_
    rw [columnText, quoteName, doubleQuotes_of_notMem hquote]
    exact anyQuotedName_append (by simp [quotePairs]) hname.ne_nil hquote
  -- the name ends at its quote, and what follows the blank is the tail
  have hparts : columnParts (columnText c) = some (quoteName c.name.toList,
      columnTail c.type c.isNotNull (c.isUnique && !c.isPrimaryKey)) :=
    columnParts_append hread isSpace_single hfaithful.ne_nil hink (isTrimmed_columnText hvalid)
  rw [readColumn, hparts, Option.map_some]
  simp only [hfaithful.type_eq, hfaithful.primaryKey_eq, hfaithful.notNull_eq, hfaithful.unique_eq,
    htype, normalName_of_writes (writes_quoteName hname.ne_nil hquote), hname.lower_eq,
    String.ofList_toList]
  rfl

/-- The line of a column whose name holds a double quote is not read. -/
theorem readColumn_columnText_quote (hvalid : c.IsValid) (hquote : '"' ∈ c.name.toList) :
    readColumn (columnText c) = none := by
  -- a quoted name ends at the first quote inside, so no blank follows it
  have hread : ∀ text rest, columnName (columnText c) = some (text, rest) → Starts isInk rest := by
    intro text rest hname
    obtain ⟨r, hr, hfound⟩ := exists_of_firstOf hname
    rcases List.mem_cons.mp hr with rfl | hr
    · obtain ⟨s, hs, hquoted⟩ := exists_of_firstOf hfound
      obtain ⟨⟨opening, closing⟩, hquotes, rfl⟩ := List.mem_map.mp hs
      obtain ⟨inner, rfl, hsplit, _, hinner⟩ := quotedName_eq_some hquoted
      obtain ⟨front, back, hfront, hnot⟩ := List.eq_append_cons_of_mem hquote
      rw [columnText, quoteName, hfront, doubleQuotes_append, doubleQuotes_cons_quote,
        doubleQuotes_of_notMem hnot] at hsplit
      simp only [List.cons_append, List.append_assoc, List.nil_append, List.cons.injEq] at hsplit
      obtain ⟨rfl, hsplit⟩ := hsplit
      obtain rfl : closing = '"' := by simpa [quotePairs] using hquotes
      rcases append_cons_cases hnot hsplit with rfl | ⟨more, rfl, _⟩
      · -- the second of two quotes comes next
        obtain ⟨_, hrest⟩ := List.cons.inj (List.append_cancel_left hsplit)
        rw [← hrest]
        exact starts_cons.mpr (by decide)
      · exact absurd (by simp) hinner
    · obtain rfl := List.mem_singleton.mp hr
      exact absurd hfound (by simp [columnText, quoteName, plainName, startsPlainName])
  rw [readColumn, columnParts_eq_none (isTrimmed_columnText hvalid) hread]
  rfl

end Column

/-! ### Keys -/

/-- The columns of the primary key. -/
def keyColumns (columns : List ColumnSpec) : List ColumnSpec := columns.filter (·.isPrimaryKey)

/-- The names in the line of the primary key. -/
def keyList (keys : List ColumnSpec) : List Char :=
  ", ".toList.intercalate (keys.map fun c => quoteName c.name.toList)

/-- The line of the primary key without its indentation. -/
def keyLine (keys : List ColumnSpec) : List Char :=
  "PRIMARY KEY (".toList ++ (keyList keys ++ [')'])

/-- The lines in the body of a table without their indentation. -/
def tableTexts (t : TableSpec) : List (List Char) :=
  t.columns.map columnText ++
    if keyColumns t.columns = [] then [] else [keyLine (keyColumns t.columns)]

theorem tableLines_eq (t : TableSpec) : tableLines t = (tableTexts t).map (indentation ++ ·) := by
  have hcolumns : t.columns.map columnLine = (t.columns.map columnText).map (indentation ++ ·) := by
    rw [List.map_map]
    exact List.map_congr_left fun c _ => columnLine_eq c
  have hkeys : primaryKeyLines t.columns =
      (if keyColumns t.columns = [] then [] else [keyLine (keyColumns t.columns)]).map
        (indentation ++ ·) := by
    rw [primaryKeyLines]
    split
    · rename_i hempty
      have hkeys : keyColumns t.columns = [] := hempty
      rw [if_pos hkeys]
      rfl
    · rename_i hne
      have hkeys : keyColumns t.columns ≠ [] := hne
      rw [if_neg hkeys, List.map_singleton]
      unfold keyLine keyList keyColumns
      simp only [List.append_assoc]
  rw [tableLines, tableTexts, List.map_append, hcolumns, hkeys]

theorem keyList_eq_cons {keys : List ColumnSpec} (hne : keys ≠ []) :
    ∃ tail, keyList keys = '"' :: tail := by
  cases keys with
  | nil => exact absurd rfl hne
  | cons c keys =>
    cases keys with
    | nil => exact ⟨_, by rw [keyList, List.map_singleton, List.intercalate_singleton]; rfl⟩
    | cons d keys =>
      rw [keyList, List.map_cons, List.map_cons, List.intercalate_cons_cons]
      exact ⟨_, rfl⟩

theorem keyLine_eq (keys : List ColumnSpec) : keyLine keys =
    [] ++ ("PRIMARY".toList ++
      ([' '] ++ ("KEY".toList ++ ([' '] ++ '(' :: (keyList keys ++ [')']))))) := by
  have hopening : "PRIMARY KEY (".toList =
      [] ++ ("PRIMARY".toList ++ ([' '] ++ ("KEY".toList ++ ([' '] ++ ['('])))) := rfl
  unfold keyLine
  rw [hopening]
  simp only [List.append_assoc, List.cons_append, List.nil_append]

/-- The key line is read as the list up to its first closing parenthesis. -/
theorem read_keyLine_of_split (table : String) {keys : List ColumnSpec} {list rest : List Char}
    (hlist : IsList list) (hsplit : keyList keys ++ [')'] = list ++ ')' :: rest) :
    Clause.read table (keyLine keys) = .primaryKey (columnNameStrings list) := by
  have hprimary : primaryKeyClause (keyLine keys) = some (list, rest) := by
    have hfirst : Spells "PRIMARY" "PRIMARY".toList := by decide
    have hsecond : Spells "KEY" "KEY".toList := by decide
    have hblank : AllBlank [' '] := by decide
    rw [keyLine_eq, hsplit]
    exact primaryKeyClause_append .none hfirst isSpace_single hsecond hblank hlist
  simp only [Clause.read, hprimary]

/-- However the columns are called, the key line is read as a key, none of whose columns has a
closing parenthesis in its list. -/
theorem exists_read_keyLine (table : String) {keys : List ColumnSpec} (hne : keys ≠ []) :
    ∃ list, IsList list ∧
      Clause.read table (keyLine keys) = .primaryKey (columnNameStrings list) := by
  obtain ⟨tail, htail⟩ := keyList_eq_cons hne
  have hmem : ')' ∈ keyList keys ++ [')'] := by simp
  obtain ⟨list, rest, hsplit, hnot⟩ := List.eq_append_cons_of_mem hmem
  have hlist : list ≠ [] := by
    rintro rfl
    rw [htail] at hsplit
    exact absurd (List.cons.inj hsplit).1 (by decide)
  exact ⟨list, ⟨hlist, hnot⟩, read_keyLine_of_split table ⟨hlist, hnot⟩ hsplit⟩

/-- Is a name of a column written in a way that lists of columns are read by? -/
structure IsListedName (name : List Char) : Prop where
  calm : IsCalm name
  unquoted : '"' ∉ name
  closing : ')' ∉ name
  backslash : name.getLast? ≠ some '\\'

theorem isPiece_quoteName {name : List Char} (hinside : Avoids '\\' '"' name)
    (hlast : name.getLast? ≠ some '\\') : IsPiece (quoteName name) :=
  ⟨nested_quoteName hinside hlast, isTrimmed_frame (by decide) (by decide) _, by simp [quoteName]⟩

theorem notMem_intercalate {a : Char} {gap : List Char} (hgap : a ∉ gap) {pieces : List (List Char)}
    (h : ∀ piece ∈ pieces, a ∉ piece) : a ∉ gap.intercalate pieces := by
  induction pieces with
  | nil => simp
  | cons piece pieces ih =>
    have hrest := ih fun p hp => h p (List.mem_cons_of_mem _ hp)
    cases pieces with
    | nil =>
      rw [List.intercalate_singleton]
      exact h piece (by simp)
    | cons next pieces =>
      rw [List.intercalate_cons_cons]
      exact List.not_mem_append (List.not_mem_append (h piece (by simp)) hgap) hrest

/-- The key line is read as the columns of the key if lists of columns are read by their names. -/
theorem read_keyLine (table : String) {keys : List ColumnSpec} (hne : keys ≠ [])
    (h : ∀ c ∈ keys, IsListedName c.name.toList) :
    Clause.read table (keyLine keys) = .primaryKey (keys.map (·.name)) := by
  obtain ⟨tail, htail⟩ := keyList_eq_cons hne
  have hcomma : ", ".toList = ',' :: [' '] := rfl
  have hgap : ')' ∉ ", ".toList := by decide
  -- the list holds no closing parenthesis, so it ends where the line does
  have hlist : IsList (keyList keys) := by
    refine ⟨by rw [htail]; simp, notMem_intercalate hgap fun piece hpiece => ?_⟩
    obtain ⟨c, hc, rfl⟩ := List.mem_map.mp hpiece
    exact notMem_quoteName (by decide) (h c hc).closing
  have hnames : columnNames (keyList keys) = keys.map fun c => c.name.toList := by
    have hblank : AllBlank [' '] := by decide
    have hpieces : ∀ piece ∈ keys.map fun c => quoteName c.name.toList, IsPiece piece := by
      intro piece hpiece
      obtain ⟨c, hc, rfl⟩ := List.mem_map.mp hpiece
      exact isPiece_quoteName (avoids_of_notMem_right (h c hc).unquoted) (h c hc).backslash
    have hsplit :=
      splitCommas_intercalate allBlank_nil hblank allBlank_nil (by simpa using hne) hpieces
    rw [List.nil_append, List.append_nil, ← hcomma] at hsplit
    rw [columnNames, keyList, hsplit, List.map_map]
    refine List.map_congr_left fun c hc => ?_
    have hcalm := (h c hc).calm
    rw [Function.comp_apply, normalName_of_writes (writes_quoteName hcalm.ne_nil (h c hc).unquoted),
      hcalm.lower_eq]
  rw [read_keyLine_of_split table hlist rfl, columnNameStrings, hnames, List.map_map]
  congr 1
  exact List.map_congr_left fun c _ => String.ofList_toList

/-! ### Tables -/

/-- Does no backslash hide a quote of the name of a column? -/
structure IsOpenName (name : List Char) : Prop where
  inside : Avoids '\\' '"' name
  last : name.getLast? ≠ some '\\'

instance (name : List Char) : Decidable (IsOpenName name) :=
  decidable_of_iff (Avoids '\\' '"' name ∧ name.getLast? ≠ some '\\')
    ⟨fun h => ⟨h.1, h.2⟩, fun h => ⟨h.inside, h.last⟩⟩

/-- A table as the import drafts it, whose statement falls apart into its lines. -/
structure IsWritable (t : TableSpec) : Prop where
  calm : IsCalmTable t
  draft : t.IsDraft
  columns_open : ∀ c ∈ t.columns, IsOpenName c.name.toList

section Table

variable {t : TableSpec}

theorem isPiece_keyLine {keys : List ColumnSpec} (h : ∀ c ∈ keys, IsOpenName c.name.toList) :
    IsPiece (keyLine keys) := by
  have hwords : Nested false ("PRIMARY KEY ".toList) := .of_plain (by decide)
  -- commas inside the parentheses are no cuts
  have hlist : Nested true (keyList keys) := by
    have hblank : AllBlank [' '] := by decide
    refine nested_intercalate hblank fun piece hpiece => ?_
    obtain ⟨c, hc, rfl⟩ := List.mem_map.mp hpiece
    exact nested_quoteName (h c hc).inside (h c hc).last
  have hsplit : keyLine keys = "PRIMARY KEY ".toList ++ '(' :: (keyList keys ++ ')' :: []) := by
    have hopening : "PRIMARY KEY (".toList = "PRIMARY KEY ".toList ++ ['('] := rfl
    unfold keyLine
    rw [hopening, List.append_assoc]
    rfl
  have hframe : keyLine keys = 'P' :: (("RIMARY KEY (".toList ++ keyList keys) ++ [')']) := by
    rw [List.append_assoc]
    rfl
  refine ⟨hsplit ▸ hwords.append (.group hlist .nil), ?_, by rw [hframe]; simp⟩
  rw [hframe]
  exact isTrimmed_frame (by decide) (by decide) _

theorem isPiece_of_mem_tableTexts (h : IsWritable t) : ∀ text ∈ tableTexts t, IsPiece text := by
  intro text htext
  rcases List.mem_append.mp htext with htext | htext
  · obtain ⟨c, hc, rfl⟩ := List.mem_map.mp htext
    obtain ⟨hinside, hlast⟩ := h.columns_open c hc
    have hvalid := h.draft.columns_valid c hc
    exact ⟨nested_columnText hvalid hinside hlast, isTrimmed_columnText hvalid,
      by simp [columnText, quoteName]⟩
  · split at htext
    · exact absurd htext (by simp)
    · obtain rfl := List.mem_singleton.mp htext
      exact isPiece_keyLine fun c hc => h.columns_open c (List.mem_of_mem_filter hc)

theorem intercalate_map_append (separator front : List Char) {pieces : List (List Char)}
    (hne : pieces ≠ []) : separator.intercalate (pieces.map (front ++ ·)) =
      front ++ (separator ++ front).intercalate pieces := by
  induction pieces with
  | nil => exact absurd rfl hne
  | cons piece pieces ih =>
    cases pieces with
    | nil => simp [List.intercalate_singleton]
    | cons next pieces =>
      rw [List.map_cons, List.map_cons, List.intercalate_cons_cons, ← List.map_cons, ih (by simp),
        List.intercalate_cons_cons]
      simp only [List.append_assoc]

/-- The body of a table is its lines with commas and blanks between and around them. -/
theorem tableBody_eq (hne : tableTexts t ≠ []) : tableBody t =
    ('\n' :: indentation) ++
      ((',' :: '\n' :: indentation).intercalate (tableTexts t) ++ ['\n']) := by
  have hlines : tableLines t ≠ [] := by
    rw [tableLines_eq]
    simpa using hne
  have hcomma : ",\n".toList ++ indentation = ',' :: '\n' :: indentation := rfl
  rw [tableBody]
  split
  · rename_i hempty
    exact absurd hempty hlines
  · rw [tableLines_eq, intercalate_map_append _ _ hne, hcomma]
    simp only [List.append_assoc, List.cons_append]

theorem splitCommas_tableBody (h : IsWritable t) : splitCommas (tableBody t) = tableTexts t := by
  by_cases hempty : tableTexts t = []
  · have hlines : tableLines t = [] := by
      rw [tableLines_eq, hempty]
      rfl
    rw [tableBody, hlines, hempty]
    rfl
  · have hgap : AllBlank ('\n' :: indentation) := by decide
    have hend : AllBlank ['\n'] := by decide
    rw [tableBody_eq hempty]
    exact splitCommas_intercalate hgap hgap hend hempty (isPiece_of_mem_tableTexts h)

theorem nested_tableBody (h : IsWritable t) : Nested true (tableBody t) := by
  by_cases hempty : tableTexts t = []
  · have hlines : tableLines t = [] := by
      rw [tableLines_eq, hempty]
      rfl
    rw [tableBody, hlines]
    exact .nil
  · have hgap : AllBlank ('\n' :: indentation) := by decide
    have hend : AllBlank ['\n'] := by decide
    rw [tableBody_eq hempty]
    exact (Nested.of_blank hgap).append ((nested_intercalate hgap fun piece hpiece =>
      (isPiece_of_mem_tableTexts h piece hpiece).nested.weaken).append (.of_blank hend))

/-- What the lines of a table say. -/
def tableClauses (t : TableSpec) : List Clause := (tableTexts t).map (Clause.read t.name)

/-- The statement of a table is read line by line if the name of the table holds no double quote. -/
theorem readTable_tableText (h : IsWritable t) (hquote : '"' ∉ t.name.toList) :
    readTable (tableText t) = ⟨some (.ofClauses t.name (tableClauses t)),
      (tableClauses t).filterMap Clause.notice?⟩ := by
  have hname := h.calm.name
  have hcreate : Spells "CREATE" "CREATE".toList := by decide
  have htable : Spells "TABLE" "TABLE".toList := by decide
  have hblank : AllBlank [' '] := by decide
  -- the name starts with a quote, which is no condition
  have hif : condition (quoteName t.name.toList ++ ([' '] ++ '(' :: (tableBody t ++ ')' :: []))) =
      none := by
    refine bind_of_none ?_ _
    rw [phrase_eq_bind]
    exact bind_of_none (keyword_eq_none (by decide) (starts_isMark_quoteName _ _)) _
  have hopening : "CREATE TABLE ".toList = "CREATE".toList ++ ([' '] ++ ([] ++ ("TABLE".toList ++
      ([' '] ++ [])))) := rfl
  have hopen : " (".toList = [' '] ++ ['('] := rfl
  have htext : tableText t = "CREATE".toList ++ ([' '] ++ ([] ++ ("TABLE".toList ++ ([' '] ++ ([] ++
      (quoteName t.name.toList ++ ([' '] ++ '(' :: (tableBody t ++ ')' :: [])))))))) := by
    unfold tableText
    rw [hopening, hopen]
    simp only [List.append_assoc, List.cons_append, List.nil_append]
  have hbody : readBody t.name (tableBody t) = tableClauses t := by
    rw [readBody, splitCommas_tableBody h, tableClauses]
  rw [htext, readTable_append hcreate isSpace_single .none htable isSpace_single .none
    (.last (writes_quoteName hname.ne_nil hquote)) hif hblank (nested_tableBody h)]
  simp only [hname.lower_eq, String.ofList_toList, hbody]

theorem intercalate_concat (separator : List Char) (pieces : List (List Char)) (last : List Char) :
    ∃ front, separator.intercalate (pieces ++ [last]) = front ++ last ∧
      ∀ c ∈ front, c ∈ separator ∨ ∃ piece ∈ pieces, c ∈ piece := by
  induction pieces with
  | nil => exact ⟨[], by simp [List.intercalate_singleton], by simp⟩
  | cons piece pieces ih =>
    obtain ⟨front, hfront, hchars⟩ := ih
    obtain ⟨next, more, hnext⟩ : ∃ next more, pieces ++ [last] = next :: more :=
      List.exists_cons_of_ne_nil (by simp)
    refine ⟨piece ++ separator ++ front, ?_, fun c hc => ?_⟩
    · rw [List.cons_append, hnext, List.intercalate_cons_cons, ← hnext, hfront]
      simp only [List.append_assoc]
    · rcases List.mem_append.mp hc with hc | hc
      · rcases List.mem_append.mp hc with hc | hc
        · exact .inr ⟨piece, by simp, hc⟩
        · exact .inl hc
      · rcases hchars c hc with hc | ⟨p, hp, hc⟩
        · exact .inl hc
        · exact .inr ⟨p, List.mem_cons_of_mem _ hp, hc⟩

theorem opening_notMem_columns (h : IsWritable t) :
    ∀ text ∈ t.columns.map columnText, '(' ∉ text := by
  intro text htext
  obtain ⟨c, hc, rfl⟩ := List.mem_map.mp htext
  exact opening_notMem_columnText (h.draft.columns_valid c hc) (h.calm.columns c hc).opening

theorem opening_notMem_keyList (h : IsWritable t) : '(' ∉ keyList (keyColumns t.columns) := by
  have hcomma : '(' ∉ ", ".toList := by decide
  refine notMem_intercalate hcomma fun piece hpiece => ?_
  obtain ⟨c, hc, rfl⟩ := List.mem_map.mp hpiece
  exact notMem_quoteName (by decide) (h.calm.columns c (List.mem_of_mem_filter hc)).opening

/-- The one parenthesis that opens in the body of a table is that of the key. -/
theorem exists_of_opening_tableBody (h : IsWritable t) {before rest : List Char}
    (hsplit : tableBody t ++ [')'] = before ++ '(' :: rest) :
    ∃ front, before = front ++ ("PRIMARY".toList ++ " KEY ".toList) := by
  have hgap : '(' ∉ '\n' :: indentation := by decide
  have hcomma : '(' ∉ ',' :: '\n' :: indentation := by decide
  have hcolumns := opening_notMem_columns h
  have hmem : '(' ∈ tableBody t ++ [')'] := by rw [hsplit]; simp
  by_cases hempty : tableTexts t = []
  · have hlines : tableLines t = [] := by
      rw [tableLines_eq, hempty]
      rfl
    rw [tableBody, hlines] at hmem
    exact absurd hmem (by decide)
  · -- columns have no parenthesis, so only the key line can hold one
    rw [tableBody_eq hempty] at hsplit hmem
    by_cases hkeys : keyColumns t.columns = []
    · rw [tableTexts, if_pos hkeys, List.append_nil] at hmem
      exact absurd hmem (List.not_mem_append (List.not_mem_append hgap
        (List.not_mem_append (notMem_intercalate hcomma hcolumns) (by decide))) (by decide))
    · obtain ⟨front, hfront, hchars⟩ := intercalate_concat (',' :: '\n' :: indentation)
        (t.columns.map columnText) (keyLine (keyColumns t.columns))
      have hfrontNot : '(' ∉ front := by
        intro hc
        obtain hc | ⟨piece, hpiece, hc⟩ := hchars '(' hc
        · exact hcomma hc
        · exact hcolumns piece hpiece hc
      have hlist := opening_notMem_keyList h
      have hopening : "PRIMARY KEY (".toList = "PRIMARY".toList ++ (" KEY ".toList ++ ['(']) := rfl
      have hline : keyLine (keyColumns t.columns) = ("PRIMARY".toList ++ " KEY ".toList) ++
          '(' :: (keyList (keyColumns t.columns) ++ [')']) := by
        unfold keyLine
        rw [hopening]
        simp only [List.append_assoc, List.cons_append, List.nil_append]
      rw [tableTexts, if_neg hkeys, hfront, hline] at hsplit
      have hwhole : ('\n' :: indentation) ++ ((front ++ (("PRIMARY".toList ++ " KEY ".toList) ++
          '(' :: (keyList (keyColumns t.columns) ++ [')']))) ++ ['\n']) ++ [')'] =
          ((('\n' :: indentation) ++ front) ++ ("PRIMARY".toList ++ " KEY ".toList)) ++
            '(' :: (keyList (keyColumns t.columns) ++ [')', '\n', ')']) := by
        simp only [List.append_assoc, List.cons_append, List.nil_append]
      rw [hwhole] at hsplit
      have hstart : '(' ∉ (('\n' :: indentation) ++ front) ++
          ("PRIMARY".toList ++ " KEY ".toList) :=
        List.not_mem_append (List.not_mem_append hgap hfrontNot) (by decide)
      rcases append_cons_cases hstart hsplit with rfl | ⟨more, _, hmore⟩
      · exact ⟨_, rfl⟩
      · -- a second one would be in the list or behind it
        have hrest : '(' ∉ keyList (keyColumns t.columns) ++ [')', '\n', ')'] :=
          List.not_mem_append hlist (by decide)
        exact absurd (by rw [hmore]; simp) hrest

/-- The statement of a table whose name holds a double quote creates no table. -/
theorem readTable_tableText_quote (h : IsWritable t) (hquote : '"' ∈ t.name.toList) :
    readTable (tableText t) = ⟨none, []⟩ := by
  have hopen : " (".toList = [' '] ++ ['('] := rfl
  have htext : tableText t = ("CREATE TABLE ".toList ++ (quoteName t.name.toList ++ [' '])) ++
      '(' :: (tableBody t ++ [')']) := by
    unfold tableText
    rw [hopen]
    simp only [List.append_assoc, List.cons_append, List.nil_append]
  have hfront : '(' ∉ "CREATE TABLE ".toList ++ (quoteName t.name.toList ++ [' ']) :=
    List.not_mem_append (by decide) (List.not_mem_append
      (notMem_quoteName (by decide) h.calm.name.opening) (by decide))
  refine readTable_eq_none fun before rest hsplit => ?_
  rw [htext] at hsplit
  rcases append_cons_cases hfront hsplit with rfl | ⟨more, rfl, hmore⟩
  · exact not_endsInName_quote hquote
  · obtain ⟨front, rfl⟩ := exists_of_opening_tableBody h hmore
    rw [← List.cons_append, ← List.append_assoc]
    exact not_endsInName_key isInert_primary

end Table

end SchemaDraft.Export
