import SchemaDraft.Proofs.Script.WrittenColumn
import SchemaDraft.Proofs.Script.WrittenTable

/-!
The grammar of `CREATE TABLE`. A table as it is meant is a name and definitions: columns, and lists
of columns that are a primary key, unique or a foreign key (`TableDraft`). Its meaning is given
without any text (`TableDraft.spec`, `TableDraft.keys`, `TableDraft.notices`), and however the table
is written (`WritesTable`), it is read with this meaning (`readTable_of_writesTable`).
-/

namespace SchemaDraft.Script

open Reader Text

/-! ### Tables as they are meant -/

/-- A definition in the body of a table, as it is meant. -/
inductive Definition where
  | column (column : ColumnDraft)
  | primaryKey (columns : List String)
  | unique (columns : List String)
  | foreignKey (columns : List String) (target : String) (targets : List String)
  deriving Repr, DecidableEq

namespace Definition

/-- The column that a definition is. -/
def column? : Definition → Option ColumnDraft
  | column c => some c
  | _ => none

/-- The columns that a definition puts into the primary key. -/
def primaryKeyColumns : Definition → List String
  | primaryKey columns => columns
  | _ => []

/-- The columns that a definition makes unique. -/
def uniqueColumns : Definition → List String
  | unique columns => columns
  | _ => []

/-- The foreign key of a definition: only a key from one column to one column is one. -/
def key? (table : String) : Definition → Option ForeignKey
  | column c => c.key? table
  | foreignKey [fromColumn] target [toColumn] => some ⟨table, fromColumn, target, toColumn⟩
  | _ => none

/-- The notice of a foreign key that is none. -/
def notice? (table : String) : Definition → Option Notice
  | foreignKey [_] _ [_] => none
  | foreignKey columns target targets => some (.compositeKey table columns target targets)
  | _ => none

end Definition

/-- A table as it is meant: its name and the definitions in its body. -/
structure TableDraft where
  name : String
  definitions : List Definition
  deriving Repr, DecidableEq

namespace TableDraft

/-- The columns in the lists of primary keys. -/
def primaryKeys (t : TableDraft) : List String := t.definitions.flatMap Definition.primaryKeyColumns

/-- The columns in the lists of unique columns. -/
def uniques (t : TableDraft) : List String := t.definitions.flatMap Definition.uniqueColumns

/-- A column of a table: its flags are raised by itself or by the lists of the table, and a primary
key is not null and unique. -/
def columnSpec (t : TableDraft) (c : ColumnDraft) : ColumnSpec :=
  let isPrimaryKey := c.raises .primaryKey || t.primaryKeys.contains c.name
  { name := c.name
    type := (ColumnType.ofText c.type).name
    isPrimaryKey
    isNotNull := c.raises .notNull || isPrimaryKey
    isUnique := c.raises .unique || isPrimaryKey || t.uniques.contains c.name }

/-- The table that is meant. -/
def spec (t : TableDraft) : TableSpec :=
  ⟨t.name, (t.definitions.filterMap Definition.column?).map t.columnSpec⟩

/-- The foreign keys of a table, in order. -/
def keys (t : TableDraft) : List ForeignKey := t.definitions.filterMap (Definition.key? t.name)

/-- What is told of foreign keys that are none. -/
def notices (t : TableDraft) : List Notice := t.definitions.filterMap (Definition.notice? t.name)

end TableDraft

/-! ### Tables as they are written -/

/-- Is this text an identifier after `CONSTRAINT`, with the blanks after it, or nothing? -/
inductive WritesTitle : List Char → Prop
  | none : WritesTitle []
  | name {keyword space text after : List Char} {name : String} : Spells "CONSTRAINT" keyword →
      IsSpace space → WritesName text name → IsSpace after →
      WritesTitle (keyword ++ (space ++ (text ++ after)))

/-- Is this text a way to write a definition? -/
inductive WritesDefinition : List Char → Definition → Prop
  | column {text : List Char} {c : ColumnDraft} : WritesColumn text c →
    WritesDefinition text (.column c)
  | primaryKey {title words gap list : List Char} {columns : List String} : WritesTitle title →
      WritesPhrase ["PRIMARY", "KEY"] words → AllBlank gap → Separated WritesName list columns →
      WritesDefinition (title ++ (words ++ (gap ++ '(' :: (list ++ [')'])))) (.primaryKey columns)
  | unique {title words gap list : List Char} {columns : List String} : WritesTitle title →
      WritesPhrase ["UNIQUE"] words → AllBlank gap → Separated WritesName list columns →
      WritesDefinition (title ++ (words ++ (gap ++ '(' :: (list ++ [')'])))) (.unique columns)
  | foreignKey {title words gap list gap' reference : List Char} {columns targets : List String}
      {target : String} : WritesTitle title → WritesPhrase ["FOREIGN", "KEY"] words →
      AllBlank gap → Separated WritesName list columns → AllBlank gap' →
      WritesReference reference target targets →
      WritesDefinition (title ++ (words ++ (gap ++ '(' :: (list ++ ')' :: (gap' ++ reference)))))
        (.foreignKey columns target targets)

/-- Is this text a way to write the body of a table? -/
inductive WritesBody : List Char → List Definition → Prop
  | empty {body : List Char} : AllBlank body → WritesBody body []
  | definitions {body : List Char} {ds : List Definition} : Separated WritesDefinition body ds →
      WritesBody body ds

/-- Is this text a way to write a table? Anything may follow its body. -/
inductive WritesTable : List Char → TableDraft → Prop
  | intro {lead create space lifetime word space' written path gap body tail : List Char}
      {name : String} {ds : List Definition} : AllBlank lead → Spells "CREATE" create →
      IsSpace space → WritesLifetime lifetime → Spells "TABLE" word → IsSpace space' →
      WritesCondition written → WritesTableName path name → AllBlank gap → WritesBody body ds →
      WritesTable
        (lead ++ (create ++ (space ++ (lifetime ++ (word ++ (space' ++ (written ++ (path ++
        (gap ++ '(' :: (body ++ ')' :: tail)))))))))) ⟨name, ds⟩

/-! ### Definitions -/

/-- What is read of a definition in a table of this name. -/
def Definition.clause (table : String) : Definition → Clause
  | column c => .column c.spec ((c.key? table).map Except.ok)
  | primaryKey columns => .primaryKey columns
  | unique columns => .unique columns
  | foreignKey columns target targets =>
    .foreignKey (ForeignKey.ofColumns table columns target targets)

section WritesDefinition

variable {text rest title : List Char} {d : Definition}

theorem WritesTitle.writesLabel (h : WritesTitle title) : WritesLabel title := by
  cases h with
  | none => exact .none
  | name hkeyword hspace hname hafter =>
    obtain ⟨_, hwrites, _⟩ := hname.exists_writes
    exact .name hkeyword hspace hwrites hafter

theorem WritesTitle.nested (h : WritesTitle title) : Nested false title := by
  cases h with
  | none => exact .nil
  | name hkeyword hspace hname hafter =>
    have hword := (WritesPhrase.last hkeyword).nested (by decide)
    exact hword.append ((Nested.of_blank hspace.blank).append
      (hname.nested.append (.of_blank hafter.blank)))

theorem WritesTitle.starts (h : WritesTitle title) (hrest : Starts isInk rest) :
    Starts isInk (title ++ rest) := by
  cases h with
  | none => exact hrest
  | name hkeyword _ _ _ =>
    rw [List.append_assoc]
    exact hkeyword.starts_ink (by decide)

/-- A title, keywords and a list or a reference make one piece. -/
theorem isPiece_of_words {words : List String} {written back : List Char}
    (htitle : WritesTitle title)
    (hwords : WritesPhrase words written) (hkeywords : ∀ word ∈ words, word ∈ keywords)
    (hnested : Nested false back) (hends : Ends isInk (title ++ (written ++ back))) :
    IsPiece (title ++ (written ++ back)) := by
  have hstarts : Starts isInk (title ++ (written ++ back)) :=
    htitle.starts (starts_isInk_of_isWordChar (hwords.starts hkeywords))
  refine ⟨htitle.nested.append ((hwords.nested hkeywords).append hnested), ⟨?_, ?_⟩, ?_⟩
  · exact fun c hc => by simpa [isInk] using hstarts c hc
  · exact fun c hc => by simpa [isInk] using hends c hc
  · simp [hwords.ne_nil hkeywords]

theorem WritesDefinition.isPiece (h : WritesDefinition text d) : IsPiece text := by
  cases h with
  | column hcolumn => exact hcolumn.isPiece
  | @primaryKey title words gap list _ htitle hwords hgap hlist =>
    have hends := ends_list isInk_closing (title ++ words) gap list
    rw [List.append_assoc] at hends
    exact isPiece_of_words htitle hwords (by decide) (nested_list hgap hlist) hends
  | @unique title words gap list _ htitle hwords hgap hlist =>
    have hends := ends_list isInk_closing (title ++ words) gap list
    rw [List.append_assoc] at hends
    exact isPiece_of_words htitle hwords (by decide) (nested_list hgap hlist) hends
  | @foreignKey title words gap list gap' reference _ _ _ htitle hwords hgap hlist hgap'
      hreference =>
    have hnested : Nested false (gap ++ '(' :: (list ++ ')' :: (gap' ++ reference))) := by
      have hback := (nested_list hgap hlist).append
        ((Nested.of_blank hgap').append hreference.nested)
      simpa only [List.append_assoc, List.cons_append, List.nil_append] using hback
    refine isPiece_of_words htitle hwords (by decide) hnested ?_
    have hends :
        Ends isInk ((title ++ (words ++ (gap ++ '(' :: (list ++ ')' :: gap')))) ++ reference) :=
      ends_append_of_ne_nil hreference.ne_nil (hreference.ends isInk_closing)
    simpa only [List.append_assoc, List.cons_append] using hends

/-- A written definition is read as what it is: no other reader takes it for its own. -/
theorem read_of_writesDefinition (h : WritesDefinition text d) (table : String) :
    Clause.read table text = d.clause table := by
  cases h with
  | column hcolumn => exact read_of_writesColumn hcolumn table
  | @primaryKey title words gap list columns htitle hwords hgap hlist =>
    obtain ⟨first, space, key, rfl, hfirst, hspace, hkey⟩ := hwords.exists_pair
    have hread : primaryKeyClause _ = some (list, []) := primaryKeyClause_append htitle.writesLabel
      hfirst hspace hkey hgap (isList_of_separated hlist)
    simp only [List.append_assoc, Clause.read, hread, columnNameStrings_of_separated hlist]
    rfl
  | @unique title words gap list columns htitle hwords hgap hlist =>
    -- the readers are tried in order: the one for primary keys must fail first
    obtain hword | _ := hwords
    have hlabel := htitle.writesLabel
    have hprimary : primaryKeyClause (title ++ (words ++ (gap ++ '(' :: (list ++ [')'])))) = none :=
      primaryKeyClause_of_clash hlabel (by decide) (by decide) hword (by decide)
    have hread : uniqueClause _ = some (list, []) :=
      uniqueClause_append hlabel hword hgap (isList_of_separated hlist)
    simp only [Clause.read, hprimary, hread, columnNameStrings_of_separated hlist]
    rfl
  | @foreignKey title words gap list gap' written columns targets target htitle hwords hgap hlist
      hgap' hreference =>
    obtain ⟨first, space, key, rfl, hfirst, hspace, hkey⟩ := hwords.exists_pair
    obtain ⟨reference, hreads, hkeyOf⟩ := hreference.read
    have hlabel := htitle.writesLabel
    -- both readers tried before this one fail at the word FOREIGN
    have hprimary : ∀ rest, primaryKeyClause (title ++ (first ++ rest)) = none := fun rest =>
      primaryKeyClause_of_clash hlabel (by decide) (by decide) hfirst (by decide)
    have hunique : ∀ rest, uniqueClause (title ++ (first ++ rest)) = none := fun rest =>
      uniqueClause_of_clash hlabel (by decide) (by decide) hfirst (by decide)
    -- the reference ends the definition, so nothing follows it
    have hend := hreads []
    rw [List.append_nil] at hend
    have hink : Starts isInk (written ++ []) := starts_isInk_of_isWordChar hreference.starts
    rw [List.append_nil] at hink
    have hread := foreignKeyWords_append hfirst hspace hkey hgap (isList_of_separated hlist) hgap'
      hink hend
    have hclause := (bind_of_eq (constraintName_append hlabel (by decide) (by decide) hfirst)
      fun _ => foreignKeyWords).trans hread
    simp only [List.append_assoc, Clause.read, hprimary, hunique, foreignKeyClause, hclause,
      columnNameStrings_of_separated hlist, hkeyOf]
    rfl

end WritesDefinition

/-! ### Meaning -/

namespace Definition

variable {table : String}

theorem column?_clause (d : Definition) :
    (d.clause table).column? = d.column?.map ColumnDraft.spec := by
  cases d <;> rfl

theorem primaryKeyColumns_clause (d : Definition) :
    (d.clause table).primaryKeyColumns = d.primaryKeyColumns := by
  cases d <;> rfl

theorem uniqueColumns_clause (d : Definition) :
    (d.clause table).uniqueColumns = d.uniqueColumns := by
  cases d <;> rfl

/-- A foreign key between two columns is kept. -/
theorem foreignKey?_clause (d : Definition) : (d.clause table).foreignKey? = d.key? table := by
  cases d with
  | column c =>
    show ((c.key? table).map Except.ok).bind Except.toOption = c.key? table
    cases c.key? table <;> rfl
  | primaryKey | unique => rfl
  | foreignKey columns target targets =>
    show (ForeignKey.ofColumns table columns target targets).toOption = _
    rcases columns with _ | ⟨_, _ | ⟨_, _⟩⟩ <;> rcases targets with _ | ⟨_, _ | ⟨_, _⟩⟩ <;> rfl

/-- Of any other foreign key a notice is left. -/
theorem notice?_clause (d : Definition) : (d.clause table).notice? = d.notice? table := by
  cases d with
  | column c =>
    show ((c.key? table).map Except.ok).bind noticeOf? = none
    cases c.key? table <;> rfl
  | primaryKey | unique => rfl
  | foreignKey columns target targets =>
    show noticeOf? (ForeignKey.ofColumns table columns target targets) = _
    rcases columns with _ | ⟨_, _ | ⟨_, _⟩⟩ <;> rcases targets with _ | ⟨_, _ | ⟨_, _⟩⟩ <;> rfl

end Definition

/-- The lists of a table raise the flags of a column. -/
theorem raiseFlags_spec (t : TableDraft) (c : ColumnDraft) :
    raiseFlags t.primaryKeys t.uniques c.spec = t.columnSpec c := by
  simp only [raiseFlags, ColumnDraft.spec, ColumnSpec.make, TableDraft.columnSpec]
  cases c.raises .primaryKey <;> simp

/-- The clauses that are read of a table make the table that is meant. -/
theorem ofClauses_clause (t : TableDraft) :
    TableReading.ofClauses t.name (t.definitions.map (Definition.clause t.name)) =
      ⟨t.spec, t.keys⟩ := by
  have hprimary : (t.definitions.map (Definition.clause t.name)).flatMap Clause.primaryKeyColumns =
      t.primaryKeys := by
    rw [List.flatMap_map]
    exact List.flatMap_congr fun d _ => d.primaryKeyColumns_clause
  have huniques : (t.definitions.map (Definition.clause t.name)).flatMap Clause.uniqueColumns =
      t.uniques := by
    rw [List.flatMap_map]
    exact List.flatMap_congr fun d _ => d.uniqueColumns_clause
  have hcolumns : (t.definitions.map (Definition.clause t.name)).filterMap Clause.column? =
      (t.definitions.filterMap Definition.column?).map ColumnDraft.spec := by
    rw [List.filterMap_map, List.map_filterMap]
    exact List.filterMap_congr fun d _ => d.column?_clause
  have hkeys : (t.definitions.map (Definition.clause t.name)).filterMap Clause.foreignKey? =
      t.keys := by
    rw [List.filterMap_map]
    exact List.filterMap_congr fun d _ => d.foreignKey?_clause
  have hflags : raiseFlags t.primaryKeys t.uniques ∘ ColumnDraft.spec = t.columnSpec :=
    funext (raiseFlags_spec t)
  rw [TableReading.ofClauses, foldColumns, hprimary, huniques, hcolumns, hkeys,
    List.map_map, hflags]
  rfl

theorem notices_clause (t : TableDraft) :
    (t.definitions.map (Definition.clause t.name)).filterMap Clause.notice? = t.notices := by
  rw [List.filterMap_map]
  exact List.filterMap_congr fun d _ => d.notice?_clause

/-! ### Tables -/

section WritesTable

variable {text body cs lead : List Char} {ds : List Definition}

/-- Each written definition of a body is read as one clause. -/
theorem readBody_of_writesBody (h : WritesBody body ds) (name : String) :
    readBody name body = ds.map (Definition.clause name) := by
  cases h with
  | empty hblank =>
    rw [readBody, splitCommas_of_nested (.of_blank hblank), tidy_of_blank hblank]
    rfl
  | definitions hlist =>
    have hpieces := hlist.splitCommas fun _ _ hd => hd.isPiece
    rw [readBody]
    generalize splitCommas body = pieces at hpieces
    clear hlist
    induction hpieces with
    | nil => rfl
    | cons hd _ ih => rw [List.map_cons, List.map_cons, ih, read_of_writesDefinition hd]

theorem WritesBody.nested (h : WritesBody body ds) : Nested true body := by
  cases h with
  | empty hblank => exact .of_blank hblank
  | definitions hlist => exact hlist.nested fun _ _ hd => hd.isPiece

/-- Blanks before a statement do not count. -/
theorem readTable_append_left (hlead : AllBlank lead) : readTable (lead ++ cs) = readTable cs := by
  have hskip : search createTable (lead ++ cs) = (search createTable cs).map fun found =>
      { found with before := lead ++ found.before } := by
    -- no blank starts the word CREATE, so the search moves past all of them
    have hfails : ∀ start c more, lead = start ++ c :: more →
        createTable (c :: (more ++ cs)) = none := by
      intro start c more hsplit
      have hc : isMark c = true := isMark_of_isBlank (hlead c (by simp [hsplit]))
      exact bind_of_none (keyword_eq_none (by decide) (starts_cons.mpr hc)) _
    rw [search, searchFrom_skip (r := fun _ => createTable) hfails,
      searchFrom_const (lead.getLast?.or none), search]
  rw [readTable, readTable, hskip]
  cases search createTable cs <;> rfl

/-- However a table is written, it is read as the table that is meant. -/
theorem readTable_of_writesTable {t : TableDraft} (h : WritesTable text t) :
    readTable text = ⟨some ⟨t.spec, t.keys⟩, t.notices⟩ := by
  cases h with
  | @intro lead create space lifetime word space' written path gap body tail name ds hlead hcreate
      hspace hlifetime hword hspace' hwritten hpath hgap hbody =>
    obtain ⟨target, htarget, hname⟩ := hpath.exists_writesPath
    have hif : condition (path ++ (gap ++ '(' :: (body ++ ')' :: tail))) = none := by
      -- the optional IF NOT EXISTS was written already; a name cannot be taken for another
      have hopens : OpensNoClause (path ++ (gap ++ '(' :: (body ++ ')' :: tail))) :=
        hpath.opensNoClause (starts_isMark_list hgap)
      exact bind_of_none (hopens.phrase_eq_none (by decide) _ _) _
    rw [readTable_append_left hlead,
      readTable_append hcreate hspace hlifetime hword hspace' hwritten
      htarget hif hgap hbody.nested]
    simp only [hname, readBody_of_writesBody hbody]
    exact congrArg₂ _ (congrArg some (ofClauses_clause ⟨name, ds⟩)) (notices_clause ⟨name, ds⟩)

/-- A table with a path before its name, a list for its primary key and a reference to itself. -/
theorem readTable_users :
    readTable (String.toList
        "CREATE TABLE app.[Users] (Id int, boss int REFERENCES users(ID), PRIMARY KEY (id))") =
      ⟨some ⟨⟨"users",
        [⟨"id", "integer", true, true, true⟩, ⟨"boss", "integer", false, false, false⟩]⟩,
          [⟨"users", "boss", "users", "id"⟩]⟩, []⟩ := by
  have hnil := allBlank_nil
  have hblank : AllBlank [' '] := by decide
  have hspace := isSpace_single
  have hspells : ∀ word ∈ keywords, Spells word word.toList := by decide +kernel
  have hname : ∀ (text name : String), IsIdentifier text.toList →
      String.ofList (lower text.toList) = name → WritesName text.toList name :=
    fun text name hid hlower => hlower ▸ hid.writesName
  have hid : ∀ text ∈ ["Id", "ID", "id"], WritesName text.toList "id" := by
    intro text hmem
    refine hname _ _ ?_ ?_ <;> revert text <;> decide +kernel
  have husers : WritesName "users".toList "users" :=
    hname _ _ (by decide +kernel) (by decide +kernel)
  have hboss : WritesName "boss".toList "boss" := hname _ _ (by decide +kernel) (by decide +kernel)
  have hpath : WritesTableName "app.[Users]".toList "users" := by
    have happ : WritesName "app".toList "app" := hname _ _ (by decide +kernel) (by decide +kernel)
    have hquoted :
        WritesName ('[' :: ("Users".toList ++ [']'])) (String.ofList (lower "Users".toList)) :=
      .intro (.quoted (by decide) (by decide) (by decide)) (by decide +kernel)
    have hlower : String.ofList (lower "Users".toList) = "users" := by decide +kernel
    rw [hlower] at hquoted
    exact .dotted happ hnil hnil (.last hquoted)
  have hint : IsTypeText "int".toList :=
    ⟨by decide, by decide, .of_plain (by decide), by decide +kernel⟩
  have hidColumn : WritesColumn "Id int".toList ⟨"id", "int".toList, []⟩ :=
    .intro (hid "Id" (by simp)) hspace hint .nil
  have hlist : ∀ text ∈ ["ID", "id"], Separated WritesName (text.toList ++ []) ["id"] :=
    fun text hmem =>
    .last hnil (hid text (List.mem_cons_of_mem _ hmem)) hnil
  have hreference : WritesReference "REFERENCES users(ID)".toList "users" ["id"] :=
    .intro (hspells "REFERENCES" (by decide)) hspace (.last husers) hnil (hlist "ID" (by simp))
  have hbossColumn : WritesColumn "boss int REFERENCES users(ID)".toList
      ⟨"boss", "int".toList, [.reference "users" "id"]⟩ :=
    .intro hboss hspace hint (.cons hblank (by simp) (.reference hreference) .nil)
  have hkey : WritesDefinition "PRIMARY KEY (id)".toList (.primaryKey ["id"]) :=
    .primaryKey .none (.cons (hspells "PRIMARY" (by decide)) hspace
      (.last (hspells "KEY" (by decide)))) hblank (hlist "id" (by simp))
  have hbody :
      Separated WritesDefinition "Id int, boss int REFERENCES users(ID), PRIMARY KEY (id)".toList
      [.column ⟨"id", "int".toList, []⟩, .column ⟨"boss", "int".toList, [.reference "users" "id"]⟩,
        .primaryKey ["id"]] :=
    .cons hnil (.column hidColumn) hnil
      (.cons hblank (.column hbossColumn) hnil (.last hblank hkey hnil))
  have hwritten : WritesTable
      "CREATE TABLE app.[Users] (Id int, boss int REFERENCES users(ID), PRIMARY KEY (id))".toList
      ⟨"users", _⟩ :=
    .intro hnil (hspells "CREATE" (by decide)) hspace .none
      (hspells "TABLE" (by decide)) hspace .none hpath hblank (.definitions hbody)
  exact readTable_of_writesTable hwritten

end WritesTable

end SchemaDraft.Script
