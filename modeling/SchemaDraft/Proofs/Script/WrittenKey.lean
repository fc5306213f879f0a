import SchemaDraft.Proofs.Script.Search
import SchemaDraft.Proofs.Script.Split
import SchemaDraft.Proofs.Script.WrittenClause
import SchemaDraft.Script.Statement

/-!
A key added to a table, as it is written and as it is read. The words `IF EXISTS` and `ONLY` may
stand before the name of the table, and a name for the key after it, all in any letter case; names
are plain or in quotes, with paths before the names of tables (`WritesKey`). Each of the optional
words could also be a name, and the readings are tried with as many words as possible first: as no
name of the statement is one of its keywords, exactly one of them succeeds (`alterTable_append`),
and gives the names as they are written (`readForeignKey_of_writesKey`).
-/

namespace SchemaDraft.Script

open Reader Text

variable {α : Type} {cs rest text name path table target : List Char} {word : String}

/-! ### What is written -/

/-- The keywords of a statement that adds a key. -/
def keyWords : List String :=
  ["ALTER", "TABLE", "IF", "EXISTS", "ONLY", "ADD", "CONSTRAINT", "FOREIGN", "KEY", "REFERENCES"]

/-- The marks that no name in quotes holds. -/
def nameMarks : List Char := ['"', '\'', '\x60', '[', ']', '(', ')', ',', ';', '\\']

/-- Is this text a way to write a name in such a statement: plain and no keyword of it, or in
quotes? -/
inductive WritesPart : List Char → List Char → Prop
  | plain {name : List Char} : name.head?.any startsPlainName = true →
      (∀ c ∈ name, isPlainNameRest c = true) → (∀ word ∈ keyWords, ¬Spells word name) →
      WritesPart name name
  | quoted {opening closing : Char} {name : List Char} : (opening, closing) ∈ quotePairs →
      name ≠ [] → (∀ c ∈ name, c ∉ nameMarks) → WritesPart (opening :: (name ++ [closing])) name

/-- Is this text a way to write the name of a table, perhaps after a path? -/
inductive WritesParts : List Char → List Char → Prop
  | last {text name : List Char} : WritesPart text name → WritesParts text name
  | dotted {part first before after tail name : List Char} : WritesPart part first →
      AllBlank before → AllBlank after → WritesParts tail name →
      WritesParts (part ++ (before ++ '.' :: (after ++ tail))) name

/-- Is this text `IF EXISTS` with blanks after each word, or nothing? -/
inductive WritesIfExists : List Char → Prop
  | none : WritesIfExists []
  | words {first space second space' : List Char} : Spells "IF" first → IsSpace space →
      Spells "EXISTS" second → IsSpace space' →
      WritesIfExists (first ++ (space ++ (second ++ space')))

/-- Is this text `ONLY` with blanks after it, or nothing? -/
inductive WritesOnly : List Char → Prop
  | none : WritesOnly []
  | word {text space : List Char} : Spells "ONLY" text → IsSpace space → WritesOnly (text ++ space)

/-- Is this text `ADD` with blanks after it and perhaps the name of a constraint, or nothing? -/
inductive WritesAdd : List Char → Prop
  | none : WritesAdd []
  | word {text space label : List Char} : Spells "ADD" text → IsSpace space → WritesLabel label →
      WritesAdd (text ++ (space ++ label))

/-- Is this text the part of a statement from the key on, with these columns of the table and these
of another? -/
inductive WritesKeyWords : List Char → List (List Char) → List Char → List (List Char) → Prop
  | intro {foreign space key gap list gap' references space' path target gap'' list' : List Char}
      {columns targets : List (List Char)} (tail : List Char) : Spells "FOREIGN" foreign →
        IsSpace space →
      Spells "KEY" key → AllBlank gap → Separated WritesPart list columns → AllBlank gap' →
      Spells "REFERENCES" references → IsSpace space' → WritesParts path target → AllBlank gap'' →
      Separated WritesPart list' targets →
      WritesKeyWords (foreign ++ (space ++ (key ++ (gap ++ '(' :: (list ++ ')' :: (gap' ++
        (references ++ (space' ++ (path ++ (gap'' ++ '(' :: (list' ++ ')' :: tail)))))))))))
        columns target targets

/-- Is this text a statement that adds a key from columns of a table to columns of another? -/
inductive WritesKey : List Char → List Char → List (List Char) → List Char → List (List Char) → Prop
  | intro {alter space word space' condition only path table space'' add clause target : List Char}
      {columns targets : List (List Char)} : Spells "ALTER" alter → IsSpace space →
      Spells "TABLE" word → IsSpace space' → WritesIfExists condition → WritesOnly only →
      WritesParts path table → IsSpace space'' → WritesAdd add →
      WritesKeyWords clause columns target targets →
      WritesKey (alter ++ (space ++ (word ++ (space' ++ (condition ++ (only ++ (path ++ (space'' ++
        (add ++ clause))))))))) table columns target targets

/-! ### Names -/

theorem keyWords_keywords : ∀ word ∈ keyWords, word ∈ keywords := by decide +kernel

theorem plain_of_isPlainNameRest {c : Char} (h : isPlainNameRest c = true) :
    Cursor.isPlain c = true ∧ c ≠ ',' := by
  rw [isPlainNameRest, Bool.or_eq_true, beq_iff_eq] at h
  rcases h with hword | rfl
  · exact plain_of_isWordChar hword
  · decide

theorem WritesPart.writes (h : WritesPart text name) : Writes text name := by
  cases h with
  | plain hstarts hchars _ =>
    refine .bare ?_ fun c hc => isBare_of_isPlainNameRest (hchars c hc)
    rintro rfl
    exact absurd hstarts (by simp)
  | quoted hquotes hne hmarks =>
    have hclosing : ∀ quotes ∈ quotePairs, quotes.2 ∈ nameMarks := by decide
    exact .quoted hquotes hne fun hmem => hmarks _ hmem (hclosing _ hquotes)

/-- A written name is one item of a list. -/
theorem WritesPart.isPiece (h : WritesPart text name) : IsPiece text := by
  refine ⟨?_, h.writes.isTrimmed, h.writes.ne_nil⟩
  cases h with
  | plain _ hchars _ => exact .of_plain fun c hc => plain_of_isPlainNameRest (hchars c hc)
  | quoted hquotes _ hmarks =>
    have hinner : ∀ c ∈ name, Cursor.isPlain c = true ∧ c ≠ ',' := by
      intro c hc
      have hnot := hmarks c hc
      simp only [nameMarks, List.mem_cons, List.not_mem_nil, or_false, not_or] at hnot
      simp [Cursor.isPlain, hnot]
    simp only [quotePairs, List.mem_cons, Prod.mk.injEq, List.not_mem_nil, or_false] at hquotes
    -- double quotes open a quoted span; the other marks are plain characters to the scanner
    rcases hquotes with ⟨rfl, rfl⟩ | hquotes
    · refine .quoted (fun hmem => hmarks _ hmem (by decide)) (fun hlast => ?_) .nil
      exact hmarks _ (List.mem_of_getLast? hlast) (by decide)
    · refine .of_plain fun c hc => ?_
      rcases List.mem_cons.mp hc with rfl | hc
      · rcases hquotes with ⟨rfl, rfl⟩ | ⟨rfl, rfl⟩ <;> decide
      rcases List.mem_append.mp hc with hc | hc
      · exact hinner c hc
      · obtain rfl := List.mem_singleton.mp hc
        rcases hquotes with ⟨rfl, rfl⟩ | ⟨rfl, rfl⟩ <;> decide

theorem WritesPart.closing_notMem (h : WritesPart text name) : ')' ∉ text := by
  cases h with
  | plain _ hchars _ => exact fun hmem => absurd (hchars _ hmem) (by decide +kernel)
  | quoted hquotes _ hmarks =>
    have hpair : ∀ quotes ∈ quotePairs, quotes.1 ≠ ')' ∧ quotes.2 ≠ ')' := by decide
    intro hmem
    rcases List.mem_cons.mp hmem with heq | hmem
    · exact (hpair _ hquotes).1 heq.symm
    rcases List.mem_append.mp hmem with hmem | hmem
    · exact hmarks _ hmem (by decide)
    · exact (hpair _ hquotes).2 (List.mem_singleton.mp hmem).symm

/-- No keyword of the statement is read in place of a name: at most its start, and no blank after
it. -/
theorem WritesPart.bind_eq_none (h : WritesPart text name) (hword : word ∈ keyWords)
    (hrest : Starts isMark rest) (f : List Char → Reader α) :
    (keyword word >>= fun _ => blanks >>= f) (text ++ rest) = none := by
  have hkeyword := keyWords_keywords word hword
  cases h with
  | plain _ hchars hnot =>
    cases hread : keyword word (text ++ rest) with
    | none => exact bind_of_none hread _
    | some found =>
      obtain ⟨_, left⟩ := found
      obtain ⟨read, hsplit, hspells⟩ := keyword_eq_some hread
      rw [bind_of_eq hread]
      refine bind_of_none (blanks_eq_none ?_) _
      -- the name is none of the words, so the keyword ends inside it and no blank follows
      rcases List.append_eq_append_iff.mp hsplit with ⟨more, rfl, hmore⟩ | ⟨more, rfl, hmore⟩
      · cases more with
        | nil => exact absurd (by simpa using hspells) (hnot word hword)
        | cons c more =>
          rw [hmore] at hrest
          have hc := starts_cons.mp hrest
          rw [isMark, (hspells.wordChars hkeyword).2 c (by simp)] at hc
          exact absurd hc (by decide)
      · cases more with
        | nil => exact absurd (by simpa using hspells) (hnot word hword)
        | cons c more =>
          rw [hmore]
          exact starts_cons.mpr (isInk_of_isBare (isBare_of_isPlainNameRest (hchars c (by simp))))
  | quoted hquotes _ _ =>
    have hpair : ∀ quotes ∈ quotePairs, isMark quotes.1 = true := by decide +kernel
    exact bind_of_none (keyword_eq_none hkeyword (starts_cons.mpr (hpair _ hquotes))) _

theorem WritesParts.writesPath (h : WritesParts text name) : WritesPath text name := by
  induction h with
  | last hname => exact .last hname.writes
  | dotted hpart hbefore hafter _ ih => exact .dotted hpart.writes hbefore hafter ih

theorem WritesParts.bind_eq_none (h : WritesParts text name) (hword : word ∈ keyWords)
    (hrest : Starts isMark rest) (f : List Char → Reader α) :
    (keyword word >>= fun _ => blanks >>= f) (text ++ rest) = none := by
  cases h with
  | last hname => exact hname.bind_eq_none hword hrest f
  | dotted hpart hbefore _ _ =>
    rw [List.append_assoc, List.append_assoc]
    refine hpart.bind_eq_none hword ?_ f
    exact Starts.append (fun c hc => isMark_of_isBlank (hbefore c hc)) (starts_cons.mpr (by decide))

/-- A name as it is compared. -/
def nameString (name : List Char) : String := String.ofList (lower name)

/-- The columns of a list are found in lower case and without quotes. -/
theorem columnNameStrings_of_parts {list : List Char} {columns : List (List Char)}
    (h : Separated WritesPart list columns) :
    columnNameStrings list = columns.map nameString := by
  have hsame : ∀ {pieces names : List (List Char)}, List.Forall₂ WritesPart pieces names →
      pieces.map normalName = names.map lower := by
    intro pieces names hpieces
    induction hpieces with
    | nil => rfl
    | cons hname _ ih =>
      rw [List.map_cons, List.map_cons, normalName_of_writes hname.writes, ih]
  rw [columnNameStrings, columnNames, hsame (h.splitCommas fun _ _ hname => hname.isPiece),
    List.map_map]
  rfl

theorem isList_of_parts {list : List Char} {columns : List (List Char)}
    (h : Separated WritesPart list columns) : IsList list :=
  ⟨h.ne_nil fun _ _ hname => hname.writes.ne_nil,
    h.notMem (by decide) (by decide) fun _ _ hname => hname.closing_notMem⟩

/-! ### Words before and after the name of the table -/

theorem WritesOnly.starts (h : WritesOnly cs) (hrest : Starts isInk rest) :
    Starts isInk (cs ++ rest) := by
  cases h with
  | none => exact hrest
  | word htext _ =>
    rw [List.append_assoc]
    exact htext.starts_ink (by decide)

theorem WritesIfExists.starts (h : WritesIfExists cs) (hrest : Starts isInk rest) :
    Starts isInk (cs ++ rest) := by
  cases h with
  | none => exact hrest
  | words hfirst _ _ _ =>
    rw [List.append_assoc]
    exact hfirst.starts_ink (by decide)

theorem ifExists_append (h : WritesIfExists cs) (hne : cs ≠ []) (hrest : Starts isInk rest) :
    ifExists (cs ++ rest) = some ((), rest) := by
  cases h with
  | none => exact absurd rfl hne
  | words hfirst hspace hsecond hspace' =>
    simp only [List.append_assoc]
    rw [ifExists, bind_apply, phrase_cons hfirst hspace (hsecond.starts_ink (by decide)),
      phrase_singleton hsecond, Option.bind_some, bind_of_eq (blanks_append hspace' hrest)]
    rfl

theorem onlyWord_append (h : WritesOnly cs) (hne : cs ≠ []) (hrest : Starts isInk rest) :
    onlyWord (cs ++ rest) = some ((), rest) := by
  cases h with
  | none => exact absurd rfl hne
  | word htext hspace =>
    rw [List.append_assoc, onlyWord, bind_of_eq (keyword_append htext),
      bind_of_eq (blanks_append hspace hrest)]
    rfl

/-- `IF EXISTS` is not read where a name stands, with `ONLY` before it or without. -/
theorem ifExists_eq_none {only : List Char} (honly : WritesOnly only)
    (hpath : WritesParts path table)
    (hrest : Starts isMark rest) : ifExists (only ++ (path ++ rest)) = none := by
  refine bind_of_none ?_ _
  cases honly with
  | none =>
    rw [List.nil_append, phrase_eq_bind]
    exact hpath.bind_eq_none (by decide) hrest _
  | word htext _ =>
    rw [List.append_assoc]
    exact phrase_of_clash (by decide) (by decide) htext (by decide)

theorem onlyWord_eq_none (hpath : WritesParts path table) (hrest : Starts isMark rest) :
    onlyWord (path ++ rest) = none := hpath.bind_eq_none (by decide) hrest _

/-- The words that come before the key are read up to it. -/
theorem addWords_append {add foreign : List Char} (hadd : WritesAdd add)
    (hforeign : Spells "FOREIGN" foreign) :
    addWords (add ++ (foreign ++ rest)) = some ((), foreign ++ rest) := by
  cases hadd with
  | none =>
    exact optional_of_none
      (bind_of_none (keyword_of_clash (by decide) (by decide) hforeign (by decide)) _)
  | @word text space label htext hspace hlabel =>
    have hink : Starts isInk (label ++ (foreign ++ rest)) := by
      cases hlabel with
      | none => exact hforeign.starts_ink (by decide)
      | name hkeyword _ _ _ =>
        rw [List.append_assoc]
        exact hkeyword.starts_ink (by decide)
    refine optional_of_some ?_
    simp only [List.append_assoc]
    rw [bind_of_eq (keyword_append htext), bind_of_eq (blanks_append hspace hink)]
    exact constraintName_append hlabel (by decide) (by decide) hforeign

/-! ### The key -/

/-- The key, after the name of the table. -/
def keyOf (table : List Char) : Reader (List Char × List Char × Reference) := do
  let _ ← blanks
  addWords
  let (columns, reference) ← foreignKeyWords
  return (table, columns, reference)

/-- What is read says that some columns of a table refer to some of another. -/
structure NamesKey (table : List Char) (columns : List (List Char)) (target : List Char)
    (targets : List (List Char)) (read : List Char × List Char × Reference) : Prop where
  table_eq : String.ofList (normalTableName read.1) = nameString table
  columns_eq : columnNameStrings read.2.1 = columns.map nameString
  target_eq : String.ofList (normalTableName read.2.2.table) = nameString target
  targets_eq : columnNameStrings read.2.2.columns = targets.map nameString

theorem tableString_of_writesParts (h : WritesParts path table) :
    String.ofList (normalTableName path) = nameString table :=
  congrArg String.ofList (normalTableName_of_writesPath h.writesPath)

theorem WritesKeyWords.exists_foreign {clause : List Char} {columns targets : List (List Char)}
    (h : WritesKeyWords clause columns target targets) :
    ∃ foreign more, clause = foreign ++ more ∧ Spells "FOREIGN" foreign := by
  obtain ⟨_, hforeign, _⟩ := h
  exact ⟨_, _, rfl, hforeign⟩

/-- The part from the key on is read with its names. -/
theorem WritesKeyWords.read {clause : List Char} {columns targets : List (List Char)}
    (h : WritesKeyWords clause columns target targets) (hpath : WritesParts path table) :
    ∃ list reference rest, foreignKeyWords clause = some ((list, reference), rest) ∧
      NamesKey table columns target targets (path, list, reference) := by
  obtain ⟨_, hforeign, hspace, hkey, hgap, hlist, hgap', hreferences, hspace', htarget, hgap'',
      hlist'⟩ := h
  exact ⟨_, _, _, foreignKeyWords_append hforeign hspace hkey hgap (isList_of_parts hlist) hgap'
      (hreferences.starts_ink (by decide)) (references_append hreferences hspace' htarget.writesPath
        hgap'' (isList_of_parts hlist')),
    ⟨tableString_of_writesParts hpath, columnNameStrings_of_parts hlist,
      tableString_of_writesParts htarget, columnNameStrings_of_parts hlist'⟩⟩

/-- The part after the name of the table does not go on that name, and is read up to the key. -/
theorem keyOf_append {space add foreign more : List Char} (hspace : IsSpace space)
    (hadd : WritesAdd add)
    (hforeign : Spells "FOREIGN" foreign) {list : List Char} {reference : Reference}
    (hread : foreignKeyWords (foreign ++ more) = some ((list, reference), rest)) :
    NoDotNext (space ++ (add ++ (foreign ++ more))) ∧
      keyOf path (space ++ (add ++ (foreign ++ more))) = some ((path, list, reference), rest) := by
  have hletter : Starts isWordChar (add ++ (foreign ++ more)) := by
    cases hadd with
    | none => exact hforeign.starts (by decide)
    | word htext _ _ =>
      rw [List.append_assoc]
      exact htext.starts (by decide)
  have hink : Starts isInk (add ++ (foreign ++ more)) :=
    fun c hc => isInk_of_isWordChar (hletter c hc)
  refine ⟨noDotNext_append hspace.blank hink fun c hc => decide_eq_true ?_, ?_⟩
  · rintro rfl
    exact absurd (hletter _ hc) (by decide)
  · rw [keyOf, bind_of_eq (blanks_append hspace hink), bind_of_eq (addWords_append hadd hforeign),
      bind_of_eq hread]
    rfl

/-! ### The statement -/

/-- After `ALTER TABLE` the openings are tried in turn. -/
theorem alterTable_append {alter space word space' : List Char} (halter : Spells "ALTER" alter)
    (hspace : IsSpace space) (hword : Spells "TABLE" word) (hspace' : IsSpace space')
    (hcs : Starts isInk cs) : alterTable (alter ++ (space ++ (word ++ (space' ++ cs)))) =
      firstOf (alterOpenings.map fun opening => opening >>= fun _ => qualifiedName >>= keyOf)
        cs := by
  have hafter : ∀ opening : Reader Unit,
      alterTableAfter opening (alter ++ (space ++ (word ++ (space' ++ cs)))) =
        (opening >>= fun _ => qualifiedName >>= keyOf) cs := by
    intro opening
    have hphrase : phrase ["ALTER", "TABLE"] (alter ++ (space ++ (word ++ (space' ++ cs)))) =
        some ((), space' ++ cs) := by
      rw [phrase_cons halter hspace (hword.starts_ink (by decide))]
      exact phrase_singleton hword
    show (phrase ["ALTER", "TABLE"] >>= fun _ => blanks >>= fun _ => opening >>= fun _ =>
      qualifiedName >>= keyOf) _ = _
    rw [bind_of_eq hphrase, bind_of_eq (blanks_append hspace' hcs)]
  -- every opening is tried behind the same two words, so they come out of the choice
  have hfirst : ∀ openings : List (Reader Unit),
      firstOf (openings.map alterTableAfter) (alter ++ (space ++ (word ++ (space' ++ cs)))) =
        firstOf (openings.map fun opening => opening >>= fun _ => qualifiedName >>= keyOf) cs := by
    intro openings
    induction openings with
    | nil => rfl
    | cons opening openings ih => simp only [List.map_cons, firstOf, hafter, ih]
  exact hfirst alterOpenings

/-- Of the openings, the one that is written is found. -/
theorem firstOf_openings {condition only : List Char} {r : Reader α} {a : α} {left : List Char}
    (hcondition : WritesIfExists condition) (honly : WritesOnly only)
    (hpath : WritesParts path table)
    (hrest : Starts isMark rest) (hread : r (path ++ rest) = some (a, left)) :
    firstOf (alterOpenings.map fun opening => opening >>= fun _ => r)
      (condition ++ (only ++ (path ++ rest))) = some (a, left) := by
  have hink : Starts isInk (path ++ rest) := hpath.writesPath.starts
  show firstOf [(ifExists >>= fun _ => onlyWord) >>= fun _ => r, ifExists >>= fun _ => r,
    onlyWord >>= fun _ => r, pure () >>= fun _ => r] _ = _
  have hname : onlyWord (path ++ rest) = none := onlyWord_eq_none hpath hrest
  -- exactly one of the four openings is written: those tried before it fail
  by_cases hexists : condition = []
  · have hnone : ifExists (only ++ (path ++ rest)) = none := ifExists_eq_none honly hpath hrest
    rw [hexists, List.nil_append, firstOf_of_none (bind_of_none (bind_of_none hnone _) _),
      firstOf_of_none (bind_of_none hnone _)]
    by_cases honce : only = []
    · rw [honce, List.nil_append, firstOf_of_none (bind_of_none hname _)]
      exact firstOf_of_some hread
    · exact firstOf_of_some ((bind_of_eq (onlyWord_append honly honce hink) _).trans hread)
  · have hsome := ifExists_append hcondition hexists (honly.starts hink)
    by_cases honce : only = []
    · subst honce
      rw [firstOf_of_none (bind_of_none ((bind_of_eq hsome _).trans hname) _)]
      exact firstOf_of_some ((bind_of_eq hsome _).trans hread)
    · have hboth := (bind_of_eq hsome fun _ => onlyWord).trans (onlyWord_append honly honce hink)
      exact firstOf_of_some ((bind_of_eq hboth _).trans hread)

/-- The statement is read with its names. -/
theorem alterTable_of_writesKey {statement : List Char} {columns targets : List (List Char)}
    (h : WritesKey statement table columns target targets) :
    ∃ read rest, alterTable statement = some (read, rest) ∧
      NamesKey table columns target targets read := by
  obtain ⟨halter, hspace, hword, hspace', hcondition, honly, hpath, hspace'', hadd, hclause⟩ := h
  obtain ⟨list, reference, rest, hwords, hnames⟩ := hclause.read hpath
  obtain ⟨foreign, more, rfl, hforeign⟩ := hclause.exists_foreign
  obtain ⟨hdot, hkey⟩ := keyOf_append hspace'' hadd hforeign hwords
  refine ⟨_, rest, ?_, hnames⟩
  have hname :=
    (bind_of_eq (qualifiedName_append hpath.writesPath (starts_isBreak_of_space hspace'') hdot)
    keyOf).trans hkey
  have hopenings := firstOf_openings hcondition honly hpath hspace''.starts_isMark hname
  exact (alterTable_append halter hspace hword hspace'
    (hcondition.starts (honly.starts hpath.writesPath.starts))).trans hopenings

/-- A written key between single columns is read with its names in lower case; a key of several
columns is dropped, and this is told. -/
theorem readForeignKey_of_writesKey {statement : List Char} {columns targets : List (List Char)}
    (h : WritesKey statement table columns target targets) :
    (∀ column referred, columns = [column] → targets = [referred] → readForeignKey statement =
      ⟨some ⟨nameString table, nameString column, nameString target, nameString referred⟩, []⟩) ∧
    (columns.length ≠ 1 ∨ targets.length ≠ 1 → readForeignKey statement =
      ⟨none, [.compositeKey (nameString table) (columns.map nameString) (nameString target)
        (targets.map nameString)]⟩) := by
  obtain ⟨⟨path, list, reference⟩, rest, hread, hnames⟩ := alterTable_of_writesKey h
  have hkey : reference.key (String.ofList (normalTableName path)) (columnNameStrings list) =
      ForeignKey.ofColumns (nameString table) (columns.map nameString) (nameString target)
        (targets.map nameString) := by
    rw [Reference.key, hnames.table_eq, hnames.columns_eq, hnames.target_eq, hnames.targets_eq]
  constructor
  · rintro column referred rfl rfl
    have hmade : reference.key (String.ofList (normalTableName path)) (columnNameStrings list) =
        .ok ⟨nameString table, nameString column, nameString target, nameString referred⟩ := hkey
    simp only [readForeignKey, search_of_read hread, hmade]
  · intro hlength
    -- the key is dropped unless both lists hold one name
    have hdropped : ForeignKey.ofColumns (nameString table) (columns.map nameString)
        (nameString target) (targets.map nameString) = .error (.compositeKey (nameString table)
          (columns.map nameString) (nameString target) (targets.map nameString)) := by
      unfold ForeignKey.ofColumns
      split
      · rename_i hcolumns htargets
        have hcolumn : columns.length = 1 := by simpa using congrArg List.length hcolumns
        have htarget : targets.length = 1 := by simpa using congrArg List.length htargets
        omega
      · rfl
    simp only [readForeignKey, search_of_read hread, hkey, hdropped]

/-- A key with all optional words and names of each kind, and one of two columns. -/
theorem readForeignKey_of_writesKey_orderLines :
    readForeignKey ("Alter table if exists only shop . [Order Lines] add constraint k ".toList ++
        "foreign key(`Shelf.No`)references shelf ( id ) on delete cascade".toList) =
      ⟨some ⟨"order lines", "shelf.no", "shelf", "id"⟩, []⟩ ∧
    readForeignKey "alter table shelf foreign key (id,no) references shop (id)".toList =
      ⟨none, [.compositeKey "shelf" ["id", "no"] "shop" ["id"]]⟩ := by
  have hplain : ∀ name ∈ ["shop", "shelf", "id", "no"], WritesPart name.toList name.toList := by
    have hchars : ∀ name ∈ ["shop", "shelf", "id", "no"],
        name.toList.head?.any startsPlainName = true ∧
        (∀ c ∈ name.toList, isPlainNameRest c = true) ∧
          ∀ word ∈ keyWords, ¬Spells word name.toList := by
      decide +kernel
    exact fun name hname => .plain (hchars name hname).1 (hchars name hname).2.1
      (hchars name hname).2.2
  have hlines : WritesPart ('[' :: ("Order Lines".toList ++ [']'])) "Order Lines".toList :=
    .quoted (by decide) (by decide) (by decide)
  have hnumber : WritesPart ('\x60' :: ("Shelf.No".toList ++ ['\x60'])) "Shelf.No".toList :=
    .quoted (by decide) (by decide) (by decide)
  have hword : ∀ p ∈ [("ALTER", "alter"), ("ALTER", "Alter"), ("TABLE", "table"), ("IF", "if"),
      ("EXISTS", "exists"), ("ONLY", "only"), ("ADD", "add"), ("CONSTRAINT", "constraint"),
      ("FOREIGN", "foreign"), ("KEY", "key"), ("REFERENCES", "references")],
      Spells p.1 p.2.toList := by
    decide +kernel
  have hspace : IsSpace [' '] := isSpace_single
  have hgap : AllBlank [] ∧ AllBlank [' '] := ⟨allBlank_nil, hspace.blank⟩
  have hk : Writes "k".toList "k".toList := .bare (by decide) (by decide +kernel)
  have hkeyWords : WritesKeyWords _ ["Shelf.No".toList] "shelf".toList ["id".toList] :=
    .intro " on delete cascade".toList (hword ("FOREIGN", "foreign") (by decide)) hspace
      (hword ("KEY", "key") (by decide)) hgap.1 (.last hgap.1 hnumber hgap.1) hgap.1
      (hword ("REFERENCES", "references") (by decide)) hspace
        (.last (hplain "shelf" (by decide))) hgap.2
      (.last hgap.2 (hplain "id" (by decide)) hgap.2)
  have hkeyWords' : WritesKeyWords _ ["id".toList, "no".toList] "shop".toList ["id".toList] :=
    .intro [] (hword ("FOREIGN", "foreign") (by decide)) hspace
      (hword ("KEY", "key") (by decide)) hgap.2
      (.cons hgap.1 (hplain "id" (by decide)) hgap.1
        (.last hgap.1 (hplain "no" (by decide)) hgap.1)) hgap.2
      (hword ("REFERENCES", "references") (by decide)) hspace
        (.last (hplain "shop" (by decide))) hgap.2
      (.last hgap.1 (hplain "id" (by decide)) hgap.1)
  have hkey : WritesKey _ "Order Lines".toList ["Shelf.No".toList] "shelf".toList ["id".toList] :=
    .intro (hword ("ALTER", "Alter") (by decide)) hspace
      (hword ("TABLE", "table") (by decide)) hspace
      (.words (hword ("IF", "if") (by decide)) hspace
        (hword ("EXISTS", "exists") (by decide)) hspace)
      (.word (hword ("ONLY", "only") (by decide)) hspace)
      (.dotted (hplain "shop" (by decide)) hgap.2 hgap.2 (.last hlines)) hspace
      (.word (hword ("ADD", "add") (by decide)) hspace
        (.name (hword ("CONSTRAINT", "constraint") (by decide)) hspace hk hspace)) hkeyWords
  have hkey' : WritesKey _ "shelf".toList ["id".toList, "no".toList] "shop".toList ["id".toList] :=
    .intro (hword ("ALTER", "alter") (by decide)) hspace
      (hword ("TABLE", "table") (by decide)) hspace
      .none .none (.last (hplain "shelf" (by decide))) hspace .none hkeyWords'
  have hread := (readForeignKey_of_writesKey hkey).1 _ _ rfl rfl
  have hread' := (readForeignKey_of_writesKey hkey').2 (.inl (by decide))
  have hnames : nameString "Order Lines".toList = "order lines" ∧
      nameString "Shelf.No".toList = "shelf.no" ∧ nameString "shelf".toList = "shelf" ∧
      nameString "id".toList = "id" ∧ nameString "no".toList = "no" ∧
      nameString "shop".toList = "shop" := by decide +kernel
  simp only [List.map_cons, List.map_nil, hnames] at hread hread'
  exact ⟨(congrArg readForeignKey (by decide +kernel)).trans hread,
    (congrArg readForeignKey (by decide +kernel)).trans hread'⟩

end SchemaDraft.Script
