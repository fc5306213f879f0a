import SchemaDraft.Proofs.Export.Quoted
import SchemaDraft.Proofs.Script.ReadColumns

/-!
An exported script falls apart into the statements it was put together from (`statementsOf_script`),
if its names are calm: they hold no semicolon and no mark of a comment.
-/

namespace SchemaDraft.Export

open Text Script

/-- Is this a name that does not disturb the script around it? -/
structure IsCalm (name : List Char) : Prop where
  ne_nil : name ≠ []
  lower_eq : lower name = name
  semicolon : ';' ∉ name
  opening : '(' ∉ name
  dashes : Avoids '-' '-' name
  stars : Avoids '/' '*' name

/-- Are the names of a table and of its columns calm? -/
structure IsCalmTable (t : TableSpec) : Prop where
  name : IsCalm t.name.toList
  columns : ∀ c ∈ t.columns, IsCalm c.name.toList

/-- Are the names of a foreign key calm? -/
def IsCalmKey (k : ForeignKey) : Prop := ∀ n ∈ keyNames k, IsCalm n

/-! ### Texts of statements -/

/-- The lines in the body of a table. -/
def tableLines (t : TableSpec) : List (List Char) :=
  t.columns.map columnLine ++ primaryKeyLines t.columns

/-- The text in the parentheses of a table. -/
def tableBody (t : TableSpec) : List Char :=
  match tableLines t with
  | [] => []
  | lines => '\n' :: (",\n".toList.intercalate lines ++ ['\n'])

/-- The statement of a table without its semicolon. -/
def tableText (t : TableSpec) : List Char :=
  "CREATE TABLE ".toList ++ (quoteName t.name.toList ++ (" (".toList ++ (tableBody t ++ [')'])))

/-- The statement of a foreign key without its semicolon. -/
def keyText (k : ForeignKey) (name : List Char) : List Char :=
  "ALTER TABLE ".toList ++ (quoteName k.fromTable.toList ++ (" ADD CONSTRAINT ".toList ++
    (quoteName name ++ (" FOREIGN KEY (".toList ++ (quoteName k.fromColumn.toList ++
      (") REFERENCES ".toList ++ (quoteName k.toTable.toList ++ (" (".toList ++
        (quoteName k.toColumn.toList ++ [')'])))))))))

theorem tableStatement_eq (t : TableSpec) : tableStatement t = tableText t ++ [';'] := by
  have hempty : " ();".toList = " (".toList ++ ([')'] ++ [';']) := rfl
  have hopen : " (\n".toList = " (".toList ++ ['\n'] := rfl
  have hclose : "\n);".toList = ['\n'] ++ ([')'] ++ [';']) := rfl
  have hlines : t.columns.map columnLine ++ primaryKeyLines t.columns = tableLines t := rfl
  unfold tableText tableBody tableStatement
  rw [hlines]
  cases tableLines t with
  | nil =>
    rw [hempty]
    simp only [List.append_assoc, List.nil_append]
  | cons line lines =>
    rw [hopen, hclose]
    simp only [List.append_assoc, List.cons_append, List.nil_append]

theorem keyStatement_eq (k : ForeignKey) (name : List Char) :
    keyStatement k name = keyText k name ++ [';'] := by
  have hclose : ");".toList = [')'] ++ [';'] := rfl
  unfold keyText keyStatement
  rw [hclose]
  simp only [List.append_assoc]

/-! ### Quiet texts -/

theorem IsCalm.quiet {name : List Char} (h : IsCalm name) : Quiet false (quoteName name) :=
  quiet_quoteName h.dashes h.stars h.semicolon

/-- No type of the vocabulary disturbs a script. -/
theorem quiet_type : ∀ type ∈ ColumnType.all.map ColumnType.name,
    Quiet false (columnTypeInSql type).toList := by
  decide +kernel

theorem quiet_columnLine {c : ColumnSpec} (hname : IsCalm c.name.toList)
    (htype : c.type ∈ ColumnType.all.map ColumnType.name) : Quiet false (columnLine c) := by
  have hflag : ∀ (b : Bool) (flag : List Char), Quiet false flag →
      Quiet false (if b then flag else []) := by
    intro b flag hflag
    cases b
    · exact quiet_nil
    · exact hflag
  have hindent : Quiet false indentation := by decide
  have hspace : Quiet false [' '] := by decide
  have hnull : Quiet false " NOT NULL".toList := by decide
  have hunique : Quiet false " UNIQUE".toList := by decide
  exact (((hindent.append hname.quiet).append (hspace.append (quiet_type c.type htype))).append
    (hflag _ _ hnull)).append (hflag _ _ hunique)

theorem quiet_primaryKeyLines {columns : List ColumnSpec}
    (h : ∀ c ∈ columns, IsCalm c.name.toList) :
    ∀ line ∈ primaryKeyLines columns, Quiet false line := by
  intro line hline
  rw [primaryKeyLines] at hline
  split at hline
  · exact absurd hline (by simp)
  · obtain rfl := List.mem_singleton.mp hline
    have hopening : Quiet false (indentation ++ "PRIMARY KEY (".toList) := by decide
    have hcomma : Quiet false ", ".toList := by decide
    have hclose : Quiet false [')'] := by decide
    refine (hopening.append (quiet_intercalate hcomma fun piece hpiece => ?_)).append hclose
    obtain ⟨c, hc, rfl⟩ := List.mem_map.mp hpiece
    exact (h c (List.mem_of_mem_filter hc)).quiet

theorem quiet_tableText {t : TableSpec} (hcalm : IsCalmTable t) (hdraft : t.IsDraft) :
    Quiet false (tableText t) := by
  -- a line is that of a column or that of the primary key
  have hlines : ∀ line ∈ tableLines t, Quiet false line := by
    intro line hline
    rcases List.mem_append.mp hline with hline | hline
    · obtain ⟨c, hc, rfl⟩ := List.mem_map.mp hline
      exact quiet_columnLine (hcalm.columns c hc) (hdraft.columns_valid c hc).vocabulary
    · exact quiet_primaryKeyLines hcalm.columns line hline
  have hcreate : Quiet false "CREATE TABLE ".toList := by decide
  have hopen : Quiet false " (".toList := by decide
  have hbody : Quiet false (tableBody t) := by
    rw [tableBody]
    split
    · exact quiet_nil
    · have hnewline : Quiet false ['\n'] := by decide
      have hcomma : Quiet false ",\n".toList := by decide
      exact hnewline.append ((quiet_intercalate hcomma hlines).append hnewline)
  have hclose : Quiet false [')'] := by decide
  exact hcreate.append (hcalm.name.quiet.append (hopen.append (hbody.append hclose)))

theorem IsCalmKey.quiet_name {k : ForeignKey} (h : IsCalmKey k) {name : List Char}
    (hname : IsConstraintName k name) : Quiet false (quoteName name) :=
  quiet_quoteName
    (avoids_constraintName hname (by decide) (by decide) fun n hn => (h n hn).dashes)
    (avoids_constraintName hname (by decide) (by decide) fun n hn => (h n hn).stars)
    fun hmem => (mem_constraintName hname hmem).elim (fun hjoint => absurd hjoint (by decide))
      fun ⟨n, hn, hmem⟩ => (h n hn).semicolon hmem

theorem quiet_keyText {k : ForeignKey} (h : IsCalmKey k) {name : List Char}
    (hname : IsConstraintName k name) : Quiet false (keyText k name) := by
  have halter : Quiet false "ALTER TABLE ".toList := by decide
  have hadd : Quiet false " ADD CONSTRAINT ".toList := by decide
  have hforeign : Quiet false " FOREIGN KEY (".toList := by decide
  have hreferences : Quiet false ") REFERENCES ".toList := by decide
  have hopen : Quiet false " (".toList := by decide
  have hclose : Quiet false [')'] := by decide
  exact halter.append ((h _ (by simp [keyNames])).quiet.append (hadd.append
    ((h.quiet_name hname).append (hforeign.append ((h _ (by simp [keyNames])).quiet.append
      (hreferences.append ((h _ (by simp [keyNames])).quiet.append
        (hopen.append ((h _ (by simp [keyNames])).quiet.append hclose)))))))))

/-! ### The script -/

/-- The foreign keys of a drawing with the names of their constraints. -/
def namedKeys (s : Schema) : List (ForeignKey × List Char) := nameKeysFrom [] (relationKeys s)

/-- Does what texts give add up when they are joined? -/
structure AddsUp {α : Type} (gives : List Char → List α → Prop) : Prop where
  nil : gives [] []
  append : ∀ {cs ds : List Char} {as bs : List α}, gives cs as → gives ds bs →
    gives (cs ++ ds) (as ++ bs)

variable {s : Schema}

section AddsUp

variable {α : Type} {gives : List Char → List α → Prop}

theorem AddsUp.intercalate (h : AddsUp gives) {gap : List Char} (hgap : gives gap [])
    {texts : List (List Char)} {given : List (List α)} (hgives : List.Forall₂ gives texts given) :
    gives (gap.intercalate texts) given.flatten := by
  induction hgives with
  | nil => exact h.nil
  | @cons text first texts more hfirst hmore ih =>
    cases hmore with
    | nil => simpa [List.intercalate] using hfirst
    | cons hnext hmore =>
      rw [List.intercalate_cons_cons, List.flatten_cons]
      have hall := h.append (h.append hfirst hgap) ih
      rwa [List.append_nil] at hall

theorem AddsUp.map (h : AddsUp gives) {gap : List Char} (hgap : gives gap []) {β : Type}
    {bs : List β}
    {text : β → List Char} {given : β → α} (hgives : ∀ b ∈ bs, gives (text b) [given b]) :
    gives (gap.intercalate (bs.map text)) (bs.map given) := by
  have hall : List.Forall₂ gives (bs.map text) (bs.map fun b => [given b]) :=
    List.forall₂_map_left_iff.mpr (List.forall₂_map_right_iff.mpr (List.forall₂_same.mpr hgives))
  have hflatten : (bs.map fun b => [given b]).flatten = bs.map given := by
    rw [← List.flatMap_def, ← List.map_eq_flatMap]
  rw [← hflatten]
  exact h.intercalate hgap hall

/-- What an exported script gives is what its statements give. -/
theorem AddsUp.script (h : AddsUp gives) (hblocks : gives "\n\n".toList [])
    (hlines : gives ['\n'] []) (givenTable : Table → α) (givenKey : ForeignKey × List Char → α)
    (htables : ∀ t ∈ s.tables, gives (tableStatement t.spec) [givenTable t])
    (hkeys : ∀ p ∈ namedKeys s, gives (keyStatement p.1 p.2) [givenKey p]) :
    gives (script s) (s.tables.map givenTable ++ (namedKeys s).map givenKey) := by
  -- the keys are one block, or none without relations
  have hblock : ∃ given, List.Forall₂ gives (keyBlock s) given ∧
      given.flatten = (namedKeys s).map givenKey := by
    have hdef : keyBlock s = match (namedKeys s).map fun p => keyStatement p.1 p.2 with
        | [] => []
        | statements => [['\n'].intercalate statements] := rfl
    rw [hdef]
    have hjoined := h.map hlines hkeys
    cases hnamed : namedKeys s with
    | nil => exact ⟨[], .nil, rfl⟩
    | cons p ps =>
      rw [hnamed] at hjoined
      exact ⟨[_], .cons hjoined .nil, by simp⟩
  obtain ⟨given, hkeyBlock, hgiven⟩ := hblock
  have hall : List.Forall₂ gives ((s.tables.map fun t => tableStatement t.spec) ++ keyBlock s)
      ((s.tables.map fun t => [givenTable t]) ++ given) :=
    List.rel_append (List.forall₂_map_left_iff.mpr (List.forall₂_map_right_iff.mpr
      (List.forall₂_same.mpr htables))) hkeyBlock
  have hflatten : ((s.tables.map fun t => [givenTable t]) ++ given).flatten =
      s.tables.map givenTable ++ (namedKeys s).map givenKey := by
    rw [List.flatten_append, hgiven, ← List.flatMap_def, ← List.map_eq_flatMap]
  have hscript := h.append (h.intercalate hblocks hall) hlines
  rw [hflatten, List.append_nil] at hscript
  rw [Export.script]
  split
  · rename_i hempty
    rw [hempty] at hall
    rw [← hflatten, List.forall₂_nil_left_iff.mp hall]
    exact h.nil
  · exact hscript

end AddsUp

/-! ### Its statements -/

/-- Does a text give these statements, whatever follows it? -/
def Yields (text : List Char) (statements : List (List Char)) : Prop :=
  ∀ rest, splitStatements (text ++ rest) = statements ++ splitStatements rest

theorem addsUp_yields : AddsUp Yields where
  nil := fun _ => rfl
  append := by
    intro cs ds as bs hcs hds rest
    rw [List.append_assoc, hcs, hds, List.append_assoc]

theorem addsUp_quiet {semicolons : Bool} :
    AddsUp fun (text : List Char) (_ : List Unit) => Quiet semicolons text where
  nil := quiet_nil
  append := Quiet.append

theorem yields_gap {gap : List Char} (h : AllBlank gap) : Yields gap [] :=
  fun rest => splitStatements_gap h rest

theorem yields_statement {text : List Char} (hquiet : Quiet false text) (htrimmed : IsTrimmed text)
    (hne : text ≠ []) : Yields (text ++ [';']) [text] := by
  intro rest
  have hsemicolon : ';' ∉ text := fun hmem => absurd (hquiet.semicolon hmem) (by decide)
  rw [List.append_assoc, List.singleton_append, splitStatements_append,
    splitStatements_of_notMem hsemicolon, tidy, List.map_singleton, trim_eq_self htrimmed]
  simp [hne]

theorem isTrimmed_tableText (t : TableSpec) : IsTrimmed (tableText t) ∧ tableText t ≠ [] := by
  obtain ⟨middle, hmiddle⟩ : ∃ middle, tableText t = 'C' :: (middle ++ [')']) := by
    refine ⟨"REATE TABLE ".toList ++ (quoteName t.name.toList ++ (" (".toList ++ tableBody t)), ?_⟩
    rw [List.append_assoc, List.append_assoc, List.append_assoc]
    rfl
  rw [hmiddle]
  exact ⟨isTrimmed_frame (by decide) (by decide) middle, by simp⟩

theorem isTrimmed_keyText (k : ForeignKey) (name : List Char) :
    IsTrimmed (keyText k name) ∧ keyText k name ≠ [] := by
  obtain ⟨middle, hmiddle⟩ : ∃ middle, keyText k name = 'A' :: (middle ++ [')']) := by
    refine ⟨"LTER TABLE ".toList ++ (quoteName k.fromTable.toList ++ (" ADD CONSTRAINT ".toList ++
      (quoteName name ++ (" FOREIGN KEY (".toList ++ (quoteName k.fromColumn.toList ++
        (") REFERENCES ".toList ++ (quoteName k.toTable.toList ++ (" (".toList ++
          quoteName k.toColumn.toList)))))))), ?_⟩
    simp only [List.append_assoc]
    rfl
  rw [hmiddle]
  exact ⟨isTrimmed_frame (by decide) (by decide) middle, by simp⟩

/-- The statements of an exported script. -/
def scriptStatements (s : Schema) : List (List Char) :=
  s.tables.map (fun t => tableText t.spec) ++ (namedKeys s).map fun p => keyText p.1 p.2

/-- Are all names that a drawing is exported with calm? -/
structure IsCalmSchema (s : Schema) : Prop where
  tables : ∀ t ∈ s.tables, IsCalmTable t.spec
  drafts : ∀ t ∈ s.tables, t.spec.IsDraft
  keys : ∀ k ∈ relationKeys s, IsCalmKey k

theorem exists_of_mem_namedKeys {p : ForeignKey × List Char} (h : p ∈ namedKeys s) :
    p.1 ∈ relationKeys s ∧ IsConstraintName p.1 p.2 := by
  refine ⟨?_, isConstraintName_of_mem h⟩
  have hmem : p.1 ∈ (namedKeys s).map Prod.fst := List.mem_map.mpr ⟨p, h, rfl⟩
  rwa [namedKeys, map_fst_nameKeysFrom] at hmem

theorem IsCalmSchema.quiet_tableText (h : IsCalmSchema s) {t : Table} (ht : t ∈ s.tables) :
    Quiet false (tableText t.spec) :=
  Export.quiet_tableText (h.tables t ht) (h.drafts t ht)

theorem IsCalmSchema.quiet_keyText (h : IsCalmSchema s) {p : ForeignKey × List Char}
    (hp : p ∈ namedKeys s) : Quiet false (keyText p.1 p.2) := by
  obtain ⟨hkey, hname⟩ := exists_of_mem_namedKeys hp
  exact Export.quiet_keyText (h.keys p.1 hkey) hname

theorem yields_script (h : IsCalmSchema s) : Yields (script s) (scriptStatements s) := by
  refine addsUp_yields.script (yields_gap (by decide)) (yields_gap (by decide))
    (fun t => tableText t.spec) (fun p => keyText p.1 p.2) (fun t ht => ?_) fun p hp => ?_
  · obtain ⟨htrimmed, hne⟩ := isTrimmed_tableText t.spec
    rw [tableStatement_eq]
    exact yields_statement (h.quiet_tableText ht) htrimmed hne
  · obtain ⟨htrimmed, hne⟩ := isTrimmed_keyText p.1 p.2
    rw [keyStatement_eq]
    exact yields_statement (h.quiet_keyText hp) htrimmed hne

theorem quiet_script (h : IsCalmSchema s) : Quiet true (script s) := by
  have hend : Quiet true [';'] := by decide
  have hgap : Quiet true "\n\n".toList := by decide
  have hnewline : Quiet true ['\n'] := by decide
  refine addsUp_quiet.script hgap hnewline (fun _ => ()) (fun _ => ())
    (fun t ht => ?_) fun p hp => ?_
  · rw [tableStatement_eq]
    exact (h.quiet_tableText ht).weaken.append hend
  · rw [keyStatement_eq]
    exact (h.quiet_keyText hp).weaken.append hend

/-- An exported script falls apart into its statements. -/
theorem statementsOf_script (h : IsCalmSchema s) :
    statementsOf (script s) = scriptStatements s := by
  rw [statementsOf, dropComments_of_quiet (quiet_script h), splitStatements_trim]
  have hall := yields_script h []
  rw [List.append_nil] at hall
  rw [hall]
  simp [splitStatements, piecesAt, tidy]

end SchemaDraft.Export
