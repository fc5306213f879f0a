import SchemaDraft.Proofs.Export.RoundTrip
import SchemaDraft.Proofs.Script.ReadNames

/-!
Which drawings of scripts survive being exported and imported again. Among those whose names hold no
opening parenthesis, no start of a block comment and no backslash before a quote, it is exactly the
recoverable ones (`sameContent_redraw_iff`): no double quote in a name, no closing parenthesis in
the name of a column that is in a key, and no two columns of one name in a table of which one is in
the primary key. A list of columns in parentheses is read up to its first closing parenthesis,
quoted or not, and so loses the rest.
-/

namespace SchemaDraft.Export

open Text Script

/-- Do two drawings have the same tables in the same order, and the same relations by name? -/
structure SameContent (s s' : Schema) : Prop where
  specs : s.specs = s'.specs
  relations : ∀ p, p ∈ s.namedRelations ↔ p ∈ s'.namedRelations

/-- Do the names of a drawing leave its statements in one piece? -/
structure IsTame (s : Schema) : Prop where
  tables_opening : ∀ t ∈ s.tables, '(' ∉ t.name.toList
  tables_stars : ∀ t ∈ s.tables, Avoids '/' '*' t.name.toList
  columns_opening : ∀ t ∈ s.tables, ∀ c ∈ t.columns, '(' ∉ c.name.toList
  columns_stars : ∀ t ∈ s.tables, ∀ c ∈ t.columns, Avoids '/' '*' c.name.toList
  columns_open : ∀ t ∈ s.tables, ∀ c ∈ t.columns, IsOpenName c.name.toList

instance (s : Schema) : Decidable (IsTame s) :=
  decidable_of_iff ((∀ t ∈ s.tables, '(' ∉ t.name.toList) ∧
      (∀ t ∈ s.tables, Avoids '/' '*' t.name.toList) ∧
      (∀ t ∈ s.tables, ∀ c ∈ t.columns, '(' ∉ c.name.toList) ∧
      (∀ t ∈ s.tables, ∀ c ∈ t.columns, Avoids '/' '*' c.name.toList) ∧
      ∀ t ∈ s.tables, ∀ c ∈ t.columns, IsOpenName c.name.toList)
    ⟨fun ⟨htables, hstars, hcolumns, hstars', hopen⟩ => ⟨htables, hstars, hcolumns, hstars', hopen⟩,
      fun h => ⟨h.tables_opening, h.tables_stars, h.columns_opening, h.columns_stars,
        h.columns_open⟩⟩

variable {s : Schema}

/-! ### Tables -/

/-- A list keeps its items only one by one. -/
theorem eq_some_of_filterMap_eq_self {α : Type} {f : α → Option α} {as : List α}
    (h : as.filterMap f = as) : ∀ a ∈ as, f a = some a := by
  induction as with
  | nil => simp
  | cons a as ih =>
    obtain ⟨b, hb⟩ := exists_of_length_filterMap (congrArg List.length h) a (by simp)
    rw [List.filterMap_cons_some hb, List.cons.injEq] at h
    obtain ⟨rfl, htail⟩ := h
    intro x hx
    rcases List.mem_cons.mp hx with rfl | hx
    · exact hb
    · exact ih htail x hx

theorem isReadable_of_specs_eq {ids : IdSupply} (hwritable : ∀ t ∈ s.tables, IsWritable t.spec)
    (h : s.specs = (draw (String.ofList (script s)) ids).schema.specs) :
    ∀ t ∈ s.tables, IsReadable t.spec := by
  rw [draw, String.toList_ofList, specs_draw,
    tables_script (isCalmSchema_of_isWritable hwritable)] at h
  intro t ht
  exact (tableBack_iff (hwritable t ht)).mp
    (eq_some_of_filterMap_eq_self h.symm t.spec (List.mem_map.mpr ⟨t, ht, rfl⟩))

/-! ### Relations -/

/-- The columns at the ends of a relation are called as one of the foreign keys says, up to letter
case. -/
theorem exists_key_of_mem_namedRelations (contents : Contents) {ids : IdSupply}
    (hids : Function.Injective ids.label) {k : ForeignKey} {type : String}
    (h : (some k, type) ∈ (contents.draw ids).schema.namedRelations) :
    ∃ k' ∈ contents.keys, lowerName k.fromColumn = lowerName k'.fromColumn ∧
      lowerName k.toColumn = lowerName k'.toColumn := by
  obtain ⟨r, hr, hnamed⟩ := List.mem_map.mp h
  obtain ⟨k', hk', l, hresolve, hsource, htarget, _⟩ := exists_link_of_mem_draw contents hr
  obtain ⟨fromTable, toTable, fromColumn, toColumn, hfromTable, htoTable, hfromColumn, htoColumn,
    rfl⟩ := resolve_eq_ok_iff.mp hresolve
  obtain ⟨hfromColumnMem, hfromName⟩ := mem_of_columnNamed? hfromColumn
  obtain ⟨htoColumnMem, htoName⟩ := mem_of_columnNamed? htoColumn
  have hkey := (idsDiffer_draw contents hids).endKey?_between (mem_of_tableNamed? hfromTable).1
    (mem_of_tableNamed? htoTable).1 hfromColumnMem htoColumnMem
  have hends : endKey? (contents.draw ids).schema.tables r.source r.target = some k :=
    congrArg Prod.fst hnamed
  rw [hsource, htarget] at hends
  -- the key at the ends of the relation is the one that the names make
  obtain rfl := Option.some.inj (hkey.symm.trans hends)
  exact ⟨k', hk', hfromName, htoName⟩

theorem closing_notMem_of_lowerName_eq {name name' : String} (hlower : IsLowerName name)
    (h : lowerName name = lowerName name') (hclosed : ')' ∉ name'.toList) : ')' ∉ name.toList := by
  rw [← hlower, h, lowerName, String.toList_ofList]
  exact fun hmem => hclosed (mem_of_mem_lower (by decide) hmem)

theorem keys_closed_of_relations_eq {ids : IdSupply} (hids : Function.Injective ids.label)
    (hwritable : ∀ t ∈ s.tables, IsWritable t.spec) (hreadable : ∀ t ∈ s.tables, IsReadable t.spec)
    (h : ∀ p ∈ s.namedRelations, p ∈ (draw (String.ofList (script s)) ids).schema.namedRelations) :
    ∀ k ∈ relationKeys s, ')' ∉ k.fromColumn.toList ∧ ')' ∉ k.toColumn.toList := by
  intro k hk
  have hlower : ∀ t ∈ s.tables, ∀ c ∈ t.columns, IsLowerName c.name := fun t ht c hc =>
    (hwritable t ht).draft.columns_lower c.toColumnSpec (List.mem_map.mpr ⟨c, hc, rfl⟩)
  obtain ⟨fromTable, hfromTable, toTable, htoTable, fromColumn, hfromColumn, toColumn, htoColumn,
    hkey⟩ := exists_of_mem_relationKeys hk
  rw [relationKeys_eq_filterMap] at hk
  obtain ⟨⟨_, type⟩, hp, rfl⟩ := List.mem_filterMap.mp hk
  -- the relation comes back, so a key with its columns was read
  obtain ⟨k', hk', hfrom, hto⟩ := exists_key_of_mem_namedRelations _ hids (h _ hp)
  rw [String.toList_ofList] at hk'
  obtain ⟨hfromClosed, htoClosed⟩ := closing_notMem_of_mem_keys hwritable hreadable hk'
  rw [hkey] at hfrom hto ⊢
  exact ⟨closing_notMem_of_lowerName_eq (hlower _ hfromTable _ hfromColumn) hfrom hfromClosed,
    closing_notMem_of_lowerName_eq (hlower _ htoTable _ htoColumn) hto htoClosed⟩

/-! ### Drawings of scripts -/

/-- The tables of a drawing of a script are as their statements need them, if the names are tame. -/
theorem isWritable_of_isTame {text : String} {ids : IdSupply} (h : IsTame (draw text ids).schema) :
    ∀ t ∈ (draw text ids).schema.tables, IsWritable t.spec := by
  intro t ht
  have hmem : t.spec ∈ (Contents.ofScript text.toList).tables := by
    have hspec : t.spec ∈ (draw text ids).schema.specs := List.mem_map.mpr ⟨t, ht, rfl⟩
    rwa [draw, specs_draw] at hspec
  obtain ⟨hname, hcolumns⟩ := isScriptName_of_mem_ofScript hmem
  have hcolumn : ∀ c ∈ t.columns, IsScriptName c.name.toList :=
    fun c hc => hcolumns c.toColumnSpec (List.mem_map.mpr ⟨c, hc, rfl⟩)
  refine ⟨⟨⟨hname.ne_nil, hname.lower_eq, hname.semicolon, h.tables_opening t ht, hname.dashes,
    h.tables_stars t ht⟩, List.forall_mem_map.mpr fun c hc => ?_⟩, isDraft_of_mem_draw ht,
    List.forall_mem_map.mpr (h.columns_open t ht)⟩
  exact ⟨(hcolumn c hc).ne_nil, (hcolumn c hc).lower_eq, (hcolumn c hc).semicolon,
    h.columns_opening t ht c hc, (hcolumn c hc).dashes, h.columns_stars t ht c hc⟩

/-- The drawing of a script, exported and imported again, has the same tables and relations exactly
if it is recoverable. -/
theorem sameContent_redraw_iff (text : String) {ids ids' : IdSupply}
    (hids : Function.Injective ids.label) (hids' : Function.Injective ids'.label)
    (htame : IsTame (draw text ids).schema) :
    SameContent (draw text ids).schema
        (draw (String.ofList (script (draw text ids).schema)) ids').schema ↔
      IsRecoverable (draw text ids).schema := by
  have hwritable := isWritable_of_isTame htame
  constructor
  · intro hsame
    have hreadable := isReadable_of_specs_eq hwritable hsame.specs
    exact ⟨hreadable, keys_closed_of_relations_eq hids' hwritable hreadable fun p hp =>
      (hsame.relations p).mp hp⟩
  · intro hrecover
    have hdiffer := idsDiffer_draw (Contents.ofScript text.toList) hids
    -- relations of a drawn script resolve by the names at their ends
    have hsettled : ∀ r ∈ (draw text ids).schema.relations,
        IsSettled (draw text ids).schema.tables r := by
      intro r hr
      obtain ⟨k, _, l, hresolve, hsource, htarget, htype⟩ := exists_link_of_mem_draw _ hr
      exact isSettled_of_resolve hdiffer hresolve (by rw [Relation.ends, hsource, htarget, htype])
    obtain ⟨hspecs, hrelations⟩ := redraw hwritable hrecover hdiffer hsettled
      (ends_differ_draw (Contents.ofScript text.toList)) hids'
    exact ⟨hspecs.symm, fun p => by rw [hrelations]⟩

/-- A closing parenthesis in a name does no harm outside the keys, and loses a column of the primary
key. -/
theorem sameContent_redraw_closing :
    let kept := "create table [a.b] (`c)d` int, e serial primary key references \"A.B\" (E))"
    let lost := "CREATE TABLE t (\"a)b\" int PRIMARY KEY)"
    SameContent (draw kept IdSupply.tally).schema
        (draw (String.ofList (script (draw kept IdSupply.tally).schema)) IdSupply.tally).schema ∧
      ¬SameContent (draw lost IdSupply.tally).schema
        (draw (String.ofList (script (draw lost IdSupply.tally).schema))
          IdSupply.tally).schema := by
  intro kept lost
  have hids := IdSupply.injective_tally
  constructor
  · exact (sameContent_redraw_iff kept hids hids (by decide +kernel)).mpr (by decide +kernel)
  · intro hsame
    have hrecover := (sameContent_redraw_iff lost hids hids (by decide +kernel)).mp hsame
    exact absurd hrecover (by decide +kernel)

end SchemaDraft.Export
