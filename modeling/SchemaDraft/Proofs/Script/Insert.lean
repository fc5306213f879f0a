import SchemaDraft.Proofs.Script.Reorder

/-!
Scripts with one more statement. Whether a statement counts is not told by its first word: a table
or a foreign key is read wherever in the statement it is written, inside quotes too. So one more
statement leaves a drawing as it is exactly if it creates no table, and the foreign key that it
adds, if any, finds no ends or connects ends that are connected already (`draw_join_insert`). A
statement in which CREATE and ALTER are spelled nowhere is of this kind, and is passed over.
-/

namespace SchemaDraft.Script

open Reader Text Export

variable {α : Type} {word : String} {statements before after : List (List Char)} {x : List Char}
  {ids ids' : IdSupply}

/-! ### Spelled words -/

/-- Is a keyword spelled somewhere in a text, perhaps inside a word or inside quotes? -/
def Mentions (word : String) (cs : List Char) : Prop := ∃ text, text <:+: cs ∧ Spells word text

theorem Mentions.of_isInfix {cs whole : List Char} (h : Mentions word cs) (hin : cs <:+: whole) :
    Mentions word whole := by
  obtain ⟨text, htext, hspells⟩ := h
  exact ⟨text, htext.trans hin, hspells⟩

/-- A reader that takes a keyword first finds nothing where the keyword is not spelled. -/
theorem search_eq_none_of_not_mentions {r : Reader α} {cs : List Char}
    (hr : ∀ start a rest, r start = some (a, rest) → ∃ left, keyword word start = some ((), left))
    (h : ¬Mentions word cs) : search r cs = none := by
  refine search_eq_none_iff.mpr fun front start hsplit => ?_
  cases hread : r start with
  | none => rfl
  | some found =>
    obtain ⟨left, hkeyword⟩ := hr _ _ _ hread
    obtain ⟨text, rfl, hspells⟩ := keyword_eq_some hkeyword
    exact absurd ⟨text, ⟨front, left, by rw [hsplit, List.append_assoc]⟩, hspells⟩ h

theorem mentions_iff_search {cs : List Char} :
    Mentions word cs ↔ (search (keyword word) cs).isSome := by
  constructor
  · rintro ⟨text, ⟨front, back, rfl⟩, hspells⟩
    rw [Option.isSome_iff_ne_none]
    -- no failed search has a readable keyword at any of its positions
    intro hnone
    have hkeyword := search_eq_none_iff.mp hnone front (text ++ back) (List.append_assoc ..)
    rw [keyword_append hspells] at hkeyword
    exact absurd hkeyword (by simp)
  · intro h
    by_contra hnot
    rw [search_eq_none_of_not_mentions (fun _ _ rest hread => ⟨rest, hread⟩) hnot] at h
    exact absurd h (by simp)

instance (word : String) (cs : List Char) : Decidable (Mentions word cs) :=
  decidable_of_iff _ mentions_iff_search.symm

theorem readTable_of_not_mentions {statement : List Char} (h : ¬Mentions "CREATE" statement) :
    readTable statement = ⟨none, []⟩ := by
  have hfirst : ∀ start a rest, createTable start = some (a, rest) →
      ∃ left, keyword "CREATE" start = some ((), left) := by
    intro start a rest hread
    obtain ⟨_, left, hkeyword, _⟩ := bind_eq_some hread
    exact ⟨left, hkeyword⟩
  rw [readTable, search_eq_none_of_not_mentions hfirst h]

theorem readForeignKey_of_not_mentions {statement : List Char} (h : ¬Mentions "ALTER" statement) :
    readForeignKey statement = ⟨none, []⟩ := by
  have hfirst : ∀ start a rest, alterTable start = some (a, rest) →
      ∃ left, keyword "ALTER" start = some ((), left) := by
    intro start a rest hread
    obtain ⟨r, hr, hafter⟩ := exists_of_firstOf hread
    obtain ⟨opening, _, rfl⟩ := List.mem_map.mp hr
    obtain ⟨_, _, hphrase, _⟩ := bind_eq_some hafter
    obtain ⟨_, left, hkeyword, _⟩ := bind_eq_some hphrase
    exact ⟨left, hkeyword⟩
  rw [readForeignKey, search_eq_none_of_not_mentions hfirst h]

/-! ### What a statement adds -/

/-- The foreign keys that a statement gives; blanks around the statement do not count. -/
def addedKeys (statement : List Char) : List ForeignKey :=
  (readStatement (trim statement)).value.keys

/-- What blank pieces give nothing to can be gathered before they are dropped. -/
theorem flatMap_tidy {f : List Char → List α} (hblank : f [] = []) (pieces : List (List Char)) :
    (tidy pieces).flatMap f = pieces.flatMap fun piece => f (trim piece) := by
  induction pieces with
  | nil => rfl
  | cons piece pieces ih =>
    rw [tidy_cons, List.flatMap_append, ih, List.flatMap_cons]
    by_cases hempty : trim piece = []
    · rw [hempty, hblank]
      simp [tidy, hempty]
    · simp [tidy, hempty]

theorem keys_ofScript_join (h : ∀ st ∈ statements, IsLone st) :
    (Contents.ofScript (join statements)).keys = statements.flatMap addedKeys := by
  have hblank : (readStatement []).value.keys = [] := rfl
  rw [Contents.ofScript, statementsOf_join h, Contents.ofStatements, List.flatMap_map]
  exact flatMap_tidy hblank statements

theorem addedKeys_of_not_mentions (hcreate : ¬Mentions "CREATE" x) (halter : ¬Mentions "ALTER" x) :
    addedKeys x = [] := by
  have hcreate' : ¬Mentions "CREATE" (trim x) := fun h => hcreate (h.of_isInfix (isInfix_trim x))
  have halter' : ¬Mentions "ALTER" (trim x) := fun h => halter (h.of_isInfix (isInfix_trim x))
  have hnone : (readTable (trim x)).value = none := by rw [readTable_of_not_mentions hcreate']
  rw [addedKeys, keys_readStatement hnone, readForeignKey_of_not_mentions halter']
  rfl

theorem createdTable?_of_not_mentions (h : ¬Mentions "CREATE" x) : createdTable? x = none := by
  have htrim : ¬Mentions "CREATE" (trim x) :=
    fun hmentions => h (hmentions.of_isInfix (isInfix_trim x))
  rw [createdTable?, readTable_of_not_mentions htrim, Option.map_none]

/-! ### More keys -/

section Keys

variable {contents contents' : Contents}

theorem specs_eq_map_layout (s : Schema) : s.specs = s.layout.map Prod.fst := by
  rw [Schema.specs, Schema.layout, List.map_map]
  rfl

theorem layout_draw_eq_iff :
    (contents'.draw ids').schema.layout = (contents.draw ids).schema.layout ↔
    contents'.tables = contents.tables := by
  constructor
  · intro h
    rw [← specs_draw contents' ids', ← specs_draw contents ids, specs_eq_map_layout,
      specs_eq_map_layout, h]
  · intro h
    rw [layout_draw, layout_draw, h]

/-- Among the relations of a drawing there is one with the names and the type of a link just if
there is one between the ends of the link. -/
theorem namedLink_mem_iff (hids : Function.Injective ids.label) {k : ForeignKey} {l : Link}
    (hresolve : k.resolve (contents.draw ids).schema.tables = .ok l) :
    namedLink (contents.draw ids).schema.tables l ∈ (contents.draw ids).schema.namedRelations ↔
      ∃ r ∈ (contents.draw ids).schema.relations, r.source = l.source ∧ r.target = l.target := by
  have hdiffer := idsDiffer_draw contents hids
  constructor
  · intro h
    obtain ⟨r, hr, hnamed⟩ := List.mem_map.mp h
    obtain ⟨names, m, hnames, hm, hends⟩ := isSettled_of_mem_draw hids hr
    obtain ⟨names', m', hnames', hm', hends'⟩ :=
      isSettled_of_resolve (r := ⟨"", l.source, l.target, l.cardinality.name⟩) hdiffer hresolve rfl
    have hkeys : endKey? _ r.source r.target = endKey? _ l.source l.target :=
      congrArg Prod.fst hnamed
    obtain rfl : names = names' := Option.some.inj (hnames.symm.trans (hkeys.trans hnames'))
    obtain rfl : m = m' := Except.ok.inj (hm.symm.trans hm')
    have hsame := hends.trans hends'.symm
    exact ⟨r, hr, congrArg Prod.fst hsame, congrArg (fun e => e.2.1) hsame⟩
  · rintro ⟨r, hr, hsource, htarget⟩
    obtain ⟨k', _, l', hresolve', hsource', htarget', htype⟩ := exists_link_of_mem_draw _ hr
    have hsame : l'.sameEnds l :=
      Link.sameEnds_iff.mpr ⟨hsource'.symm.trans hsource, htarget'.symm.trans htarget⟩
    rw [← namedLink_eq_of_sameEnds hdiffer hresolve' hresolve hsame]
    exact List.mem_map.mpr ⟨r, hr, by rw [named, namedLink, hsource', htarget', htype]⟩

/-- More keys make no more relations just if those that find their ends connect what is connected
already. -/
theorem perm_namedRelations_iff (hids : Function.Injective ids.label)
    (hids' : Function.Injective ids'.label)
    (htables : contents'.tables = contents.tables) {added : List ForeignKey}
    (hkeys : ∀ k, k ∈ contents'.keys ↔ k ∈ contents.keys ∨ k ∈ added) :
    (contents'.draw ids').schema.namedRelations.Perm (contents.draw ids).schema.namedRelations ↔
      ∀ k ∈ added, ∀ l, k.resolve (contents.draw ids).schema.tables = .ok l →
        ∃ r ∈ (contents.draw ids).schema.relations, r.source = l.source ∧ r.target = l.target := by
  have hdiffer := idsDiffer_draw contents hids
  have hdiffer' := idsDiffer_draw contents' hids'
  have hnamed : ∀ name, (tableNamed? (contents.draw ids).schema.tables name).map Table.spec =
      (tableNamed? (contents'.draw ids').schema.tables name).map Table.spec := by
    intro name
    have hspecs : (contents.draw ids).schema.specs = (contents'.draw ids').schema.specs := by
      rw [specs_draw, specs_draw, htables]
    rw [Schema.specs, Schema.specs] at hspecs
    rw [spec_tableNamed?, spec_tableNamed?, hspecs]
  constructor
  · -- an added key that resolves is drawn, so its relation must already be among the old ones
    intro hperm k hk l hresolve
    obtain ⟨l', hresolve', hnames, hcardinality⟩ := exists_resolve hdiffer hdiffer' hnamed hresolve
    have hmem :=
      (mem_namedRelations_draw hids').mpr ⟨k, (hkeys k).mpr (.inr hk), l', hresolve', rfl⟩
    rw [namedLink, hnames, hcardinality] at hmem
    exact (namedLink_mem_iff hids hresolve).mp (hperm.subset hmem)
  · -- without repetitions on either side, having the same members is enough
    intro hconnected
    refine (List.perm_ext_iff_of_nodup (nodup_namedRelations_draw contents' hids')
      (nodup_namedRelations_draw contents hids)).mpr fun p => ⟨fun h => ?_, ?_⟩
    · obtain ⟨k, hk, l', hresolve', rfl⟩ := (mem_namedRelations_draw hids').mp h
      obtain ⟨l, hresolve, hnames, hcardinality⟩ :=
        exists_resolve hdiffer' hdiffer (fun name => (hnamed name).symm) hresolve'
      have hlink : namedLink (contents'.draw ids').schema.tables l' =
          namedLink (contents.draw ids).schema.tables l := by
        rw [namedLink, namedLink, hnames, hcardinality]
      rw [hlink]
      rcases (hkeys k).mp hk with hold | hnew
      · exact (mem_namedRelations_draw hids).mpr ⟨k, hold, l, hresolve, rfl⟩
      · exact (namedLink_mem_iff hids hresolve).mpr (hconnected k hnew l hresolve)
    · exact mem_namedRelations_of_mem hids hids' (fun k hk => (hkeys k).mpr (.inl hk)) hnamed

end Keys

/-! ### One more statement -/

theorem isLone_without (h : ∀ st ∈ before ++ x :: after, IsLone st) :
    ∀ st ∈ before ++ after, IsLone st :=
  fun st hst => h st
    (((List.Sublist.refl before).append (List.sublist_cons_self x after)).subset hst)

/-- The tables are those of the other statements, and between them the one that this statement
creates. -/
theorem tables_insert (h : ∀ st ∈ before ++ x :: after, IsLone st) :
    (Contents.ofScript (join (before ++ x :: after))).tables =
      before.filterMap createdTable? ++
        ((createdTable? x).toList ++ after.filterMap createdTable?) := by
  rw [tables_ofScript_join h, List.filterMap_append]
  cases hx : createdTable? x with
  | none => rw [List.filterMap_cons_none hx, Option.toList_none, List.nil_append]
  | some t => rw [List.filterMap_cons_some hx, Option.toList_some, List.singleton_append]

theorem tables_without (h : ∀ st ∈ before ++ x :: after, IsLone st) :
    (Contents.ofScript (join (before ++ after))).tables =
      before.filterMap createdTable? ++ after.filterMap createdTable? := by
  rw [tables_ofScript_join (isLone_without h), List.filterMap_append]

/-- The tables stay the same just if none is added. -/
theorem tables_insert_eq_iff (h : ∀ st ∈ before ++ x :: after, IsLone st) :
    (Contents.ofScript (join (before ++ x :: after))).tables =
      (Contents.ofScript (join (before ++ after))).tables ↔ createdTable? x = none := by
  rw [tables_insert h, tables_without h, List.append_right_inj]
  cases createdTable? x with
  | none => simp
  | some t =>
    simp only [Option.toList_some, List.singleton_append, reduceCtorEq, iff_false]
    exact List.cons_ne_self t _

/-- The keys are those of the other statements and those of this one. -/
theorem keys_insert (h : ∀ st ∈ before ++ x :: after, IsLone st) :
    (Contents.ofScript (join (before ++ x :: after))).keys =
      before.flatMap addedKeys ++ (addedKeys x ++ after.flatMap addedKeys) := by
  rw [keys_ofScript_join h, List.flatMap_append, List.flatMap_cons]

theorem keys_without (h : ∀ st ∈ before ++ x :: after, IsLone st) :
    (Contents.ofScript (join (before ++ after))).keys =
      before.flatMap addedKeys ++ after.flatMap addedKeys := by
  rw [keys_ofScript_join (isLone_without h), List.flatMap_append]

/-- One more statement leaves the tables, their places and the relations of a script as they are,
ids aside, exactly if it creates no table and each key that it adds has no ends among the tables or
ends that are connected already. If CREATE and ALTER are spelled nowhere in it, it is passed over,
whatever its first word is. -/
theorem draw_join_insert (before after : List (List Char)) (x : List Char)
    (h : ∀ st ∈ before ++ x :: after, IsLone st) (hids : Function.Injective ids.label)
    (hids' : Function.Injective ids'.label) :
    let s := (draw (String.ofList (join (before ++ after))) ids).schema
    let s' := (draw (String.ofList (join (before ++ x :: after))) ids').schema
    ((s'.layout = s.layout ∧ s'.namedRelations.Perm s.namedRelations) ↔
      createdTable? x = none ∧ ∀ k ∈ addedKeys x, ∀ l, k.resolve s.tables = .ok l →
        ∃ r ∈ s.relations, r.source = l.source ∧ r.target = l.target) ∧
    (¬Mentions "CREATE" x → ¬Mentions "ALTER" x →
      (draw (String.ofList (join (before ++ x :: after))) ids).schema = s) := by
  intro s s'
  have hs (statements : List (List Char)) (ids : IdSupply) :
      (draw (String.ofList (join statements)) ids).schema =
      ((Contents.ofScript (join statements)).draw ids).schema := by
    rw [draw, String.toList_ofList]
  have hkeys : ∀ k, k ∈ (Contents.ofScript (join (before ++ x :: after))).keys ↔
      k ∈ (Contents.ofScript (join (before ++ after))).keys ∨ k ∈ addedKeys x := by
    intro k
    simp only [keys_insert h, keys_without h, List.mem_append]
    tauto
  simp only [s, s', hs]
  constructor
  · rw [layout_draw_eq_iff, tables_insert_eq_iff h]
    refine and_congr_right fun hx => ?_
    exact perm_namedRelations_iff hids hids' ((tables_insert_eq_iff h).mpr hx) hkeys
  · -- a statement without either word adds neither tables nor keys to what is drawn
    intro hcreate halter
    have htables := (tables_insert_eq_iff h).mpr (createdTable?_of_not_mentions hcreate)
    have hsameKeys : (Contents.ofScript (join (before ++ x :: after))).keys =
        (Contents.ofScript (join (before ++ after))).keys := by
      rw [keys_insert h, keys_without h, addedKeys_of_not_mentions hcreate halter, List.nil_append]
    simp only [Contents.draw, drawTables, htables, hsameKeys]

/-- A statement that stores a text in which a table is created. -/
def storedTable : List Char := "insert into log values ('create table lost (id int)')".toList

/-- A statement that stores a text in which a key is added to a table that is nowhere. -/
def storedKey : List Char :=
  "insert into log values ('alter table lost foreign key (id) references shelf (id)')".toList

/-- A stored table is drawn, a stored key without ends is not, and neither is a remark. -/
theorem draw_join_insert_stored :
    let drawn := fun statements => (draw (String.ofList (join statements)) IdSupply.tally).schema
    let shelf := "create table shelf (id int)".toList
    ¬((drawn [shelf, storedTable]).layout = (drawn [shelf]).layout ∧
        (drawn [shelf, storedTable]).namedRelations.Perm (drawn [shelf]).namedRelations) ∧
      (drawn [shelf, storedKey]).layout = (drawn [shelf]).layout ∧
      (drawn [shelf, storedKey]).namedRelations.Perm (drawn [shelf]).namedRelations ∧
      drawn ["comment on table shelf is 'old'".toList, shelf] = drawn [shelf] := by
  intro drawn shelf
  have hids := IdSupply.injective_tally
  have hstored : ¬createdTable? storedTable = none := by decide +kernel
  have hends : ∀ k ∈ addedKeys storedKey, (k.resolve (drawn [shelf]).tables).toOption = none := by
    decide +kernel
  obtain ⟨htable, -⟩ := draw_join_insert [shelf] [] storedTable (by decide +kernel) hids hids
  obtain ⟨hkey, -⟩ := draw_join_insert [shelf] [] storedKey (by decide +kernel) hids hids
  obtain ⟨-, hremark⟩ :=
    draw_join_insert [] [shelf] "comment on table shelf is 'old'".toList (by decide +kernel)
    hids hids
  have hsame := hkey.mpr ⟨by decide +kernel, fun k hk l hresolve =>
    absurd ((hends k hk).symm.trans (toOption_eq_some_iff.mpr hresolve)) (by simp)⟩
  exact ⟨fun h => hstored (htable.mp h).1, hsame.1, hsame.2,
    hremark (by decide +kernel) (by decide +kernel)⟩

end SchemaDraft.Script
