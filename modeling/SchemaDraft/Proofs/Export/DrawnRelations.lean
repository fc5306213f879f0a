import SchemaDraft.Proofs.Export.NamedRelations
import SchemaDraft.Proofs.Script.WellFormed

/-!
The drawing of a script, its ids left out. The tables, with their places, are those that the
statements give (`specs_draw`, `layout_draw`). The relations, by names, are the foreign keys that
find their ends, each once, whichever of several keys between the same ends is read first
(`mem_namedRelations_draw`, `nodup_namedRelations_draw`). So keys in another order make the same
relations as long as names find the same tables (`perm_namedRelations_draw`).
-/

namespace SchemaDraft

/-- The tables of a drawing with their places, without ids. -/
def Schema.layout (s : Schema) : List (TableSpec × Position) :=
  s.tables.map fun t => (t.spec, t.position)

/-- The tables and places of a grid. -/
theorem Canvas.layout_placeFrom (index : Nat) (ts : List Table) :
    (placeFrom index ts).map (fun t => (t.spec, t.position)) =
      ((ts.map Table.spec).zipIdx index).map fun p => (p.1, gridPosition p.2) := by
  induction ts generalizing index with
  | nil => rfl
  | cons t ts ih =>
    rw [placeFrom, List.map_cons, List.map_cons, List.zipIdx_cons, List.map_cons, ih]
    rfl

namespace Export

open Script

variable {tables : List Table} {contents contents' : Contents} {ids ids' : IdSupply}

/-! ### Tables -/

theorem idsDiffer_draw (contents : Contents) (hids : Function.Injective ids.label) :
    IdsDiffer (contents.draw ids).schema.tables :=
  idsDiffer_of_nodup (List.nodup_append.mp (nodup_ids_draw contents hids)).1

theorem specs_draw (contents : Contents) (ids : IdSupply) :
    (contents.draw ids).schema.specs = contents.tables :=
  spec_mintTables contents.tables ids

theorem layout_draw (contents : Contents) (ids : IdSupply) :
    (contents.draw ids).schema.layout =
      contents.tables.zipIdx.map fun p => (p.1, Canvas.gridPosition p.2) := by
  have hplaced :=
    Canvas.layout_placeFrom 0 (mintAll (TableSpec.mintAt unplaced) contents.tables ids).1
  rwa [map_mintAll Table.spec id (spec_mintAt unplaced), List.map_id] at hplaced

/-! ### Relations -/

/-- Links of keys that connect the same ends agree in everything. -/
theorem namedLink_eq_of_sameEnds (hids : IdsDiffer tables) {k k' : ForeignKey} {l l' : Link}
    (h : k.resolve tables = .ok l) (h' : k'.resolve tables = .ok l') (hsame : l.sameEnds l') :
    namedLink tables l = namedLink tables l' := by
  obtain ⟨hsource, htarget⟩ := Link.sameEnds_iff.mp hsame
  have hsettled :=
    isSettled_of_resolve (r := ⟨"", l.source, l.target, l.cardinality.name⟩) hids h rfl
  have hsettled' :=
    isSettled_of_resolve (r := ⟨"", l'.source, l'.target, l'.cardinality.name⟩) hids h' rfl
  obtain ⟨names, m, hnames, hresolve, hends⟩ := hsettled
  obtain ⟨names', m', hnames', hresolve', hends'⟩ := hsettled'
  simp only [hsource, htarget] at hnames
  -- the same ends have the same names, and these resolve in one way
  obtain rfl : names = names' := Option.some.inj (hnames.symm.trans hnames')
  obtain rfl : m = m' := Except.ok.inj (hresolve.symm.trans hresolve')
  have htypes : l.cardinality.name = l'.cardinality.name :=
    congrArg (fun e : Endpoint × Endpoint × String => e.2.2) (hends.trans hends'.symm)
  rw [namedLink, namedLink, hsource, htarget, htypes]

theorem isSettled_of_mem_draw (hids : Function.Injective ids.label) {r : Relation}
    (hr : r ∈ (contents.draw ids).schema.relations) :
    IsSettled (contents.draw ids).schema.tables r := by
  obtain ⟨k, _, l, hresolve, hsource, htarget, htype⟩ := exists_link_of_mem_draw _ hr
  exact isSettled_of_resolve (idsDiffer_draw contents hids) hresolve
    (by rw [Relation.ends, hsource, htarget, htype])

/-- No two relations of a script have the same names at their ends. -/
theorem nodup_namedRelations_draw (contents : Contents) (hids : Function.Injective ids.label) :
    (contents.draw ids).schema.namedRelations.Nodup :=
  (pairwise_named (fun _ hr => isSettled_of_mem_draw hids hr) (ends_differ_draw contents)).imp
    fun hnames heq => hnames (congrArg Prod.fst heq)

/-- The relations of a script are the foreign keys that find their ends, whatever their order. -/
theorem mem_namedRelations_draw (hids : Function.Injective ids.label)
    {p : Option ForeignKey × String} : p ∈ (contents.draw ids).schema.namedRelations ↔
      ∃ k ∈ contents.keys, ∃ l, k.resolve (contents.draw ids).schema.tables = .ok l ∧
        namedLink (contents.draw ids).schema.tables l = p := by
  have hdiffer := idsDiffer_draw contents hids
  constructor
  · intro h
    obtain ⟨r, hr, rfl⟩ := List.mem_map.mp h
    obtain ⟨k, hk, l, hresolve, hsource, htarget, htype⟩ := exists_link_of_mem_draw _ hr
    exact ⟨k, hk, l, hresolve, by rw [namedLink, named, hsource, htarget, htype]⟩
  · rintro ⟨k, hk, l, hresolve, rfl⟩
    -- the link that was kept is one with the same ends
    obtain ⟨m, hm, hsame⟩ := exists_mem_resolvedLinks hk hresolve
    obtain ⟨k', _, hresolve'⟩ := exists_key_of_mem_resolvedLinks hm
    have hbuilt := namedRelations_buildRelations (contents.draw ids).schema.tables contents.keys
      (mintTables contents.tables ids).2
    rw [← namedLink_eq_of_sameEnds hdiffer hresolve' hresolve hsame]
    exact hbuilt ▸ List.mem_map.mpr ⟨m, hm, rfl⟩

/-- Keys that find their ends do so wherever names find the same tables. -/
theorem mem_namedRelations_of_mem (hids : Function.Injective ids.label)
    (hids' : Function.Injective ids'.label) (hkeys : contents.keys ⊆ contents'.keys)
    (hnamed : ∀ name, (tableNamed? (contents.draw ids).schema.tables name).map Table.spec =
      (tableNamed? (contents'.draw ids').schema.tables name).map Table.spec)
    {p : Option ForeignKey × String} (h : p ∈ (contents.draw ids).schema.namedRelations) :
    p ∈ (contents'.draw ids').schema.namedRelations := by
  obtain ⟨k, hk, l, hresolve, rfl⟩ := (mem_namedRelations_draw hids).mp h
  obtain ⟨l', hresolve', hnames, hcardinality⟩ :=
    exists_resolve (idsDiffer_draw contents hids) (idsDiffer_draw contents' hids') hnamed hresolve
  exact (mem_namedRelations_draw hids').mpr
    ⟨k, hkeys hk, l', hresolve', by rw [namedLink, namedLink, hnames, hcardinality]⟩

/-- Foreign keys in another order make the same relations among tables that names find all the same.
-/
theorem perm_namedRelations_draw (hids : Function.Injective ids.label)
    (hids' : Function.Injective ids'.label) (hkeys : contents.keys.Perm contents'.keys)
    (hnamed : ∀ name, (tableNamed? (contents.draw ids).schema.tables name).map Table.spec =
      (tableNamed? (contents'.draw ids').schema.tables name).map Table.spec) :
    (contents.draw ids).schema.namedRelations.Perm (contents'.draw ids').schema.namedRelations :=
  (List.perm_ext_iff_of_nodup (nodup_namedRelations_draw contents hids)
    (nodup_namedRelations_draw contents' hids')).mpr fun _ =>
      ⟨mem_namedRelations_of_mem hids hids' hkeys.subset hnamed,
        mem_namedRelations_of_mem hids' hids hkeys.symm.subset fun name => (hnamed name).symm⟩

end Export

end SchemaDraft
