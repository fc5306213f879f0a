import SchemaDraft.Model.Resolve
import SchemaDraft.Proofs.Model.IdSupply

/-!
What the relations made from foreign keys are. A key resolves to the columns that its names find
(`resolve_eq_ok_iff`); of the links that keys resolve to, each pair of ends stays once
(`pairwise_distinctLinks`), and no pair is lost (`exists_mem_distinctLinks`).
-/

namespace SchemaDraft

/-! ### Names -/

theorem mem_of_tableNamed? {tables : List Table} {name : String} {t : Table}
    (h : tableNamed? tables name = some t) : t ∈ tables ∧ lowerName t.name = lowerName name := by
  refine ⟨List.mem_reverse.mp (List.mem_of_find?_eq_some h), ?_⟩
  simpa using List.find?_some h

theorem mem_of_columnNamed? {t : Table} {name : String} {c : Column}
    (h : t.columnNamed? name = some c) : c ∈ t.columns ∧ lowerName c.name = lowerName name := by
  refine ⟨List.mem_of_find?_eq_some h, ?_⟩
  simpa using List.find?_some h

/-- Names are compared in lower case. -/
theorem tableNamed?_congr {tables : List Table} {name name' : String}
    (h : lowerName name = lowerName name') :
    tableNamed? tables name = tableNamed? tables name' := by
  simp only [tableNamed?, h]

theorem columnNamed?_congr {t : Table} {name name' : String}
    (h : lowerName name = lowerName name') : t.columnNamed? name = t.columnNamed? name' := by
  simp only [Table.columnNamed?, h]

/-- The link between two columns of two tables. -/
def Link.between (fromTable : Table) (fromColumn : Column) (toTable : Table) (toColumn : Column) :
    Link :=
  ⟨⟨fromTable.id, fromColumn.id⟩, ⟨toTable.id, toColumn.id⟩,
    if fromColumn.isUnique then .oneToOne else .oneToMany⟩

/-- A key resolves to the link between the columns that its names find. -/
theorem resolve_eq_ok_iff {tables : List Table} {k : ForeignKey} {l : Link} :
    k.resolve tables = .ok l ↔
      ∃ fromTable toTable fromColumn toColumn,
        tableNamed? tables k.fromTable = some fromTable ∧
        tableNamed? tables k.toTable = some toTable ∧
        fromTable.columnNamed? k.fromColumn = some fromColumn ∧
        toTable.columnNamed? k.toColumn = some toColumn ∧
        l = .between fromTable fromColumn toTable toColumn := by
  constructor
  · intro h
    unfold ForeignKey.resolve at h
    split at h
    · rename_i fromTable toTable hfromTable htoTable
      split at h
      · rename_i fromColumn toColumn hfromColumn htoColumn
        exact ⟨fromTable, toTable, fromColumn, toColumn, hfromTable, htoTable, hfromColumn,
          htoColumn, (Except.ok.inj h).symm⟩
      · exact absurd h (by simp)
    · exact absurd h (by simp)
  · rintro ⟨fromTable, toTable, fromColumn, toColumn, hfromTable, htoTable, hfromColumn, htoColumn,
      rfl⟩
    simp only [ForeignKey.resolve, hfromTable, htoTable, hfromColumn, htoColumn, Link.between]

theorem toOption_eq_some_iff {ε α : Type} {x : Except ε α} {a : α} :
    x.toOption = some a ↔ x = .ok a := by
  cases x <;> simp [Except.toOption]

/-! ### Distinct links -/

theorem Link.sameEnds_iff {a b : Link} :
    a.sameEnds b = true ↔ a.source = b.source ∧ a.target = b.target := by
  simp [Link.sameEnds]

theorem mem_distinctLinksFrom {seen links : List Link} {l : Link}
    (h : l ∈ distinctLinksFrom seen links) : l ∈ links ∧ ∀ s ∈ seen, ¬s.sameEnds l := by
  induction links generalizing seen with
  | nil => exact absurd h (by simp [distinctLinksFrom])
  | cons first links ih =>
    unfold distinctLinksFrom at h
    split at h
    · obtain ⟨hmem, hseen⟩ := ih h
      exact ⟨List.mem_cons_of_mem _ hmem, hseen⟩
    · -- no earlier link has these ends
      rename_i hnew
      rcases List.mem_cons.mp h with rfl | hrest
      · exact ⟨by simp, fun s hs hsame => hnew (List.any_eq_true.mpr ⟨s, hs, hsame⟩)⟩
      · obtain ⟨hmem, hseen⟩ := ih hrest
        exact ⟨List.mem_cons_of_mem _ hmem, fun s hs => hseen s (List.mem_cons_of_mem _ hs)⟩

theorem pairwise_distinctLinksFrom (seen links : List Link) :
    (distinctLinksFrom seen links).Pairwise fun a b => ¬a.sameEnds b := by
  induction links generalizing seen with
  | nil => exact List.Pairwise.nil
  | cons first links ih =>
    unfold distinctLinksFrom
    split
    · exact ih seen
    · refine List.Pairwise.cons (fun l hl => ?_) (ih _)
      exact (mem_distinctLinksFrom hl).2 first (by simp)

/-- Different links of those that stay connect different ends. -/
theorem pairwise_distinctLinks (links : List Link) :
    (distinctLinks links).Pairwise fun a b => ¬a.sameEnds b := pairwise_distinctLinksFrom [] links

theorem exists_mem_distinctLinksFrom (seen : List Link) {links : List Link} {l : Link}
    (h : l ∈ links) :
    (∃ s ∈ seen, s.sameEnds l) ∨ ∃ m ∈ distinctLinksFrom seen links, m.sameEnds l := by
  induction links generalizing seen with
  | nil => exact absurd h (by simp)
  | cons first links ih =>
    unfold distinctLinksFrom
    split
    · -- an earlier link has the ends of this one
      rename_i hold
      rcases List.mem_cons.mp h with rfl | hrest
      · obtain ⟨s, hs, hsame⟩ := List.any_eq_true.mp hold
        exact Or.inl ⟨s, hs, hsame⟩
      · exact ih seen hrest
    · rcases List.mem_cons.mp h with rfl | hrest
      · exact Or.inr ⟨l, by simp, Link.sameEnds_iff.mpr ⟨rfl, rfl⟩⟩
      · rcases ih (first :: seen) hrest with ⟨s, hs, hsame⟩ | ⟨m, hm, hsame⟩
        · rcases List.mem_cons.mp hs with rfl | hs
          · exact Or.inr ⟨s, by simp, hsame⟩
          · exact Or.inl ⟨s, hs, hsame⟩
        · exact Or.inr ⟨m, List.mem_cons_of_mem _ hm, hsame⟩

/-- No pair of ends is lost. -/
theorem exists_mem_distinctLinks {links : List Link} {l : Link} (h : l ∈ links) :
    ∃ m ∈ distinctLinks links, m.sameEnds l := by
  rcases exists_mem_distinctLinksFrom [] h with ⟨s, hs, _⟩ | hm
  · exact absurd hs (by simp)
  · exact hm

/-- Links between different ends all stay, in their order. -/
theorem distinctLinks_of_pairwise {links : List Link}
    (h : links.Pairwise fun a b => ¬a.sameEnds b) : distinctLinks links = links := by
  -- no link has the ends of one that was kept, nor of one to come
  suffices hfrom : ∀ seen : List Link, (∀ s ∈ seen, ∀ l ∈ links, ¬s.sameEnds l) →
      distinctLinksFrom seen links = links from hfrom [] (by simp)
  induction links with
  | nil => intro seen _; rfl
  | cons first links ih =>
    intro seen hseen
    rw [List.pairwise_cons] at h
    have hnew : ¬seen.any (·.sameEnds first) := by
      rw [List.any_eq_true]
      rintro ⟨s, hs, hsame⟩
      exact hseen s hs first (by simp) hsame
    rw [distinctLinksFrom, if_neg hnew, ih h.2]
    intro s hs l hl
    rcases List.mem_cons.mp hs with rfl | hs
    · exact h.1 l hl
    · exact hseen s hs l (List.mem_cons_of_mem _ hl)

/-! ### Resolved links -/

/-- A resolved link is that of a key. -/
theorem exists_key_of_mem_resolvedLinks {tables : List Table} {keys : List ForeignKey} {l : Link}
    (h : l ∈ resolvedLinks tables keys) : ∃ k ∈ keys, k.resolve tables = .ok l := by
  obtain ⟨k, hk, hresolve⟩ := List.mem_filterMap.mp (mem_distinctLinksFrom h).1
  exact ⟨k, hk, toOption_eq_some_iff.mp hresolve⟩

/-- The link of a key is resolved, or another one between the same ends is. -/
theorem exists_mem_resolvedLinks {tables : List Table} {keys : List ForeignKey} {k : ForeignKey}
    {l : Link}
    (hk : k ∈ keys) (h : k.resolve tables = .ok l) :
    ∃ m ∈ resolvedLinks tables keys, m.sameEnds l :=
  exists_mem_distinctLinks (List.mem_filterMap.mpr ⟨k, hk, toOption_eq_some_iff.mpr h⟩)

/-! ### Relations -/

theorem takesInOrder_relation : TakesInOrder Link.mint fun r => [r.id] := fun _ _ => ⟨1, rfl, rfl⟩

/-- The ends and the type of a relation, its id left out. -/
def Relation.ends (r : Relation) : Endpoint × Endpoint × String := (r.source, r.target, r.type)

/-- Relations stand for the resolved links one by one. -/
theorem ends_buildRelations (tables : List Table) (keys : List ForeignKey) (ids : IdSupply) :
    (buildRelations tables keys ids).1.map Relation.ends =
      (resolvedLinks tables keys).map fun l => (l.source, l.target, l.cardinality.name) :=
  map_mintAll Relation.ends (fun l : Link => (l.source, l.target, l.cardinality.name))
    (fun _ _ => rfl) _ _

/-- A relation made from foreign keys is the link of one of them. -/
theorem exists_key_of_mem_buildRelations {tables : List Table} {keys : List ForeignKey}
    {ids : IdSupply} {r : Relation} (h : r ∈ (buildRelations tables keys ids).1) :
    ∃ k ∈ keys, ∃ l, k.resolve tables = .ok l ∧ l ∈ resolvedLinks tables keys ∧
      r.ends = (l.source, l.target, l.cardinality.name) := by
  have hends : r.ends ∈ (buildRelations tables keys ids).1.map Relation.ends :=
    List.mem_map.mpr ⟨r, h, rfl⟩
  rw [ends_buildRelations] at hends
  obtain ⟨l, hl, hr⟩ := List.mem_map.mp hends
  obtain ⟨k, hk, hresolve⟩ := exists_key_of_mem_resolvedLinks hl
  exact ⟨k, hk, l, hresolve, hl, hr.symm⟩

end SchemaDraft
