import Mathlib.Data.List.Perm.Basic
import Mathlib.Data.List.Nodup
import SchemaDraft.Catalogue.Order

/-!
The order of tables loses none. A round takes out the nodes that are ready and leaves the others
(`filter_left`), so rounds that come to an end put all nodes in an order (`perm_of_rounds`); cutting
cycles changes no name. With names that are all different, the tables in their order are the tables
of the database (`perm_ordered`).
-/

namespace SchemaDraft.Catalogue

variable {left ordered nodes : List Node} {l : Listing}

/-! ### Rounds -/

/-- Does a node refer to none of those left? -/
def Node.isReady (left : List Node) (n : Node) : Bool :=
  n.parents.all fun p => !left.any (·.name = p)

theorem readyNodes_eq (left : List Node) : readyNodes left = left.filter (Node.isReady left) := rfl

/-- What a round leaves are the nodes that are not ready. -/
theorem filter_left (hnames : (left.map Node.name).Nodup) :
    (left.filter fun n => !(readyNodes left).any (·.name = n.name)) =
      left.filter fun n => !n.isReady left := by
  refine List.filter_congr fun n hn => congrArg (!·) (Bool.eq_iff_iff.mpr ?_)
  rw [List.any_eq_true, readyNodes_eq]
  constructor
  · -- names differ, so the ready node of that name is the node itself
    rintro ⟨m, hm, hname⟩
    obtain ⟨hm, hready⟩ := List.mem_filter.mp hm
    obtain rfl := List.inj_on_of_nodup_map hnames hm hn (by simpa using hname)
    exact hready
  · intro hready
    exact ⟨n, List.mem_filter.mpr ⟨hn, hready⟩, by simp⟩

/-- Rounds that come to an end put out every node once. -/
theorem perm_of_rounds {fuel : Nat} (h : rounds fuel left = some ordered)
    (hnames : (left.map Node.name).Nodup) : ordered.Perm left := by
  -- on the rounds: each splits what is left into the ready nodes and the others
  induction fuel generalizing left ordered with
  | zero =>
    cases left with
    | nil =>
      obtain rfl := Option.some.inj h
      exact .refl _
    | cons n left => exact absurd h (by simp [rounds])
  | succ fuel ih =>
    cases left with
    | nil =>
      obtain rfl := Option.some.inj h
      exact .refl _
    | cons n left =>
      rw [rounds] at h
      split at h
      · exact absurd h (by simp)
      · obtain ⟨rest, hrest, rfl⟩ := Option.map_eq_some_iff.mp h
        rw [filter_left hnames] at hrest
        have hrestnames :
            (((n :: left).filter fun m => !m.isReady (n :: left)).map Node.name).Nodup :=
          hnames.sublist (List.filter_sublist.map _)
        rw [readyNodes_eq]
        exact ((ih hrest hrestnames).append_left _).trans (List.filter_append_perm _ _)
      · exact List.cons_ne_nil n left

theorem map_name_cutCycles (nodes : List Node) :
    (cutCycles nodes).map Node.name = nodes.map Node.name := by
  rw [cutCycles, List.map_map]
  refine List.map_congr_left fun n _ => ?_
  rw [Function.comp_apply]
  split <;> rfl

/-- Nodes in their order have the names that they have in any. -/
theorem perm_map_name_orderNodes (hnames : (nodes.map Node.name).Nodup) :
    ((orderNodes nodes).map Node.name).Perm (nodes.map Node.name) := by
  have hsorted : ((byName nodes).map Node.name).Perm (nodes.map Node.name) :=
    (List.mergeSort_perm _ _).map _
  have hsortednames : ((byName nodes).map Node.name).Nodup := hsorted.nodup_iff.mpr hnames
  refine List.Perm.trans ?_ hsorted
  rw [orderNodes]
  split
  · -- no cycle
    next ordered hordered => exact (perm_of_rounds hordered hsortednames).map _
  · -- a cycle: its edges are cut and the rounds begin again, with the same names
    cases hcut : rounds (byName nodes).length (cutCycles (byName nodes)) with
    | none => exact .refl _
    | some ordered =>
      rw [← map_name_cutCycles (byName nodes)] at hsortednames ⊢
      exact (perm_of_rounds hcut hsortednames).map _

/-! ### Tables -/

/-- Tables that are listed by name stay in this order. -/
theorem byName_eq_self (h : l.Pairwise fun a b => ¬b.name < a.name) :
    l.byName = l ∧ byName (l.map ListedTable.node) = l.map ListedTable.node := by
  have hsorted : l.Pairwise fun a b => (!decide (b.name < a.name)) = true :=
    h.imp fun hab => by simpa using hab
  exact ⟨List.mergeSort_of_pairwise hsorted,
    List.mergeSort_of_pairwise (List.pairwise_map.mpr hsorted)⟩

theorem table?_of_mem (hnames : (l.map ListedTable.name).Nodup) {t : ListedTable} (h : t ∈ l) :
    l.table? t.name = some t := by
  cases hfound : l.table? t.name with
  | none => exact absurd (List.find?_eq_none.mp hfound t h) (by simp)
  | some u =>
    have hname : u.name = t.name := by simpa using List.find?_some hfound
    rw [List.inj_on_of_nodup_map hnames (List.mem_of_find?_eq_some hfound) h hname]

/-- The tables in their order are all the tables. -/
theorem perm_ordered (hnames : (l.map ListedTable.name).Nodup) : l.ordered.Perm l := by
  have hnodes : (l.map ListedTable.node).map Node.name = l.map ListedTable.name := by
    rw [List.map_map]
    rfl
  have hperm :
      ((orderNodes (l.map ListedTable.node)).map Node.name).Perm (l.map ListedTable.name) := by
    rw [← hnodes] at hnames ⊢
    exact perm_map_name_orderNodes hnames
  have hself : (l.map ListedTable.name).filterMap l.table? = l := by
    rw [List.filterMap_map]
    exact (List.filterMap_congr fun t ht => table?_of_mem hnames ht).trans List.filterMap_some
  have hordered :
      l.ordered = ((orderNodes (l.map ListedTable.node)).map Node.name).filterMap l.table? := by
    rw [Listing.ordered, List.filterMap_map]
    rfl
  have hall := hperm.filterMap l.table?
  rwa [hself, ← hordered] at hall

end SchemaDraft.Catalogue
