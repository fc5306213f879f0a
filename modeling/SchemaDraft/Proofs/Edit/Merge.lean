import SchemaDraft.Model.Edit
import SchemaDraft.Proofs.Model.Canvas

/-!
Merging drawings one after the other. Of three blocks of tables side by side each begins one step
beyond the one before it, whichever two of them are put together first (`beside_assoc`), and no
block moves for the sake of an empty one. So merging is associative and the empty drawing is its
identity, places included (`merge_assoc_and_identity`).
-/

namespace SchemaDraft

namespace Canvas

variable {a b c : List Table}

/-! ### Moves -/

theorem shift_zero (h : ∀ t ∈ a, t.position.IsWhole) : shift a (.int 0) = a := by
  refine (List.map_congr_left fun t ht => ?_).trans (List.map_id a)
  obtain ⟨x, hx⟩ := (h t ht).x.exists_int
  have hzero : t.position.x + .int 0 = t.position.x := by rw [hx, Number.int_add_int, Int.add_zero]
  rw [shiftTable, hzero]
  rfl

theorem shift_shift (h : ∀ t ∈ a, t.position.IsWhole) (d e : Int) :
    shift (shift a (.int d)) (.int e) = shift a (.int (d + e)) := by
  rw [shift, shift, List.map_map]
  refine List.map_congr_left fun t ht => ?_
  obtain ⟨x, hx⟩ := (h t ht).x.exists_int
  rw [Function.comp_apply, shiftTable, shiftTable, shiftTable, hx, Number.int_add_int,
    Number.int_add_int, Number.int_add_int, Int.add_assoc]

/-! ### Blocks side by side -/

theorem beside_nil (a : List Table) : beside a [] = a := List.append_nil a

theorem nil_beside (h : ∀ t ∈ a, t.position.IsWhole) : beside [] a = a := shift_zero h

/-- Three blocks side by side stand where they stand, whichever two are put together first. -/
theorem beside_assoc (ha : ∀ t ∈ a, t.position.IsWhole) (hb : ∀ t ∈ b, t.position.IsWhole)
    (hc : ∀ t ∈ c, t.position.IsWhole) : beside (beside a b) c = beside a (beside b c) := by
  -- an empty block moves nothing; otherwise all three reach from an edge to another
  by_cases hane : a = []
  · rw [hane, nil_beside hb, nil_beside (isWhole_beside hb hc)]
  by_cases hbne : b = []
  · rw [hbne, beside_nil, nil_beside hc]
  by_cases hcne : c = []
  · rw [hcne, beside_nil, beside_nil]
  obtain ⟨la, ra, hspansA⟩ := exists_spans hane ha
  obtain ⟨lb, rb, hspansB⟩ := exists_spans hbne hb
  obtain ⟨lc, rc, hspansC⟩ := exists_spans hcne hc
  have hmoves : rb + columnStep - lc + (ra + columnStep - lb) =
      ra + columnStep + (rb - lb) + columnStep - lc := by omega
  -- the left edge of `b` is that of `b` and `c` together, the right edge of `b` moves along with it
  calc beside (beside a b) c
      = beside a b ++ shift c (.int (ra + columnStep + (rb - lb) + columnStep - lc)) := by
        rw [beside, (hspansA.beside hspansB).mergeOffset hspansC]
    _ = a ++ (shift b (.int (ra + columnStep - lb)) ++
          shift (shift c (.int (rb + columnStep - lc))) (.int (ra + columnStep - lb))) := by
        rw [shift_shift hc, hmoves, beside, hspansA.mergeOffset hspansB, List.append_assoc]
    _ = a ++ shift (beside b c) (.int (ra + columnStep - lb)) := by
        rw [beside, hspansB.mergeOffset hspansC, shift, shift, shift, shift, List.map_append]
    _ = beside a (beside b c) := by
        rw [beside.eq_1 a, hspansA.mergeOffset (hspansB.beside hspansC)]

end Canvas

/-! ### Drawings -/

namespace Schema

/-- Do all tables stand at integer coordinates? -/
def IsWhole (s : Schema) : Prop := ∀ t ∈ s.tables, t.position.IsWhole

instance (s : Schema) : Decidable s.IsWhole :=
  inferInstanceAs (Decidable (∀ t ∈ s.tables, t.position.IsWhole))

theorem merge_eq {s u v : Schema} (htables : Canvas.beside s.tables u.tables = v.tables)
    (hrelations : s.relations ++ u.relations = v.relations) : s.importFrom u .merge = v :=
  congrArg₂ Schema.mk htables hrelations

variable {a b c : Schema}

/-- Merging is associative, and merging the empty drawing changes nothing: the tables come in the
same order at the same places, and the relations in the same order. -/
theorem merge_assoc_and_identity (ha : a.IsWhole) (hb : b.IsWhole) (hc : c.IsWhole) :
    (a.importFrom b .merge).importFrom c .merge = a.importFrom (b.importFrom c .merge) .merge ∧
      Schema.empty.importFrom a .merge = a ∧ a.importFrom Schema.empty .merge = a := by
  refine ⟨merge_eq ?_ ?_, merge_eq ?_ ?_, merge_eq ?_ ?_⟩
  · exact Canvas.beside_assoc ha hb hc
  · exact List.append_assoc a.relations b.relations c.relations
  · exact Canvas.nil_beside ha
  · exact List.nil_append a.relations
  · exact Canvas.beside_nil a.tables
  · exact List.append_nil a.relations

/-- Tables of one name and one id at the given places, each with a relation to itself. -/
def scattered (name : String) (places : List (Int × Int)) : Schema where
  tables := places.map fun p => ⟨name, name, [⟨⟨"id", "uuid", true, true, true⟩, "c"⟩],
    ⟨.int p.1, .int p.2⟩⟩
  relations := places.map fun _ => ⟨"r", ⟨name, "c"⟩, ⟨name, "c"⟩, "1:1"⟩

/-- Blocks that reach far to the left, that lie in one another's way, and that have no tables. -/
theorem merge_assoc_and_identity_scattered :
    let a := scattered "a" [(700, -20), (-(10 ^ 30), 0), (700, 0)]
    let b := scattered "b" [(0, 5), (100, 5), (-3, 10 ^ 30)]
    let none := scattered "none" []
    (a.importFrom b .merge).importFrom a .merge = a.importFrom (b.importFrom a .merge) .merge ∧
      (a.importFrom none .merge).importFrom b .merge =
        a.importFrom (none.importFrom b .merge) .merge ∧
      Schema.empty.importFrom a .merge = a ∧ a.importFrom Schema.empty .merge = a := by
  intro a b none
  have ha : a.IsWhole := by decide
  have hb : b.IsWhole := by decide
  have hnone : none.IsWhole := by decide
  exact ⟨(merge_assoc_and_identity ha hb ha).1, merge_assoc_and_identity ha hnone hb⟩

end Schema

end SchemaDraft
