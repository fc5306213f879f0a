import Mathlib.Data.List.Find
import Mathlib.Data.List.Infix
import SchemaDraft.Model.ColumnType

/-!
Which type a text has is up to the rules (`ofText_eq_byRules`): they give every word of the
vocabulary its own type, so a text that is such a word may be left to them. The rules see a spelling
only as far as a parenthesis or an apostrophe (`byRules_append_mark`), and do not see a space at its
end (`byRules_append_space`).
-/

namespace SchemaDraft.ColumnType

/-- The type that the rules give a spelling. -/
def byRules (spelling : List Char) : ColumnType :=
  match startRules.find? fun rule => startsWithAny rule.1 spelling with
  | some rule => rule.2
  | none => fallback

/-- The rules give every word of the vocabulary its own type. -/
theorem byRules_name (t : ColumnType) : byRules t.name.toList = t := by
  cases t <;> decide +kernel

theorem ofText_eq_byRules (cs : List Char) : ofText cs = byRules (normalSpelling cs) := by
  rw [ofText]
  cases hword : ofName? (normalSpelling cs) with
  | none => rfl
  | some t =>
    have hname : t.name.toList = normalSpelling cs := by simpa using List.find?_some hword
    rw [← hname, byRules_name]

theorem ofText_name (t : ColumnType) : ofText t.name.toList = t := by
  have hnormal : normalSpelling t.name.toList = t.name.toList := by cases t <;> decide +kernel
  rw [ofText_eq_byRules, hnormal, byRules_name]

/-- Spellings that start in the same ways have the same type. -/
theorem byRules_congr {spelling spelling' : List Char} (h : ∀ rule ∈ startRules, ∀ start ∈ rule.1,
    start.toList.isPrefixOf spelling = start.toList.isPrefixOf spelling') :
    byRules spelling = byRules spelling' := by
  have hfind : (startRules.find? fun rule => startsWithAny rule.1 spelling) =
      startRules.find? fun rule => startsWithAny rule.1 spelling' := by
    refine List.find?_congr fun rule hrule => ?_
    rw [startsWithAny, startsWithAny, Bool.eq_iff_iff, List.any_eq_true, List.any_eq_true]
    exact exists_congr fun start => and_congr_right fun hstart => by rw [h rule hrule start hstart]
  rw [byRules, hfind, byRules]

/-! ### Ends of spellings -/

theorem isPrefixOf_append_mark {mark : Char} {start : List Char} (h : mark ∉ start)
    (before after : List Char) :
    start.isPrefixOf (before ++ mark :: after) = start.isPrefixOf before := by
  induction start generalizing before with
  | nil => rfl
  | cons c start ih =>
    have hc : c ≠ mark := fun heq => h (by simp [heq])
    cases before with
    | nil => simp [List.isPrefixOf, hc]
    | cons b before =>
      rw [List.cons_append, List.isPrefixOf_cons_cons, List.isPrefixOf_cons_cons,
        ih fun hmem => h (List.mem_cons_of_mem _ hmem)]

/-- No start of a rule holds a parenthesis or an apostrophe. -/
theorem notMem_rules :
    ∀ mark ∈ ['(', '\''], ∀ rule ∈ startRules, ∀ start ∈ rule.1, mark ∉ start.toList := by
  decide +kernel

/-- What follows such a mark does not count. -/
theorem byRules_append_mark {mark : Char} (hmark : mark ∈ ['(', '\'']) (before after : List Char) :
    byRules (before ++ mark :: after) = byRules before :=
  byRules_congr fun rule hrule start hstart =>
    isPrefixOf_append_mark (notMem_rules mark hmark rule hrule start hstart) before after

/-- No start of a rule ends in a space. -/
theorem getLast?_rules :
    ∀ rule ∈ startRules, ∀ start ∈ rule.1, start.toList.getLast? ≠ some ' ' := by
  decide +kernel

theorem byRules_append_space (spelling : List Char) :
    byRules (spelling ++ [' ']) = byRules spelling := by
  refine byRules_congr fun rule hrule start hstart => ?_
  rw [Bool.eq_iff_iff, List.isPrefixOf_iff_prefix, List.isPrefixOf_iff_prefix,
    List.prefix_concat_iff, or_iff_right]
  intro hwhole
  refine getLast?_rules rule hrule start hstart ?_
  rw [hwhole, List.getLast?_concat]

end SchemaDraft.ColumnType
