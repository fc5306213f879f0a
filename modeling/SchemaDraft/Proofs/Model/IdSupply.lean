import Mathlib.Data.List.Nodup
import SchemaDraft.Model.IdSupply

/-!
Ids come out of a supply in order. Whatever an object and its parts take are the next labels of the
row (`TakesInOrder`), and so for a list of objects (`TakesInOrder.mintAll`), also across several
lists minted one after the other. If no label repeats, the ids taken are different
(`IdSupply.nodup_next`).
-/

namespace SchemaDraft

namespace IdSupply

/-- The next `n` labels. -/
def next (s : IdSupply) (n : Nat) : List String := (List.range' s.taken n).map s.label

/-- The supply after `n` more labels are taken. -/
def skip (s : IdSupply) (n : Nat) : IdSupply := { s with taken := s.taken + n }

theorem skip_skip (s : IdSupply) (m n : Nat) : (s.skip m).skip n = s.skip (m + n) := by
  simp [skip, Nat.add_assoc]

theorem next_append (s : IdSupply) (m n : Nat) :
    s.next m ++ (s.skip m).next n = s.next (m + n) := by
  simp only [next, skip, ← List.map_append]
  rw [List.range'_append_1]

theorem nodup_next {s : IdSupply} (h : Function.Injective s.label) (n : Nat) : (s.next n).Nodup :=
  (List.nodup_range' (s := s.taken) (n := n)).map h

/-- A supply in which no label repeats: each is a stroke longer than the one before. -/
def tally : IdSupply := ⟨fun n => String.ofList (List.replicate n '|'), 0⟩

theorem injective_tally : Function.Injective tally.label := by
  intro m n h
  have hlength := congrArg (List.length ∘ String.toList) h
  simpa [tally] using hlength

end IdSupply

variable {α β : Type} {mint : α → IdSupply → β × IdSupply} {idsOf : β → List String}

/-- Are the ids of what is minted the next labels of the supply, and those alone taken from it? -/
def TakesInOrder (mint : α → IdSupply → β × IdSupply) (idsOf : β → List String) : Prop :=
  ∀ a s, ∃ n, idsOf (mint a s).1 = s.next n ∧ (mint a s).2 = s.skip n

theorem mintAll_cons (a : α) (as : List α) (s : IdSupply) :
    mintAll mint (a :: as) s =
      ((mint a s).1 :: (mintAll mint as (mint a s).2).1, (mintAll mint as (mint a s).2).2) := rfl

/-- A list minted item by item takes its ids in order if each item does. -/
theorem TakesInOrder.mintAll (h : TakesInOrder mint idsOf) :
    TakesInOrder (mintAll mint) fun bs => bs.flatMap idsOf := by
  intro as
  -- by induction on the list; the supply moves along, so it is general in the induction
  induction as with
  | nil => intro s; exact ⟨0, rfl, rfl⟩
  | cons a as ih =>
    intro s
    obtain ⟨m, hids, hsupply⟩ := h a s
    obtain ⟨n, hrest, hend⟩ := ih (s.skip m)
    refine ⟨m + n, ?_, ?_⟩
    · simp only [mintAll_cons, List.flatMap_cons, hids, hsupply, hrest, IdSupply.next_append]
    · rw [mintAll_cons, hsupply, hend, IdSupply.skip_skip]

/-- What does not depend on the ids is seen of a minted list as of the list itself. -/
theorem map_mintAll {γ : Type} (view : β → γ) (f : α → γ) (h : ∀ a s, view (mint a s).1 = f a)
    (as : List α) (s : IdSupply) : (mintAll mint as s).1.map view = as.map f := by
  induction as generalizing s with
  | nil => rfl
  | cons a as ih => rw [mintAll_cons, List.map_cons, List.map_cons, h, ih]

/-- What is minted of each item holds of a minted list. -/
theorem forall_mem_mintAll {P : β → Prop} (h : ∀ a s, P (mint a s).1) (as : List α) (s : IdSupply) :
    ∀ b ∈ (mintAll mint as s).1, P b := by
  induction as generalizing s with
  | nil => exact List.forall_mem_nil P
  | cons a as ih => exact List.forall_mem_cons.mpr ⟨h a s, ih _⟩

/-! ### Columns and tables -/

/-- The ids of a table and of its columns. -/
def Table.ids (t : Table) : List String := t.id :: t.columns.map (·.id)

theorem takesInOrder_column : TakesInOrder ColumnSpec.mint fun c => [c.id] :=
  fun _ _ => ⟨1, rfl, rfl⟩

theorem takesInOrder_table (position : Position) :
    TakesInOrder (TableSpec.mintAt position) Table.ids := by
  intro t s
  obtain ⟨n, hids, hsupply⟩ := takesInOrder_column.mintAll t.columns s.advance
  refine ⟨1 + n, ?_, ?_⟩
  · rw [← IdSupply.next_append]
    simp only [← List.map_eq_flatMap] at hids
    exact congrArg (s.fresh :: ·) hids
  · rw [← IdSupply.skip_skip]
    exact hsupply

theorem spec_mintAt (position : Position) (t : TableSpec) (s : IdSupply) :
    (t.mintAt position s).1.spec = t := by
  have hcolumns := map_mintAll Column.toColumnSpec id
    (fun (c : ColumnSpec) (s : IdSupply) => (rfl : (c.mint s).1.toColumnSpec = c)) t.columns
      s.advance
  rw [List.map_id] at hcolumns
  rw [Table.spec, TableSpec.mintAt, hcolumns]

end SchemaDraft
