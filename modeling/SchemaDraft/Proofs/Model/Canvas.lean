import Mathlib.Algebra.Order.Group.Unbundled.Int
import SchemaDraft.Model.Canvas

/-!
Blocks of tables on the canvas. Tables whose coordinates are integers reach from a leftmost table to
a rightmost one (`exists_spans`). Moved as a whole they reach just as far (`Spans.shift`), and put
beside other tables they begin one step to the right of the last of those and change nothing about
the first (`Spans.beside`). Places of the grid are a step apart (`isApart_gridPosition`), and blocks
of tables that are apart stay so side by side (`pairwise_isApart_beside`).
-/

namespace SchemaDraft

/-! ### Whole coordinates -/

/-- Is a number an integer? -/
def Number.IsWhole : Number → Prop
  | int _ => True
  | real _ => False

/-- Are both coordinates of a place integers? -/
structure Position.IsWhole (p : Position) : Prop where
  x : p.x.IsWhole
  y : p.y.IsWhole

instance : ∀ n : Number, Decidable n.IsWhole
  | .int _ => inferInstanceAs (Decidable True)
  | .real _ => inferInstanceAs (Decidable False)

instance (p : Position) : Decidable p.IsWhole :=
  decidable_of_iff (p.x.IsWhole ∧ p.y.IsWhole) ⟨fun h => ⟨h.1, h.2⟩, fun h => ⟨h.x, h.y⟩⟩

namespace Position

/-- Are two places whole, and a step of the grid or more apart, to the side or down? -/
def IsApart : Position → Position → Prop
  | ⟨.int x, .int y⟩, ⟨.int x', .int y'⟩ =>
    Canvas.columnStep ≤ |x - x'| ∨ Canvas.rowStep ≤ |y - y'|
  | _, _ => False

theorem isApart_int {x y x' y' : Int} : IsApart ⟨.int x, .int y⟩ ⟨.int x', .int y'⟩ ↔
    Canvas.columnStep ≤ |x - x'| ∨ Canvas.rowStep ≤ |y - y'| := Iff.rfl

theorem IsApart.exists_int {p q : Position} (h : p.IsApart q) :
    ∃ x y x' y', p = ⟨.int x, .int y⟩ ∧ q = ⟨.int x', .int y'⟩ ∧
      (Canvas.columnStep ≤ |x - x'| ∨ Canvas.rowStep ≤ |y - y'|) := by
  unfold IsApart at h
  split at h
  · rename_i x y x' y'
    exact ⟨x, y, x', y', rfl, rfl, h⟩
  · exact h.elim

end Position

namespace Number

theorem IsWhole.exists_int {n : Number} (h : n.IsWhole) : ∃ k, n = int k := by
  cases n with
  | int k => exact ⟨k, rfl⟩
  | real _ => exact h.elim

/-- Whichever of some numbers is kept, it is one of them. -/
theorem foldl_best_mem (better : Number → Number → Bool) (first : Number) (rest : List Number) :
    rest.foldl (fun best x => if better best x then x else best) first ∈ first :: rest := by
  induction rest generalizing first with
  | nil => exact List.mem_cons_self
  | cons x rest ih =>
    rw [List.foldl_cons]
    split
    · exact List.mem_cons_of_mem _ (ih x)
    · rcases List.mem_cons.mp (ih first) with h | h
      · rw [h]
        exact List.mem_cons_self
      · exact List.mem_cons_of_mem _ (List.mem_cons_of_mem _ h)

/-- Of integers, the one that is kept against all others is among them and ranks before none of
them. -/
theorem exists_foldl_best (better : Number → Number → Bool) (r : Int → Int → Prop)
    (hrefl : ∀ m, r m m) (htrans : ∀ l m n, r l m → r m n → r l n)
    (hbetter : ∀ m n, if better (int m) (int n) then r m n else r n m) {first : Number}
    {rest : List Number} (hwhole : ∀ n ∈ first :: rest, n.IsWhole) :
    ∃ k, rest.foldl (fun best x => if better best x then x else best) first = int k ∧
      int k ∈ first :: rest ∧ ∀ m, int m ∈ first :: rest → r m k := by
  induction rest generalizing first with
  | nil =>
    obtain ⟨k, rfl⟩ := (hwhole first (by simp)).exists_int
    refine ⟨k, rfl, by simp, fun m hm => ?_⟩
    obtain rfl : m = k := by simpa using hm
    exact hrefl m
  | cons x rest ih =>
    obtain ⟨a, rfl⟩ := (hwhole first (by simp)).exists_int
    obtain ⟨b, rfl⟩ := (hwhole x (by simp)).exists_int
    have hkept :
        ∃ c, (if better (int a) (int b) then int b else int a) = int c ∧ r a c ∧ r b c := by
      have hab := hbetter a b
      split at hab
      · rename_i hb
        exact ⟨b, if_pos hb, hab, hrefl b⟩
      · rename_i hb
        exact ⟨a, if_neg hb, hrefl a, hab⟩
    obtain ⟨c, hc, hac, hbc⟩ := hkept
    obtain ⟨k, hfold, _, hbest⟩ :=
      @ih (int c) (List.forall_mem_cons.mpr ⟨trivial, fun n hn => hwhole n (by simp [hn])⟩)
    have hck : r c k := hbest c (by simp)
    have hall : (int b :: rest).foldl (fun best x => if better best x then x else best) (int a) =
        int k := by
      rw [List.foldl_cons, hc, hfold]
    refine ⟨k, hall, hall ▸ foldl_best_mem better (int a) (int b :: rest), fun m hm => ?_⟩
    -- what ranks before neither of the first two ranks before neither of them all
    rcases List.mem_cons.mp hm with heq | hm
    · rw [int.inj heq]
      exact htrans a c k hac hck
    · rcases List.mem_cons.mp hm with heq | hm
      · rw [int.inj heq]
        exact htrans b c k hbc hck
      · exact hbest m (List.mem_cons_of_mem _ hm)

variable {first : Number} {rest : List Number}

theorem exists_largest (hwhole : ∀ n ∈ first :: rest, n.IsWhole) :
    ∃ k, largest first rest = int k ∧ int k ∈ first :: rest ∧
      ∀ m, int m ∈ first :: rest → m ≤ k := by
  refine exists_foldl_best lt (· ≤ ·) le_refl (fun _ _ _ => le_trans) (fun m n => ?_) hwhole
  by_cases h : m < n
  · simp [lt, h, h.le]
  · simp [lt, h, not_lt.mp h]

theorem exists_smallest (hwhole : ∀ n ∈ first :: rest, n.IsWhole) :
    ∃ k, smallest first rest = int k ∧ int k ∈ first :: rest ∧
      ∀ m, int m ∈ first :: rest → k ≤ m := by
  refine exists_foldl_best (fun best x => lt x best) (· ≥ ·) le_refl (fun _ _ _ => ge_trans)
    (fun m n => ?_) hwhole
  by_cases h : n < m
  · simp [lt, h, h.le]
  · simp [lt, h, not_lt.mp h]

end Number

namespace Canvas

/-! ### Blocks -/

/-- Do tables reach from one horizontal coordinate to another, all of theirs being integers? -/
structure Spans (tables : List Table) (left right : Int) : Prop where
  within : ∀ t ∈ tables, ∃ x, t.position.x = .int x ∧ left ≤ x ∧ x ≤ right
  left_reached : ∃ t ∈ tables, t.position.x = .int left
  right_reached : ∃ t ∈ tables, t.position.x = .int right

variable {a b : List Table} {l r l' r' : Int}

theorem exists_spans (hne : a ≠ []) (hwhole : ∀ t ∈ a, t.position.IsWhole) :
    ∃ l r, Spans a l r := by
  cases a with
  | nil => exact absurd rfl hne
  | cons t ts =>
    have hx : ∀ n ∈ (t :: ts).map (·.position.x), n.IsWhole :=
      List.forall_mem_map.mpr fun u hu => (hwhole u hu).x
    obtain ⟨l, _, hl, hleast⟩ := Number.exists_smallest hx
    obtain ⟨r, _, hr, hgreatest⟩ := Number.exists_largest hx
    refine ⟨l, r, fun u hu => ?_, List.mem_map.mp hl, List.mem_map.mp hr⟩
    obtain ⟨x, hux⟩ := (hwhole u hu).x.exists_int
    have hmem : Number.int x ∈ (t :: ts).map (·.position.x) := List.mem_map.mpr ⟨u, hu, hux⟩
    exact ⟨x, hux, hleast x hmem, hgreatest x hmem⟩

theorem Spans.le (h : Spans a l r) : l ≤ r := by
  obtain ⟨t, ht, hl⟩ := h.left_reached
  obtain ⟨x, hx, _, hr⟩ := h.within t ht
  rw [hl] at hx
  rwa [Number.int.inj hx]

theorem Spans.isWhole (h : Spans a l r) : ∀ n ∈ a.map (·.position.x), n.IsWhole := by
  refine List.forall_mem_map.mpr fun t ht => ?_
  obtain ⟨x, hx, _⟩ := h.within t ht
  rw [hx]
  trivial

theorem Spans.bounds (h : Spans a l r) {x : Int} (hx : Number.int x ∈ a.map (·.position.x)) :
    l ≤ x ∧ x ≤ r := by
  obtain ⟨t, ht, htx⟩ := List.mem_map.mp hx
  obtain ⟨y, hy, hbounds⟩ := h.within t ht
  rw [htx] at hy
  rwa [Number.int.inj hy]

/-- Incoming tables move to one step beyond the right edge of those that are there. -/
theorem Spans.mergeOffset (ha : Spans a l r) (hb : Spans b l' r') :
    mergeOffset a b = .int (r + columnStep - l') := by
  obtain ⟨ta, hta, hr⟩ := ha.right_reached
  obtain ⟨tb, htb, hl⟩ := hb.left_reached
  have hright : Number.int r ∈ a.map (·.position.x) := List.mem_map.mpr ⟨ta, hta, hr⟩
  have hleft : Number.int l' ∈ b.map (·.position.x) := List.mem_map.mpr ⟨tb, htb, hl⟩
  cases a with
  | nil => exact absurd hta (by simp)
  | cons c current =>
    cases b with
    | nil => exact absurd htb (by simp)
    | cons i incoming =>
      obtain ⟨m, hm, hmem, hgreatest⟩ := Number.exists_largest ha.isWhole
      obtain ⟨k, hk, hkmem, hleast⟩ := Number.exists_smallest hb.isWhole
      -- the largest coordinate is the right edge, the smallest one the left edge
      obtain rfl : m = r := le_antisymm (ha.bounds hmem).2 (hgreatest r hright)
      obtain rfl : k = l' := le_antisymm (hleast l' hleft) (hb.bounds hkmem).1
      rw [Canvas.mergeOffset, hm, hk]
      rfl

/-! ### Blocks that move -/

/-- Tables, and other tables moved to the right of them. -/
def beside (a b : List Table) : List Table := a ++ shift b (mergeOffset a b)

theorem Spans.shift (h : Spans a l r) (d : Int) : Spans (shift a (.int d)) (l + d) (r + d) where
  within := by
    intro t ht
    obtain ⟨u, hu, rfl⟩ := List.mem_map.mp ht
    obtain ⟨x, hx, hleft, hright⟩ := h.within u hu
    refine ⟨x + d, ?_, by omega, by omega⟩
    rw [shiftTable, hx, Number.int_add_int]
  left_reached := by
    obtain ⟨t, ht, hl⟩ := h.left_reached
    exact ⟨_, List.mem_map.mpr ⟨t, ht, rfl⟩, by rw [shiftTable, hl, Number.int_add_int]⟩
  right_reached := by
    obtain ⟨t, ht, hr⟩ := h.right_reached
    exact ⟨_, List.mem_map.mpr ⟨t, ht, rfl⟩, by rw [shiftTable, hr, Number.int_add_int]⟩

/-- Of two blocks side by side, the first has the left edge and the second the right one. -/
theorem Spans.append (ha : Spans a l r) (hb : Spans b l' r') (hle : r ≤ l') :
    Spans (a ++ b) l r' where
  within := by
    have hleft := ha.le
    have hright := hb.le
    intro t ht
    rcases List.mem_append.mp ht with ht | ht
    · obtain ⟨x, hx, _, _⟩ := ha.within t ht
      exact ⟨x, hx, by omega, by omega⟩
    · obtain ⟨x, hx, _, _⟩ := hb.within t ht
      exact ⟨x, hx, by omega, by omega⟩
  left_reached := by
    obtain ⟨t, ht, hl⟩ := ha.left_reached
    exact ⟨t, List.mem_append_left _ ht, hl⟩
  right_reached := by
    obtain ⟨t, ht, hr⟩ := hb.right_reached
    exact ⟨t, List.mem_append_right _ ht, hr⟩

/-- Tables put beside others begin one step to the right of them. -/
theorem Spans.shift_mergeOffset (ha : Spans a l r) (hb : Spans b l' r') :
    Spans (Canvas.shift b (Canvas.mergeOffset a b)) (r + columnStep)
      (r + columnStep + (r' - l')) := by
  rw [ha.mergeOffset hb]
  convert hb.shift (r + columnStep - l') using 1 <;> omega

theorem Spans.beside (ha : Spans a l r) (hb : Spans b l' r') :
    Spans (Canvas.beside a b) l (r + columnStep + (r' - l')) :=
  ha.append (ha.shift_mergeOffset hb) (by unfold columnStep; omega)

/-- The distance of a move is whole between whole places. -/
theorem exists_mergeOffset (ha : ∀ t ∈ a, t.position.IsWhole) (hb : ∀ t ∈ b, t.position.IsWhole) :
    ∃ d, mergeOffset a b = .int d := by
  by_cases hane : a = []
  · exact ⟨0, by rw [hane]; rfl⟩
  by_cases hbne : b = []
  · exact ⟨0, by cases a <;> rw [hbne] <;> rfl⟩
  obtain ⟨l, r, hspans⟩ := exists_spans hane ha
  obtain ⟨l', r', hspans'⟩ := exists_spans hbne hb
  exact ⟨_, hspans.mergeOffset hspans'⟩

theorem isWhole_shift (h : ∀ t ∈ a, t.position.IsWhole) (d : Int) :
    ∀ t ∈ shift a (.int d), t.position.IsWhole := by
  refine List.forall_mem_map.mpr fun t ht => ⟨?_, (h t ht).y⟩
  obtain ⟨x, hx⟩ := (h t ht).x.exists_int
  rw [shiftTable, hx]
  trivial

theorem isWhole_beside (ha : ∀ t ∈ a, t.position.IsWhole) (hb : ∀ t ∈ b, t.position.IsWhole) :
    ∀ t ∈ beside a b, t.position.IsWhole := by
  obtain ⟨d, hd⟩ := exists_mergeOffset ha hb
  rw [beside, hd]
  exact List.forall_mem_append.mpr ⟨ha, isWhole_shift hb d⟩

/-! ### Distances -/

theorem isApart_shift {p q : Position} (h : p.IsApart q) (d : Int) :
    Position.IsApart { p with x := p.x + .int d } { q with x := q.x + .int d } := by
  obtain ⟨x, y, x', y', rfl, rfl, hgap⟩ := h.exists_int
  rw [Number.int_add_int, Number.int_add_int, Position.isApart_int]
  rwa [add_sub_add_right_eq_sub]

/-- Tables beyond the right edge of others are apart from them. -/
theorem Spans.isApart (ha : Spans a l r) (hb : Spans b l' r') (hgap : r + columnStep ≤ l')
    {t u : Table}
    (ht : t ∈ a) (hu : u ∈ b) (hty : t.position.y.IsWhole) (huy : u.position.y.IsWhole) :
    t.position.IsApart u.position := by
  obtain ⟨x, hx, _, hright⟩ := ha.within t ht
  obtain ⟨x', hx', hleft, _⟩ := hb.within u hu
  obtain ⟨y, hy⟩ := hty.exists_int
  obtain ⟨y', hy'⟩ := huy.exists_int
  have hplace : t.position = ⟨.int x, .int y⟩ := by rw [← hx, ← hy]
  have hplace' : u.position = ⟨.int x', .int y'⟩ := by rw [← hx', ← hy']
  rw [hplace, hplace', Position.isApart_int, abs_sub_comm]
  exact .inl (le_trans (by omega) (le_abs_self (x' - x)))

/-- Tables that are apart stay so when others that are apart are put beside them. -/
theorem pairwise_isApart_beside (ha : a.Pairwise fun t u => t.position.IsApart u.position)
    (hb : b.Pairwise fun t u => t.position.IsApart u.position)
    (hawhole : ∀ t ∈ a, t.position.IsWhole) (hbwhole : ∀ t ∈ b, t.position.IsWhole) :
    (beside a b).Pairwise fun t u => t.position.IsApart u.position := by
  obtain ⟨d, hd⟩ := exists_mergeOffset hawhole hbwhole
  rw [beside, hd]
  refine List.pairwise_append.mpr ⟨ha, ?_, fun t ht u hu => ?_⟩
  · -- the second block moves as a whole
    exact List.pairwise_map.mpr (hb.imp fun h => isApart_shift h d)
  · -- a table of each block: the second one begins a step beyond the first
    obtain ⟨v, hv, _⟩ := List.mem_map.mp hu
    obtain ⟨l, r, hspans⟩ := exists_spans (List.ne_nil_of_mem ht) hawhole
    obtain ⟨l', r', hspans'⟩ := exists_spans (List.ne_nil_of_mem hv) hbwhole
    have hmoved := hspans.shift_mergeOffset hspans'
    rw [hd] at hmoved
    exact hspans.isApart hmoved le_rfl ht hu (hawhole t ht).y (isWhole_shift hbwhole d u hu).y

/-- Two places of the grid are in different rows, or in one row and different columns. -/
theorem isApart_gridPosition {i j : Nat} (h : i ≠ j) :
    (gridPosition i).IsApart (gridPosition j) := by
  rw [gridPosition, gridPosition, Position.isApart_int]
  unfold origin columnStep rowStep tablesPerRow
  by_cases hrow : (i : Int) / 4 = j / 4
  · left
    rw [le_abs]
    omega
  · right
    rw [le_abs]
    omega

end Canvas

end SchemaDraft
