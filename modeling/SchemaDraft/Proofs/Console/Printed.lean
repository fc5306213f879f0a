import SchemaDraft.Proofs.Catalogue.UniqueKeys
import SchemaDraft.Proofs.Document.Loaded
import SchemaDraft.Proofs.Edit.Layout

/-!
What commands print can be written. A coordinate of a document is a double or zero
(`isNear_loadText`), and one of the grid grows with the number of tables only downwards
(`isNear_gridPosition`). So no merge that a command makes overflows (`tryImport_load_draw`), and
what it prints has a text unless there are more tables than any machine holds
(`toText_of_isPrinted`). No merge of integers overflows at all (`tryImport_of_isWhole`).
-/

namespace SchemaDraft

variable {m n : Nat} {s s' : Schema} {mode : ImportMode} {ids : IdSupply}

/-! ### Near numbers -/

namespace Number

/-- Is this a double, or an integer no further from zero than a bound? -/
def IsNear (bound : Nat) : Number → Prop
  | int k => k.natAbs ≤ bound
  | real _ => True

variable {a b : Number}

theorem IsNear.mono (h : a.IsNear m) (hle : m ≤ n) : a.IsNear n := by
  cases a with
  | int k => exact le_trans h hle
  | real x => trivial

theorem IsNear.add (ha : a.IsNear m) (hb : b.IsNear n) : (a + b).IsNear (m + n) := by
  cases a with
  | int j =>
    cases b with
    | int k => exact (Int.natAbs_add_le j k).trans (Nat.add_le_add ha hb)
    | real y => trivial
  | real x => trivial

theorem IsNear.sub (ha : a.IsNear m) (hb : b.IsNear n) : (a - b).IsNear (m + n) := by
  cases a with
  | int j =>
    cases b with
    | int k => exact (Int.natAbs_sub_le j k).trans (Nat.add_le_add ha hb)
    | real y => trivial
  | real x => trivial

theorem isBeyondReals_eq_false {k : Int} (h : k.natAbs < realBound) : isBeyondReals k = false := by
  unfold isBeyondReals
  rw [decide_eq_false_iff_not, not_le]
  exact h

theorem IsNear.overflows (ha : a.IsNear m) (hb : b.IsNear m) (hm : m < realBound) :
    a.overflows b = false := by
  cases a <;> cases b
  case int.real k x => exact isBeyondReals_eq_false (lt_of_le_of_lt ha hm)
  case real.int x k => exact isBeyondReals_eq_false (lt_of_le_of_lt hb hm)
  all_goals rfl

theorem IsWhole.overflows (ha : a.IsWhole) (hb : b.IsWhole) : a.overflows b = false := by
  obtain ⟨j, rfl⟩ := ha.exists_int
  obtain ⟨k, rfl⟩ := hb.exists_int
  rfl

/-- An integer has a digit more only at the next power of ten. -/
theorem IsNear.isWritable (h : a.IsNear n) (hn : n < 10 ^ Json.maxDigits) :
    Json.isWritable a = true := by
  cases a with
  | int k =>
    have hlength : (Nat.toDigits 10 k.natAbs).length ≤ Json.maxDigits :=
      (Nat.length_toDigits_le_iff (by decide) (by decide)).mpr (lt_of_le_of_lt h hn)
    exact decide_eq_true hlength
  | real x => rfl

theorem isNear_largest {first : Number} {rest : List Number}
    (h : ∀ a ∈ first :: rest, a.IsNear n) : (largest first rest).IsNear n :=
  h _ (foldl_best_mem lt first rest)

theorem isNear_smallest {first : Number} {rest : List Number}
    (h : ∀ a ∈ first :: rest, a.IsNear n) : (smallest first rest).IsNear n :=
  h _ (foldl_best_mem (fun best x => lt x best) first rest)

end Number

/-! ### Near tables -/

/-- Are the coordinates of all tables doubles, or integers that near to zero? The first bound is for
those to the right, the second for those down. -/
def Canvas.IsNear (right down : Nat) (tables : List Table) : Prop :=
  ∀ t ∈ tables, t.position.x.IsNear right ∧ t.position.y.IsNear down

namespace Canvas

variable {tables tables' : List Table} {right right' down down' : Nat}

theorem isNear_gridPosition (k : Nat) :
    (gridPosition k).x.IsNear 1180 ∧ (gridPosition k).y.IsNear (100 + 280 * k) := by
  have hx : (100 + (k : Int) % 4 * 360).natAbs ≤ 1180 := by omega
  have hy : (100 + (k : Int) / 4 * 280).natAbs ≤ 100 + 280 * k := by omega
  exact ⟨hx, hy⟩

/-- The offset of a merge is near, and so is the way to it: the rightmost coordinate is one of the
first tables', the leftmost one of the others'. -/
theorem IsNear.mergeOffset (h : IsNear right down tables) (h' : IsNear right' down' tables')
    (hbound : right + 360 + right' < Number.realBound) :
    (mergeOffset tables tables').IsNear (right + 360 + right') ∧
      offsetOverflows tables tables' = false := by
  have hzero : (Number.int 0).IsNear (right + 360 + right') := Nat.zero_le _
  cases tables with
  | nil => exact ⟨hzero, rfl⟩
  | cons c current =>
    cases tables' with
    | nil => exact ⟨hzero, rfl⟩
    | cons i incoming =>
      have hx : ∀ a ∈ (c :: current).map (·.position.x), a.IsNear right :=
        List.forall_mem_map.mpr fun t ht => (h t ht).1
      have hx' : ∀ a ∈ (i :: incoming).map (·.position.x), a.IsNear right' :=
        List.forall_mem_map.mpr fun t ht => (h' t ht).1
      have hstep : (Number.int columnStep).IsNear 360 := le_refl 360
      -- the offset is the right edge and a gap, less the left edge of what comes in
      have hedge := (Number.isNear_largest hx).add hstep
      have hleast := Number.isNear_smallest hx'
      exact ⟨hedge.sub hleast,
        (hedge.mono (Nat.le_add_right _ _)).overflows (hleast.mono (Nat.le_add_left _ _)) hbound⟩

theorem IsNear.shift {dx : Number} (h : IsNear right down tables) (hdx : dx.IsNear right') :
    IsNear (right + right') down (shift tables dx) :=
  List.forall_mem_map.mpr fun t ht => ⟨(h t ht).1.add hdx, (h t ht).2⟩

theorem IsNear.shiftOverflows {dx : Number} (h : IsNear right down tables) (hdx : dx.IsNear right')
    (hle : right ≤ right') (hbound : right' < Number.realBound) :
    shiftOverflows tables dx = false :=
  List.any_eq_false.mpr fun t ht =>
    Bool.eq_false_iff.mp (((h t ht).1.mono hle).overflows hdx hbound)

theorem IsNear.mono (h : IsNear right down tables) (hright : right ≤ right')
    (hdown : down ≤ down') : IsNear right' down' tables :=
  fun t ht => ⟨(h t ht).1.mono hright, (h t ht).2.mono hdown⟩

theorem offsetOverflows_of_isWhole (h : ∀ t ∈ tables, t.position.IsWhole)
    (h' : ∀ t ∈ tables', t.position.IsWhole) : offsetOverflows tables tables' = false := by
  cases tables with
  | nil => rfl
  | cons c current =>
    cases tables' with
    | nil => rfl
    | cons i incoming =>
      have hx : ∀ a ∈ (c :: current).map (·.position.x), a.IsWhole :=
        List.forall_mem_map.mpr fun t ht => (h t ht).x
      have hx' : ∀ a ∈ (i :: incoming).map (·.position.x), a.IsWhole :=
        List.forall_mem_map.mpr fun t ht => (h' t ht).x
      obtain ⟨right, hright, _⟩ := Number.exists_largest hx
      obtain ⟨left, hleft, _⟩ := Number.exists_smallest hx'
      rw [offsetOverflows, hright, hleft]
      rfl

end Canvas

/-! ### Merges -/

/-- No merge of near tables overflows. -/
theorem Schema.tryImport_of_isNear {right right' down down' : Nat}
    (h : Canvas.IsNear right down s.tables) (h' : Canvas.IsNear right' down' s'.tables)
    (hbound : right + 360 + right' < Number.realBound) :
    s.tryImport s' mode = some (s.importFrom s' mode) := by
  cases mode with
  | replace => rfl
  | merge =>
    -- neither finding the offset nor moving by it overflows
    obtain ⟨hoffset, hway⟩ := h.mergeOffset h' hbound
    have hmoves := h'.shiftOverflows hoffset (Nat.le_add_left _ _) hbound
    simp only [tryImport, importOverflows, hway, hmoves, Bool.or_self, Bool.false_eq_true, if_false]

/-- No merge of integers overflows, however far they are. -/
theorem Schema.tryImport_of_isWhole (h : s.IsWhole) (h' : s'.IsWhole) :
    s.tryImport s' mode = some (s.importFrom s' mode) := by
  cases mode with
  | replace => rfl
  | merge =>
    have hway := Canvas.offsetOverflows_of_isWhole h h'
    obtain ⟨d, hd⟩ := Canvas.exists_mergeOffset h h'
    have hmoves : Canvas.shiftOverflows s'.tables (.int d) = false :=
      List.any_eq_false.mpr fun t ht => Bool.eq_false_iff.mp ((h' t ht).x.overflows trivial)
    simp only [tryImport, importOverflows, hway, hd, hmoves, Bool.or_self, Bool.false_eq_true,
      if_false]

theorem Schema.length_le_importFrom (s s' : Schema) (mode : ImportMode) :
    s'.tables.length ≤ (s.importFrom s' mode).tables.length := by
  cases mode with
  | replace => exact le_rfl
  | merge => simp [importFrom, Canvas.shift]

theorem Canvas.isNear_importFrom {right right' down down' : Nat}
    (h : Canvas.IsNear right down s.tables) (h' : Canvas.IsNear right' down' s'.tables)
    (hbound : right + 360 + right' < Number.realBound) (mode : ImportMode) :
    Canvas.IsNear (right' + (right + 360 + right')) (down + down')
      (s.importFrom s' mode).tables := by
  cases mode with
  | replace => exact h'.mono (Nat.le_add_right _ _) (Nat.le_add_left _ _)
  | merge =>
    have hmoved := h'.shift (h.mergeOffset h' hbound).1
    exact List.forall_mem_append.mpr
      ⟨h.mono (by omega) (Nat.le_add_right _ _), hmoved.mono le_rfl (Nat.le_add_left _ _)⟩

/-! ### What commands print -/

theorem Script.Contents.isNear_draw (contents : Contents) (ids : IdSupply) :
    let drawn := (contents.draw ids).schema.tables
    Canvas.IsNear 1180 (100 + 280 * drawn.length) drawn := by
  intro drawn t ht
  obtain ⟨k, hk⟩ := List.mem_iff_getElem?.mp ht
  have hplace : t.position = Canvas.gridPosition (0 + k : Nat) := Canvas.position_of_placeFrom hk
  have hlt : k < drawn.length := (List.getElem?_eq_some_iff.mp hk).1
  -- four columns bound the first coordinate, the number of tables the second
  obtain ⟨hx, hy⟩ := Canvas.isNear_gridPosition (0 + k)
  rw [hplace]
  exact ⟨hx, hy.mono (by omega)⟩

namespace Document

variable {form : Form} {v : Json} {drawn : Drawn}

theorem exists_real_of_readCoordinate {a : Number} (h : readCoordinate form v = .ok a) :
    ∃ x, a = .real x := by
  unfold readCoordinate at h
  split at h
  · split at h
    · exact absurd h (by simp)
    · exact ⟨_, (Except.ok.inj h).symm⟩
  · exact ⟨_, (Except.ok.inj h).symm⟩
  · split at h
    · exact ⟨_, (Except.ok.inj h).symm⟩
    · exact absurd h (by simp)
  · exact absurd h (by simp)

theorem Says.eq_or_exists {α : Type} {name : String} {default a : α} {reads : Json → α → Prop}
    (h : Says v name default reads a) : a = default ∨ ∃ w, reads w a := by
  unfold Says at h
  split at h
  · exact .inr ⟨_, h⟩
  · exact .inl h

theorem Threaded.exists_of_mem {α β : Type} {R : α → IdSupply → β → IdSupply → Prop} {as : List α}
    {bs : List β} {rest : IdSupply} (h : Threaded R as ids bs rest) :
    ∀ b ∈ bs, ∃ a ids rest, R a ids b rest := by
  induction h with
  | nil ids => simp
  | cons h _ ih => exact List.forall_mem_cons.mpr ⟨⟨_, _, _, h⟩, ih⟩

theorem isNear_load (h : load form v ids = .ok drawn) : Canvas.IsNear 0 0 drawn.schema.tables := by
  have hcoordinate : ∀ (w : Json) (name : String) (a : Number),
      Says w name 0 (ReadsAs (readCoordinate form)) a → a.IsNear 0 := by
    intro w name a ha
    rcases ha.eq_or_exists with rfl | ⟨u, hu⟩
    · exact le_refl 0
    · obtain ⟨x, rfl⟩ := exists_real_of_readCoordinate hu
      trivial
  obtain ⟨written, hloaded⟩ := isLoaded_iff.mpr h
  obtain ⟨tables, _, _, _, _, htables, _⟩ := hloaded.parts
  intro t ht
  obtain ⟨w, _, _, htable⟩ := htables.exists_of_mem t ht
  -- without a position the table stands at the origin; a read coordinate is a float
  rcases htable.position.eq_or_exists with hplace | ⟨u, hu⟩
  · rw [hplace]
    exact ⟨le_refl 0, le_refl 0⟩
  · exact ⟨hcoordinate u "x" _ hu.x, hcoordinate u "y" _ hu.y⟩

theorem isNear_loadText {text : String} (h : loadText text ids = .ok drawn) :
    Canvas.IsNear 0 0 drawn.schema.tables := by
  unfold loadText loadTextWithin at h
  split at h
  · exact isNear_load h
  · exact absurd h (by simp)

end Document

namespace Console

/-- The drawings that commands print: those of scripts and databases, and what is made of a document
and a script. -/
inductive IsPrinted : Schema → Prop where
  | parsed (script : String) (ids : IdSupply) : IsPrinted (Script.draw script ids).schema
  | reflected {catalogue : Catalogue} {ids : IdSupply} {drawn : Drawn}
    (h : catalogue.draw ids = .ok drawn) : IsPrinted drawn.schema
  | merged {document : String} {ids : IdSupply} {drawn : Drawn}
    (h : Document.loadText document ids = .ok drawn) (script : String) (ids' : IdSupply)
    (mode : ImportMode) : IsPrinted (drawn.schema.importFrom (Script.draw script ids').schema mode)

/-- A place of the first row and the step between places are within the doubles. -/
theorem places_lt_realBound : 0 + 360 + 1180 < Number.realBound := by decide +kernel

/-- No merge that a command makes overflows. -/
theorem tryImport_load_draw {document : String} {drawn : Drawn}
    (h : Document.loadText document ids = .ok drawn) (script : String) (ids' : IdSupply)
    (mode : ImportMode) :
    let imported := (Script.draw script ids').schema
    drawn.schema.tryImport imported mode = some (drawn.schema.importFrom imported mode) :=
  Schema.tryImport_of_isNear (Document.isNear_loadText h) (Script.Contents.isNear_draw _ _)
    places_lt_realBound

/-- Printed drawings grow only with the number of their tables. -/
theorem IsPrinted.isNear {s : Schema} (h : IsPrinted s) :
    Canvas.IsNear 2720 (100 + 280 * s.tables.length) s.tables := by
  cases h with
  | parsed script ids => exact (Script.Contents.isNear_draw _ ids).mono (by decide) le_rfl
  | reflected h =>
    obtain ⟨contents, _, rfl⟩ := Catalogue.exists_contents_of_draw h
    exact (contents.isNear_draw _).mono (by decide) le_rfl
  | @merged _ _ drawn h script ids' mode =>
    -- importing keeps every table that comes in, so there are at least as many
    have hcount := drawn.schema.length_le_importFrom (Script.draw script ids').schema mode
    have hnear : Canvas.IsNear 1180 (100 + 280 * (Script.draw script ids').schema.tables.length)
      (Script.draw script ids').schema.tables := Script.Contents.isNear_draw _ ids'
    have hmade :=
      Canvas.isNear_importFrom (Document.isNear_loadText h) hnear places_lt_realBound mode
    exact hmade.mono (by decide) (by omega)

/-- What commands print has a text, with any indentation in 64 bits. -/
theorem toText_of_isPrinted {s : Schema} (h : IsPrinted s) (hcount : s.tables.length ≤ 10 ^ 4000)
    {width : Option Int} (hwidth : Json.fitsIndent width = true) :
    s.toText width = .ok (s.writtenText width) := by
  have hright : 2720 < 10 ^ Json.maxDigits := by decide +kernel
  have hdown : 100 + 280 * s.tables.length < 10 ^ Json.maxDigits :=
    lt_of_le_of_lt (Nat.add_le_add_left (Nat.mul_le_mul_left 280 hcount) 100) (by decide +kernel)
  refine Document.toText_eq_ok_iff.mpr ⟨⟨hwidth, fun t ht => ?_⟩, rfl⟩
  obtain ⟨hx, hy⟩ := h.isNear t ht
  exact ⟨hx.isWritable hright, hy.isWritable hdown⟩

end Console

end SchemaDraft
