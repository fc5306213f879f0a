import Mathlib.Data.List.Chain
import SchemaDraft.Proofs.Text.LetterCase

/-!
Texts in which one given character never comes right before another: `Avoids '-' '-'` is a text
without the mark of a line comment, `Avoids '/' '*'` one without the start of a block comment. A
text put together from such texts is one if no seam makes the pair (`avoids_append`), and lowering
makes no pair of marks (`avoids_lower`).
-/

namespace SchemaDraft.Text

/-- Does `a` never come right before `b`? -/
def Avoids (a b : Char) (cs : List Char) : Prop := cs.IsChain fun c d => ¬(c = a ∧ d = b)

variable {a b : Char}

instance (cs : List Char) : Decidable (Avoids a b cs) :=
  inferInstanceAs (Decidable (cs.IsChain fun c d => ¬(c = a ∧ d = b)))

theorem avoids_iff_not_isInfix {cs : List Char} : Avoids a b cs ↔ ¬ [a, b] <:+: cs := by
  rw [Avoids, List.isChain_iff_forall_rel_of_append_cons_cons]
  constructor
  · rintro h ⟨before, after, rfl⟩
    exact @h a b before after (by simp) ⟨rfl, rfl⟩
  · rintro h c d before after rfl ⟨rfl, rfl⟩
    exact h ⟨before, after, by simp⟩

@[simp]
theorem avoids_nil : Avoids a b [] := List.isChain_nil

@[simp]
theorem avoids_singleton (c : Char) : Avoids a b [c] := List.isChain_singleton c

theorem avoids_cons_cons {c d : Char} {cs : List Char} :
    Avoids a b (c :: d :: cs) ↔ ¬(c = a ∧ d = b) ∧ Avoids a b (d :: cs) := List.isChain_cons_cons

theorem avoids_append {cs ds : List Char} :
    Avoids a b (cs ++ ds) ↔
      Avoids a b cs ∧ Avoids a b ds ∧ ∀ c ∈ cs.getLast?, ∀ d ∈ ds.head?, ¬(c = a ∧ d = b) :=
  List.isChain_append

theorem Avoids.of_isInfix {cs ds : List Char} (h : Avoids a b ds) (hin : cs <:+: ds) :
    Avoids a b cs := List.IsChain.infix h hin

theorem avoids_of_notMem_left {cs : List Char} (h : a ∉ cs) : Avoids a b cs := by
  rw [avoids_iff_not_isInfix]
  exact fun hin => h (hin.subset (by simp))

theorem avoids_of_notMem_right {cs : List Char} (h : b ∉ cs) : Avoids a b cs := by
  rw [avoids_iff_not_isInfix]
  exact fun hin => h (hin.subset (by simp))

/-- A pair is not made at a seam whose left side does not end in its first character. -/
theorem Avoids.append_left {cs ds : List Char} (hcs : Avoids a b cs) (hds : Avoids a b ds)
    (h : ∀ c ∈ cs.getLast?, c ≠ a) : Avoids a b (cs ++ ds) :=
  avoids_append.mpr ⟨hcs, hds, fun c hc _ _ hpair => h c hc hpair.1⟩

/-- A pair is not made at a seam whose right side does not start with its second character. -/
theorem Avoids.append_right {cs ds : List Char} (hcs : Avoids a b cs) (hds : Avoids a b ds)
    (h : ∀ d ∈ ds.head?, d ≠ b) : Avoids a b (cs ++ ds) :=
  avoids_append.mpr ⟨hcs, hds, fun _ _ d hd hpair => h d hd hpair.2⟩

/-- Lowering makes no pair of marks. -/
theorem avoids_lower (ha : a.toNat < 97) (hb : b.toNat < 97) {cs : List Char}
    (h : Avoids a b cs) : Avoids a b (lower cs) := by
  suffices hfrom : ∀ before, Avoids a b (lowerFrom before cs) from hfrom false
  induction cs with
  | nil => intro before; exact avoids_nil
  | cons c cs ih =>
    intro before
    obtain ⟨piece, hpiece, _, hspec⟩ := lowerFrom_cons before c cs
    -- a lower-cased letter holds the first of the pair only when it is that letter itself
    have hinside : Avoids a b piece := by
      by_cases hmem : a ∈ piece
      · rw [((hspec a hmem).2 ha).1]; exact avoids_singleton c
      · exact avoids_of_notMem_left hmem
    have hrest : Avoids a b cs := h.of_isInfix (List.suffix_cons c cs).isInfix
    rw [hpiece]
    refine avoids_append.mpr ⟨hinside, ih hrest _, ?_⟩
    rintro x hx y hy ⟨rfl, rfl⟩
    obtain rfl : x = c := ((hspec x (List.mem_of_getLast? hx)).2 ha).2
    -- the character at the seam comes from the next one of the text, which stands right after `x`
    cases cs with
    | nil => exact absurd hy (by simp [lowerFrom])
    | cons e cs =>
      obtain ⟨next, hnext, hne, hspec'⟩ := lowerFrom_cons (casedAfter before x) e cs
      rw [hnext, List.head?_append_of_ne_nil _ hne] at hy
      obtain rfl : y = e := ((hspec' y (List.mem_of_mem_head? hy)).2 hb).2
      exact (avoids_cons_cons.mp h).1 ⟨rfl, rfl⟩

end SchemaDraft.Text
