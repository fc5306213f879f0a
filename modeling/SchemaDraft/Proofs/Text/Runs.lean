import SchemaDraft.Text.Ranges

/-!
Runs of characters of one kind. A run that is read as far as it goes is read whole, and leaves what
stands after it, if that does not go on with the run.
-/

namespace SchemaDraft.Text

/-- Does a text that is not empty start with a character of a kind? -/
def Starts (p : Char → Bool) (cs : List Char) : Prop := ∀ c ∈ cs.head?, p c = true

instance (p : Char → Bool) (cs : List Char) : Decidable (Starts p cs) :=
  inferInstanceAs (Decidable (∀ c ∈ cs.head?, p c = true))

variable {p : Char → Bool} {cs taken rest : List Char}

theorem starts_cons {c : Char} : Starts p (c :: cs) ↔ p c = true := by
  simp [Starts]

theorem starts_nil : Starts p [] := by simp [Starts]

/-- The start of a text that is not empty is the start of the whole. -/
theorem Starts.append {before : List Char} (h : ∀ c ∈ before, p c = true)
    (hrest : Starts p rest) : Starts p (before ++ rest) := by
  cases before with
  | nil => exact hrest
  | cons c before => exact starts_cons.mpr (h c (by simp))

theorem Starts.of_isPrefix {before whole : List Char} (h : Starts p whole)
    (hstart : before <+: whole) : Starts p before := by
  obtain ⟨after, rfl⟩ := hstart
  cases before with
  | nil => exact starts_nil
  | cons c before => exact starts_cons.mpr (starts_cons.mp h)

theorem takeWhile_append_of_stop (htaken : ∀ c ∈ taken, p c = true)
    (hrest : Starts (fun c => !p c) rest) : (taken ++ rest).takeWhile p = taken := by
  rw [List.takeWhile_append_of_pos htaken]
  cases rest with
  | nil => simp
  | cons c rest =>
    have hc : p c = false := by simpa using starts_cons.mp hrest
    simp [hc]

theorem dropWhile_append_of_stop (htaken : ∀ c ∈ taken, p c = true)
    (hrest : Starts (fun c => !p c) rest) : (taken ++ rest).dropWhile p = rest := by
  rw [List.dropWhile_append_of_pos htaken]
  cases rest with
  | nil => rfl
  | cons c rest =>
    have hc : p c = false := by simpa using starts_cons.mp hrest
    simp [hc]

/-- A run ends at a character of another kind, whatever comes after it. -/
theorem takeWhile_append_cons {c : Char} (hc : p c = false) (before after : List Char) :
    (before ++ c :: after).takeWhile p = before.takeWhile p := by
  induction before with
  | nil => simp [hc]
  | cons b before ih => rw [List.cons_append, List.takeWhile_cons, List.takeWhile_cons, ih]

theorem dropWhile_append_cons {c : Char} (hc : p c = false) (before after : List Char) :
    (before ++ c :: after).dropWhile p = before.dropWhile p ++ c :: after := by
  induction before with
  | nil => simp [hc]
  | cons b before ih =>
    rw [List.cons_append, List.dropWhile_cons, List.dropWhile_cons]
    split
    · exact ih
    · rfl

end SchemaDraft.Text
