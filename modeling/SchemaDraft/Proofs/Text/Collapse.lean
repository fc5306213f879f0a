import SchemaDraft.Proofs.Text.Trim

/-!
Runs of blanks inside a text. Collapsing makes every gap a single space, so its width does not count
(`collapseBlanks_gap`), not even at the end of a text (`collapseBlanks_append_of_blank`), and leaves
all other characters where they are (`collapseBlanks_append_cons`).
-/

namespace SchemaDraft.Text

theorem collapseBlanks_cons_of_blank {c : Char} (hc : isBlank c = true) (cs : List Char) :
    collapseBlanks (c :: cs) =
      if (collapseBlanks cs).head? = some ' ' then collapseBlanks cs else
        ' ' :: collapseBlanks cs := by
  rw [collapseBlanks, if_pos hc]
  cases collapseBlanks cs with
  | nil => rfl
  | cons d ds =>
    by_cases hd : d = ' '
    · subst hd
      rfl
    · simp [hd]

theorem head?_collapseBlanks_of_blank {c : Char} (hc : isBlank c = true) (cs : List Char) :
    (collapseBlanks (c :: cs)).head? = some ' ' := by
  rw [collapseBlanks_cons_of_blank hc]
  split
  · assumption
  · rfl

theorem collapseBlanks_cons_of_not_blank {c : Char} (hc : isBlank c = false) (cs : List Char) :
    collapseBlanks (c :: cs) = c :: collapseBlanks cs := by
  rw [collapseBlanks, hc, if_neg (by decide)]

/-- A character that is no blank stays, and the texts on its sides are collapsed on their own. -/
theorem collapseBlanks_append_cons {c : Char} (hc : isBlank c = false) (before after : List Char) :
    collapseBlanks (before ++ c :: after) = collapseBlanks before ++ c :: collapseBlanks after := by
  have hspace : c ≠ ' ' := by
    rintro rfl
    exact absurd hc (by decide)
  induction before with
  | nil => exact collapseBlanks_cons_of_not_blank hc after
  | cons b before ih =>
    rw [List.cons_append]
    cases hb : isBlank b with
    | true =>
      -- what follows the text starts with no space, so it does not join a run of blanks
      have hhead : (collapseBlanks before ++ c :: collapseBlanks after).head? = some ' ' ↔
          (collapseBlanks before).head? = some ' ' := by
        cases collapseBlanks before <;> simp [hspace]
      rw [collapseBlanks_cons_of_blank hb, collapseBlanks_cons_of_blank hb, ih]
      simp only [hhead]
      split <;> rfl
    | false =>
      rw [collapseBlanks_cons_of_not_blank hb, collapseBlanks_cons_of_not_blank hb, ih]; rfl

/-- Of a text, what comes before it sees only its collapsed form. -/
theorem collapseBlanks_append_congr {ys zs : List Char} (h : collapseBlanks ys = collapseBlanks zs)
    (xs : List Char) : collapseBlanks (xs ++ ys) = collapseBlanks (xs ++ zs) := by
  induction xs with
  | nil => exact h
  | cons x xs ih => rw [List.cons_append, List.cons_append, collapseBlanks, collapseBlanks, ih]

/-- A gap of any width is a space. -/
theorem collapseBlanks_gap {gap : List Char} (hgap : AllBlank gap) (hne : gap ≠ [])
    (cs : List Char) : collapseBlanks (gap ++ cs) = collapseBlanks (' ' :: cs) := by
  have hspace : isBlank ' ' = true := by decide
  induction gap with
  | nil => exact absurd rfl hne
  | cons b gap ih =>
    obtain ⟨hb, hrest⟩ := List.forall_mem_cons.mp hgap
    rw [List.cons_append, collapseBlanks_cons_of_blank hb]
    cases gap with
    | nil => exact (collapseBlanks_cons_of_blank hspace cs).symm
    | cons d gap =>
      rw [ih hrest (List.cons_ne_nil d gap), if_pos (head?_collapseBlanks_of_blank hspace cs)]

/-- Blanks at the end leave a space or nothing. -/
theorem collapseBlanks_append_of_blank {gap : List Char} (hgap : AllBlank gap) (cs : List Char) :
    collapseBlanks (cs ++ gap) = collapseBlanks cs ∨
      collapseBlanks (cs ++ gap) = collapseBlanks cs ++ [' '] := by
  induction cs with
  | nil =>
    cases gap with
    | nil => exact .inl rfl
    | cons b gap =>
      have hwide := collapseBlanks_gap hgap (List.cons_ne_nil b gap) []
      rw [List.append_nil] at hwide
      exact .inr hwide
  | cons c cs ih =>
    rw [List.cons_append]
    cases hc : isBlank c with
    | false =>
      rw [collapseBlanks_cons_of_not_blank hc, collapseBlanks_cons_of_not_blank hc]
      exact ih.imp (congrArg (c :: ·)) (congrArg (c :: ·))
    | true =>
      rw [collapseBlanks_cons_of_blank hc, collapseBlanks_cons_of_blank hc]
      rcases ih with ih | ih
      · exact .inl (by rw [ih])
      · rw [ih]
        cases collapseBlanks cs with
        | nil => exact .inl rfl
        | cons d ds =>
          right
          by_cases hd : d = ' ' <;> simp [hd]

end SchemaDraft.Text
