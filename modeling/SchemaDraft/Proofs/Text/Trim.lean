import Mathlib.Data.List.Infix
import Mathlib.Data.List.DropRight
import SchemaDraft.Proofs.Text.Runs
import SchemaDraft.Text.Alphanumeric
import SchemaDraft.Text.Blank

/-!
Blanks around a text. Trimming takes away blanks at both ends and nothing else: blanks put around a
text do not change its trimmed form (`trim_surrounded`), a text that neither starts nor ends blank
is its own (`trim_eq_self`), and the trimmed text stands in the text as one piece. No blank is a
word character.
-/

namespace SchemaDraft.Text

/-- Is every character of a text blank? -/
def AllBlank (cs : List Char) : Prop := ∀ c ∈ cs, isBlank c = true

theorem allBlank_nil : AllBlank [] := by simp [AllBlank]

/-- Does a text neither start nor end with a blank? -/
def IsTrimmed (cs : List Char) : Prop :=
  (∀ c ∈ cs.head?, isBlank c = false) ∧ ∀ c ∈ cs.getLast?, isBlank c = false

instance (cs : List Char) : Decidable (AllBlank cs) :=
  inferInstanceAs (Decidable (∀ c ∈ cs, isBlank c = true))

instance (cs : List Char) : Decidable (IsTrimmed cs) :=
  inferInstanceAs (Decidable ((∀ c ∈ cs.head?, isBlank c = false) ∧
    ∀ c ∈ cs.getLast?, isBlank c = false))

/-! ### Trimming -/

theorem trimLeft_append_of_blank {gap : List Char} (h : AllBlank gap) (cs : List Char) :
    trimLeft (gap ++ cs) = trimLeft cs := List.dropWhile_append_of_pos h

theorem trimLeft_eq_self {cs : List Char} (h : ∀ c ∈ cs.head?, isBlank c = false) :
    trimLeft cs = cs := by
  cases cs with
  | nil => rfl
  | cons c cs =>
    have hc : isBlank c = false := h c (by simp)
    rw [trimLeft, List.dropWhile_cons, hc]
    rfl

theorem trimRight_append_of_blank {gap : List Char} (h : AllBlank gap) (cs : List Char) :
    trimRight (cs ++ gap) = trimRight cs := by
  have hreverse : ∀ c ∈ gap.reverse, isBlank c = true := fun c hc => h c (List.mem_reverse.mp hc)
  rw [trimRight, List.reverse_append, List.dropWhile_append_of_pos hreverse, trimRight]

theorem trimRight_eq_self {cs : List Char} (h : ∀ c ∈ cs.getLast?, isBlank c = false) :
    trimRight cs = cs := by
  have hleft : trimLeft cs.reverse = cs.reverse := trimLeft_eq_self (by rwa [List.head?_reverse])
  rw [trimLeft] at hleft
  rw [trimRight, hleft, List.reverse_reverse]

theorem trim_eq_self {cs : List Char} (h : IsTrimmed cs) : trim cs = cs := by
  rw [trim, trimLeft_eq_self h.1, trimRight_eq_self h.2]

/-- A text between two characters that are no blanks is trimmed. -/
theorem isTrimmed_frame {c d : Char} (hc : isBlank c = false) (hd : isBlank d = false)
    (cs : List Char) : IsTrimmed (c :: (cs ++ [d])) := by
  refine ⟨fun e he => ?_, fun e he => ?_⟩
  · obtain rfl : c = e := by simpa using he
    exact hc
  · rw [← List.cons_append, List.getLast?_append] at he
    obtain rfl : d = e := by simpa using he
    exact hd

theorem trim_of_blank {cs : List Char} (h : AllBlank cs) : trim cs = [] := by
  have hleft := trimLeft_append_of_blank h []
  rw [List.append_nil] at hleft
  rw [trim, hleft]
  rfl

theorem trim_append_left {gap : List Char} (h : AllBlank gap) (cs : List Char) :
    trim (gap ++ cs) = trim cs := by rw [trim, trimLeft_append_of_blank h, trim]

theorem trim_append_right {gap : List Char} (h : AllBlank gap) (cs : List Char) :
    trim (cs ++ gap) = trim cs := by
  rw [trim, trim, trimLeft, trimLeft, List.dropWhile_append]
  -- a text of blanks only loses all of them to the left trimming
  split
  · rename_i hempty
    rw [List.isEmpty_iff.mp hempty]
    have hgap := trimLeft_append_of_blank h []
    rw [List.append_nil, trimLeft] at hgap
    rw [hgap]
    rfl
  · exact trimRight_append_of_blank h _

/-- Blanks around a text do not count. -/
theorem trim_surrounded {before after cs : List Char} (hbefore : AllBlank before)
    (hafter : AllBlank after) (hcs : IsTrimmed cs) : trim (before ++ cs ++ after) = cs := by
  rw [trim_append_right hafter, trim_append_left hbefore, trim_eq_self hcs]

theorem isPrefix_trimRight (cs : List Char) : trimRight cs <+: cs := by
  rw [trimRight, ← List.reverse_suffix, List.reverse_reverse]
  exact List.dropWhile_suffix isBlank

/-- What stands before a text that is not blank is not trimmed at its end. -/
theorem trimRight_append (cs ds : List Char) :
    trimRight (cs ++ ds) = if trimRight ds = [] then trimRight cs else cs ++ trimRight ds := by
  rw [trimRight, trimRight, trimRight, List.reverse_append, List.dropWhile_append]
  by_cases h : ds.reverse.dropWhile isBlank = []
  · rw [h]; rfl
  · rw [if_neg (by simpa using h), if_neg (by simpa using h), List.reverse_append,
      List.reverse_reverse]

theorem trimRight_append_cons {c : Char} (hc : isBlank c = false) (before after : List Char) :
    trimRight (before ++ c :: after) = before ++ c :: trimRight after := by
  have hsplit : (before ++ c :: after).reverse = after.reverse ++ c :: before.reverse := by simp
  rw [trimRight, hsplit, dropWhile_append_cons hc, List.reverse_append, List.reverse_cons,
    List.reverse_reverse, List.append_assoc]
  rfl

/-- A character that is no blank stays, and the texts on its sides are trimmed on their own. -/
theorem trim_append_cons {c : Char} (hc : isBlank c = false) (before after : List Char) :
    trim (before ++ c :: after) = trimLeft before ++ c :: trimRight after := by
  have hleft : trimLeft (before ++ c :: after) = trimLeft before ++ c :: after :=
    dropWhile_append_cons hc before after
  rw [trim, hleft, trimRight_append_cons hc]

theorem trimLeft_eq_nil {cs : List Char} : trimLeft cs = [] ↔ AllBlank cs :=
  List.dropWhile_eq_nil_iff

theorem trimRight_eq_nil {cs : List Char} : trimRight cs = [] ↔ AllBlank cs := by
  rw [trimRight, List.reverse_eq_nil_iff, List.dropWhile_eq_nil_iff]
  simp only [List.mem_reverse, AllBlank]

/-- A gap between texts that are not blank stays, and they are trimmed on their own. -/
theorem trim_append_gap {before after : List Char} (hbefore : ¬ AllBlank before)
    (hafter : ¬ AllBlank after)
    (gap : List Char) :
    trim (before ++ gap ++ after) = trimLeft before ++ gap ++ trimRight after := by
  have hleft : trimLeft (before ++ gap ++ after) = trimLeft before ++ gap ++ after := by
    have hne : before.dropWhile isBlank ≠ [] := fun hnil => hbefore (trimLeft_eq_nil.mp hnil)
    rw [List.append_assoc, trimLeft, List.dropWhile_append, if_neg (by simpa using hne),
      ← List.append_assoc, ← trimLeft]
  rw [trim, hleft, trimRight_append, if_neg fun hnil => hafter (trimRight_eq_nil.mp hnil)]

/-- The trimmed text is one piece of the text. -/
theorem isInfix_trim (cs : List Char) : trim cs <:+: cs := by
  have hleft : trimLeft cs <:+ cs := List.dropWhile_suffix isBlank
  exact (isPrefix_trimRight _).isInfix.trans hleft.isInfix

theorem isTrimmed_trim (cs : List Char) : IsTrimmed (trim cs) := by
  constructor
  · intro c hc
    have hleft := List.head?_dropWhile_not isBlank cs
    -- trimming the right keeps the first character, where the left was trimmed before
    obtain ⟨rest, hrest⟩ := isPrefix_trimRight (trimLeft cs)
    have hhead : (cs.dropWhile isBlank).head? = some c := by
      show (trimLeft cs).head? = some c
      rw [← hrest, List.head?_append, show (trimRight (trimLeft cs)).head? = some c from hc]
      rfl
    simpa [hhead] using hleft
  · intro c hc
    have hright := List.head?_dropWhile_not isBlank (trimLeft cs).reverse
    rw [trim, trimRight, List.getLast?_reverse] at hc
    rw [hc] at hright
    simpa using hright

theorem exists_trimRight (cs : List Char) : ∃ gap, AllBlank gap ∧ cs = trimRight cs ++ gap := by
  have hsplit : cs.reverse = cs.reverse.takeWhile isBlank ++ cs.reverse.dropWhile isBlank :=
    (List.takeWhile_append_dropWhile).symm
  have hreverse := congrArg List.reverse hsplit
  rw [List.reverse_reverse, List.reverse_append] at hreverse
  exact ⟨_, fun c hc => List.mem_takeWhile_imp (List.mem_reverse.mp hc), hreverse⟩

/-- Only blanks stand around the trimmed text. -/
theorem exists_trim (cs : List Char) :
    ∃ before after, AllBlank before ∧ AllBlank after ∧ cs = before ++ (trim cs ++ after) := by
  have hleft : cs = cs.takeWhile isBlank ++ trimLeft cs :=
    (List.takeWhile_append_dropWhile).symm
  obtain ⟨gap, hgap, hright⟩ := exists_trimRight (trimLeft cs)
  exact ⟨_, gap, fun c hc => List.mem_takeWhile_imp hc, hgap, hright ▸ hleft⟩

/-! ### Blanks and words -/

theorem mem_of_contains {ranges : Ranges} {n : Nat} (h : ranges.contains n = true) :
    ∃ range ∈ ranges, range.1 ≤ n ∧ n ≤ range.2 := by
  induction ranges with
  | nil => exact absurd h (by simp [Ranges.contains])
  | cons range ranges ih =>
    simp only [Ranges.contains, Bool.and_eq_true, Bool.or_eq_true, decide_eq_true_eq] at h
    rcases h with ⟨hlow, hhigh | hrest⟩
    · exact ⟨range, by simp, hlow, hhigh⟩
    · obtain ⟨r, hr, hbounds⟩ := ih hrest
      exact ⟨r, List.mem_cons_of_mem _ hr, hbounds⟩

theorem blankRanges_not_alphanumeric :
    ∀ range ∈ blankRanges, ∀ k ≤ range.2 - range.1,
      alphanumericRanges.contains (range.1 + k) = false := by
  decide +kernel

theorem not_isWordChar_of_isBlank {c : Char} (h : isBlank c = true) : isWordChar c = false := by
  obtain ⟨range, hrange, hlow, hhigh⟩ := mem_of_contains h
  have hletter := blankRanges_not_alphanumeric range hrange (c.toNat - range.1) (by omega)
  rw [Nat.add_sub_cancel' hlow] at hletter
  have hunderscore : c ≠ '_' := by
    rintro rfl; exact absurd h (by decide)
  simp [isWordChar, isAlphanumeric, hletter, hunderscore]

theorem not_isBlank_of_isWordChar {c : Char} (h : isWordChar c = true) : isBlank c = false := by
  cases hblank : isBlank c with
  | false => rfl
  | true => rw [not_isWordChar_of_isBlank hblank] at h; exact absurd h (by decide)

end SchemaDraft.Text
