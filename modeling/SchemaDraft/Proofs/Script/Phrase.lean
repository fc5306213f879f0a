import Mathlib.Data.List.Forall2
import SchemaDraft.Proofs.Text.Runs
import SchemaDraft.Proofs.Text.Trim
import SchemaDraft.Script.Name

/-!
Phrases, as they are written and as they are read. A keyword is written in any of the forms of its
letters (`Spells`), a name bare or in quotes (`Writes`), a dotted name with blanks around its dots
(`WritesPath`). Readers give back what was written and leave what stands after it, whatever that is,
as long as it can not be taken for more of the same. A keyword that is read from the start of a
longer word leaves a letter of it (`keyword_of_word`).
-/

namespace SchemaDraft.Script

open Reader Text

/-- The keywords of everything that is read, in capitals. -/
def keywords : List String :=
  ["CREATE", "GLOBAL", "LOCAL", "TEMPORARY", "TEMP", "UNLOGGED", "TABLE", "IF", "NOT", "EXISTS",
    "ALTER", "ONLY", "ADD", "CONSTRAINT", "PRIMARY", "FOREIGN", "KEY", "REFERENCES", "UNIQUE",
    "INDEX", "CHECK", "EXCLUDE", "USING", "FULLTEXT", "SPATIAL", "NULL", "DEFAULT", "GENERATED",
    "COLLATE"]

/-- Is a text a keyword, given in capitals, in any forms of its letters? -/
def Spells (word : String) (text : List Char) : Prop :=
  List.Forall₂ (fun k c => c ∈ letterForms k) word.toList text

variable {α β : Type} {rest cs : List Char}

/-! ### Steps of a reader -/

theorem bind_of_eq {r : Reader α} {a : α} (h : r cs = some (a, rest)) (f : α → Reader β) :
    (r >>= f) cs = f a rest := by rw [bind_apply, h]; rfl

theorem bind_of_none {r : Reader α} (h : r cs = none) (f : α → Reader β) :
    (r >>= f) cs = none := by rw [bind_apply, h]; rfl

theorem bind_eq_some {r : Reader α} {f : α → Reader β} {b : β}
    (h : (r >>= f) cs = some (b, rest)) :
    ∃ a mid, r cs = some (a, mid) ∧ f a mid = some (b, rest) := by
  rw [bind_apply] at h
  obtain ⟨⟨a, mid⟩, hr, hf⟩ := Option.bind_eq_some_iff.mp h
  exact ⟨a, mid, hr, hf⟩

theorem optional_of_some {r : Reader Unit} (h : r cs = some ((), rest)) :
    Reader.optional r cs = some ((), rest) := by simp only [Reader.optional, h]

theorem optional_of_none {r : Reader Unit} (h : r cs = none) :
    Reader.optional r cs = some ((), cs) := by simp only [Reader.optional, h]

theorem firstOf_of_some {r : Reader α} {rs : List (Reader α)} {a : α} (h : r cs = some (a, rest)) :
    firstOf (r :: rs) cs = some (a, rest) := by simp only [firstOf, h]

theorem firstOf_of_none {r : Reader α} {rs : List (Reader α)} (h : r cs = none) :
    firstOf (r :: rs) cs = firstOf rs cs := by simp only [firstOf, h]

/-- Some reader reads if one of them does. -/
theorem exists_firstOf {rs : List (Reader α)} {r : Reader α} (hr : r ∈ rs) {a : α}
    (h : r cs = some (a, rest)) : ∃ b left, firstOf rs cs = some (b, left) := by
  induction rs with
  | nil => exact absurd hr (by simp)
  | cons r' rs ih =>
    cases hread : r' cs with
    | some found => exact ⟨found.1, found.2, firstOf_of_some hread⟩
    | none =>
      rw [firstOf_of_none hread]
      rcases List.mem_cons.mp hr with rfl | hr
      · exact absurd (hread.symm.trans h) (by simp)
      · exact ih hr

theorem firstOf_eq_none {rs : List (Reader α)} (h : ∀ r ∈ rs, r cs = none) :
    firstOf rs cs = none := by
  induction rs with
  | nil => rfl
  | cons r rs ih =>
    rw [firstOf_of_none (h r (by simp))]
    exact ih fun r hr => h r (List.mem_cons_of_mem _ hr)

theorem exists_of_firstOf {rs : List (Reader α)} {a : α} (h : firstOf rs cs = some (a, rest)) :
    ∃ r ∈ rs, r cs = some (a, rest) := by
  induction rs with
  | nil => exact absurd h (by simp [firstOf, refuse])
  | cons r rs ih =>
    cases hr : r cs with
    | some found =>
      simp only [firstOf, hr] at h
      exact ⟨r, by simp, hr.trans h⟩
    | none =>
      rw [firstOf_of_none hr] at h
      obtain ⟨s, hs, hread⟩ := ih h
      exact ⟨s, List.mem_cons_of_mem _ hs, hread⟩

/-! ### Characters and runs -/

theorem char_cons (c : Char) : char c (c :: rest) = some ((), rest) := by simp [char]

theorem char_eq_none {c : Char} (h : Starts (· ≠ c) cs) : char c cs = none := by
  cases cs with
  | nil => rfl
  | cons d cs =>
    have hd : d ≠ c := by simpa using starts_cons.mp h
    simp [char, hd.symm]

theorem char_eq_some {c : Char} (h : char c cs = some ((), rest)) : cs = c :: rest := by
  cases cs with
  | nil => exact absurd h (by simp [char])
  | cons d cs =>
    by_cases hd : c = d
    · simp only [char, hd, if_pos] at h
      obtain rfl := congrArg Prod.snd (Option.some.inj h)
      rw [hd]
    · exact absurd h (by simp [char, hd])

section Runs

variable {p : Char → Bool} {taken : List Char}

theorem run_append (htaken : ∀ c ∈ taken, p c = true) (hrest : Starts (fun c => !p c) rest) :
    run p (taken ++ rest) = some (taken, rest) := by
  rw [run, takeWhile_append_of_stop htaken hrest, dropWhile_append_of_stop htaken hrest]

theorem run1_append (hne : taken ≠ []) (htaken : ∀ c ∈ taken, p c = true)
    (hrest : Starts (fun c => !p c) rest) : run1 p (taken ++ rest) = some (taken, rest) := by
  rw [run1, takeWhile_append_of_stop htaken hrest, dropWhile_append_of_stop htaken hrest,
    if_neg hne]

theorem run1_eq_none (h : Starts (fun c => !p c) cs) : run1 p cs = none := by
  have hnil : ∀ c ∈ ([] : List Char), p c = true := by simp
  have hempty : cs.takeWhile p = [] := takeWhile_append_of_stop hnil h
  rw [run1, if_pos hempty]

theorem run1_eq_some (h : run1 p cs = some (taken, rest)) :
    cs = taken ++ rest ∧ taken ≠ [] ∧ (∀ c ∈ taken, p c = true) ∧
      Starts (fun c => !p c) rest := by
  rw [run1] at h
  split at h
  · exact absurd h (by simp)
  · rename_i hne
    obtain ⟨rfl, rfl⟩ := Prod.mk.inj (Option.some.inj h)
    refine ⟨(List.takeWhile_append_dropWhile).symm, hne, fun c hc => List.mem_takeWhile_imp hc, ?_⟩
    intro c hc
    have hstop := List.head?_dropWhile_not p cs
    rw [hc] at hstop
    simpa using hstop

end Runs

/-- Is this no blank? -/
def isInk (c : Char) : Bool := !isBlank c

theorem isInk_of_isWordChar {c : Char} (h : isWordChar c = true) : isInk c = true := by
  rw [isInk, not_isBlank_of_isWordChar h]; rfl

theorem gap_append {before : List Char} (hbefore : AllBlank before) (hrest : Starts isInk rest) :
    gap (before ++ rest) = some (before, rest) := run_append hbefore hrest

theorem gap_of_starts (h : Starts isInk rest) : gap rest = some ([], rest) :=
  gap_append allBlank_nil h

theorem gap_eq_some {taken : List Char} (h : gap cs = some (taken, rest)) :
    cs = taken ++ rest ∧ AllBlank taken := by
  obtain ⟨rfl, rfl⟩ := Prod.mk.inj (Option.some.inj h)
  exact ⟨List.takeWhile_append_dropWhile.symm, fun c hc => List.mem_takeWhile_imp hc⟩

/-- Is a text nothing but blanks, at least one? -/
structure IsSpace (cs : List Char) : Prop where
  ne_nil : cs ≠ []
  blank : AllBlank cs

theorem blanks_append {before : List Char} (hbefore : IsSpace before) (hrest : Starts isInk rest) :
    blanks (before ++ rest) = some (before, rest) :=
  run1_append hbefore.ne_nil hbefore.blank hrest

theorem isSpace_single : IsSpace [' '] := ⟨by simp, by decide⟩

theorem blanks_eq_some {taken : List Char} (h : blanks cs = some (taken, rest)) :
    cs = taken ++ rest ∧ IsSpace taken ∧ Starts isInk rest := by
  obtain ⟨hsplit, hne, hblank, hrest⟩ := run1_eq_some h
  exact ⟨hsplit, ⟨hne, hblank⟩, hrest⟩

theorem blanks_eq_none (h : Starts isInk cs) : blanks cs = none := run1_eq_none h

/-! ### Keywords -/

section Keywords

variable {word : String} {text : List Char}

instance (word : String) (text : List Char) : Decidable (Spells word text) :=
  inferInstanceAs (Decidable (List.Forall₂ (fun k c => c ∈ letterForms k) word.toList text))

theorem letters_append {ks : List Char} (h : List.Forall₂ (fun k c => c ∈ letterForms k) ks text) :
    letters ks (text ++ rest) = some ((), rest) := by
  induction h with
  | nil => rfl
  | cons hc _ ih => simp only [List.cons_append, letters, if_pos hc, ih]

theorem letters_eq_some {ks : List Char} (h : letters ks cs = some ((), rest)) :
    ∃ text, cs = text ++ rest ∧ List.Forall₂ (fun k c => c ∈ letterForms k) ks text := by
  induction ks generalizing cs with
  | nil =>
    obtain rfl := congrArg Prod.snd (Option.some.inj h)
    exact ⟨[], rfl, .nil⟩
  | cons k ks ih =>
    cases cs with
    | nil => exact absurd h (by simp [letters])
    | cons c cs =>
      by_cases hc : c ∈ letterForms k
      · simp only [letters, if_pos hc] at h
        obtain ⟨text, rfl, htext⟩ := ih h
        exact ⟨c :: text, rfl, .cons hc htext⟩
      · exact absurd h (by simp [letters, hc])

theorem keyword_append (h : Spells word text) : keyword word (text ++ rest) = some ((), rest) :=
  letters_append h

theorem keyword_eq_some (h : keyword word cs = some ((), rest)) :
    ∃ text, cs = text ++ rest ∧ Spells word text := letters_eq_some h

/-- A keyword is not empty, and all forms of its letters are word characters. -/
theorem keywords_wordChars : ∀ word ∈ keywords,
    word.toList ≠ [] ∧ ∀ k ∈ word.toList, ∀ c ∈ letterForms k, isWordChar c = true := by
  decide +kernel

theorem exists_letter {ks : List Char} (h : List.Forall₂ (fun k c => c ∈ letterForms k) ks text)
    {c : Char} (hc : c ∈ text) : ∃ k ∈ ks, c ∈ letterForms k := by
  induction h with
  | nil => exact absurd hc (by simp)
  | cons hfirst _ ih =>
    rcases List.mem_cons.mp hc with rfl | hc
    · exact ⟨_, List.mem_cons_self, hfirst⟩
    · obtain ⟨k, hk, hform⟩ := ih hc
      exact ⟨k, List.mem_cons_of_mem _ hk, hform⟩

theorem Spells.wordChars (h : Spells word text) (hword : word ∈ keywords) :
    text ≠ [] ∧ ∀ c ∈ text, isWordChar c = true := by
  obtain ⟨hne, hforms⟩ := keywords_wordChars word hword
  constructor
  · rintro rfl
    exact hne (List.forall₂_nil_right_iff.mp h)
  · intro c hc
    obtain ⟨k, hk, hform⟩ := exists_letter h hc
    exact hforms k hk c hform

theorem Spells.starts (h : Spells word text) (hword : word ∈ keywords) :
    Starts isWordChar (text ++ cs) := by
  obtain ⟨hne, hchars⟩ := h.wordChars hword
  cases text with
  | nil => exact absurd rfl hne
  | cons c text => exact starts_cons.mpr (hchars c (by simp))

/-- Is this no word character? -/
def isMark (c : Char) : Bool := !isWordChar c

/-- Blanks are marks, since they are no word characters. -/
theorem isMark_of_isBlank {c : Char} (h : isBlank c = true) : isMark c = true := by
  rw [isMark, not_isWordChar_of_isBlank h]
  rfl

theorem IsSpace.starts_isMark {space : List Char} (h : IsSpace space) :
    Starts isMark (space ++ cs) := by
  obtain ⟨hne, hblank⟩ := h
  cases space with
  | nil => exact absurd rfl hne
  | cons c space => exact starts_cons.mpr (isMark_of_isBlank (hblank c (by simp)))

theorem keyword_eq_none (hword : word ∈ keywords) (h : Starts isMark cs) :
    keyword word cs = none := by
  -- a text the keyword is read from starts with a word character, this one with a mark
  cases hread : keyword word cs with
  | none => rfl
  | some found =>
    obtain ⟨text, rfl, hspells⟩ := keyword_eq_some hread
    have hstarts : Starts isWordChar (text ++ found.2) := hspells.starts hword
    obtain ⟨hne, _⟩ := hspells.wordChars hword
    cases text with
    | nil => exact absurd rfl hne
    | cons c text =>
      have hc := starts_cons.mp h
      rw [isMark, starts_cons.mp hstarts] at hc
      exact absurd hc (by decide)

/-- A keyword that is read from the start of a word is the whole word, or leaves a letter of it. -/
theorem keyword_of_word (hword : word ∈ keywords) {v : List Char}
    (hv : ∀ c ∈ v, isWordChar c = true) (hrest : Starts isMark rest) {left : List Char}
    (h : keyword word (v ++ rest) = some ((), left)) :
    (Spells word v ∧ left = rest) ∨ ∃ c more, left = c :: more ∧ isWordChar c = true := by
  obtain ⟨text, htext, hspells⟩ := keyword_eq_some h
  rcases List.append_eq_append_iff.mp htext with ⟨more, rfl, hmore⟩ | ⟨more, rfl, hmore⟩
  · cases more with
    | nil =>
      refine .inl ⟨by simpa using hspells, ?_⟩
      simpa using hmore.symm
    | cons c more =>
      -- a keyword longer than the word would reach into the mark behind it
      have hc : isWordChar c = true := (hspells.wordChars hword).2 c (by simp)
      rw [hmore] at hrest
      have hmark := starts_cons.mp hrest
      rw [isMark, hc] at hmark
      exact absurd hmark (by decide)
  · cases more with
    | nil => exact .inl ⟨by simpa using hspells, by simpa using hmore⟩
    | cons c more => exact .inr ⟨c, more ++ rest, hmore, hv c (by simp)⟩

/-- Do two keywords differ before either of them ends? -/
def clash (word other : String) : Bool :=
  (word.toList.zip other.toList).any fun p => p.1 != p.2

/-- The letters that keywords are given in. -/
def capitals : List Char := "ABCDEFGHIJKLMNOPQRSTUVWXYZ".toList

/-- No character is a form of two different letters. -/
theorem letterForms_disjoint : ∀ k ∈ capitals,
    ∀ l ∈ capitals, k ≠ l → ∀ c ∈ letterForms l, c ∉ letterForms k := by
  decide +kernel

theorem keywords_capital : ∀ word ∈ keywords,
    ∀ k ∈ word.toList, k ∈ capitals := by
  decide +kernel

theorem letters_eq_none {ks ls : List Char} (hks : ∀ k ∈ ks, k ∈ capitals)
    (hls : ∀ l ∈ ls, l ∈ capitals)
    (h : List.Forall₂ (fun k c => c ∈ letterForms k) ls text)
    (hclash : ((ks.zip ls).any fun p => p.1 != p.2) = true) : letters ks (text ++ rest) = none := by
  induction h generalizing ks with
  | nil => exact absurd hclash (by simp)
  | @cons l c ls text hc _ ih =>
    cases ks with
    | nil => exact absurd hclash (by simp)
    | cons k ks =>
      -- the first letter on which the two differ refuses; equal ones are read
      by_cases hkl : k = l
      · have hform : c ∈ letterForms k := by rwa [hkl]
        simp only [List.cons_append, letters, if_pos hform]
        refine ih (fun m hm => hks m (List.mem_cons_of_mem _ hm))
          (fun m hm => hls m (List.mem_cons_of_mem _ hm)) ?_
        simpa [hkl] using hclash
      · have hform : c ∉ letterForms k :=
          letterForms_disjoint k (hks k (by simp)) l (hls l (by simp)) hkl c hc
        simp only [List.cons_append, letters, if_neg hform]

/-- No text is two keywords. -/
theorem Spells.unique {other : String} (h : Spells word text) (h' : Spells other text)
    (hword : word ∈ keywords) (hother : other ∈ keywords) : word = other := by
  have hletters : ∀ {ks ls cs : List Char}, (∀ k ∈ ks, k ∈ capitals) → (∀ l ∈ ls, l ∈ capitals) →
      List.Forall₂ (fun k c => c ∈ letterForms k) ks cs →
      List.Forall₂ (fun k c => c ∈ letterForms k) ls cs → ks = ls := by
    intro ks ls cs hks hls hcs hcs'
    induction hcs generalizing ls with
    | nil => rw [List.forall₂_nil_right_iff.mp hcs']
    | @cons k c ks cs hk _ ih =>
      cases hcs' with
      | @cons l _ ls _ hl hrest =>
        have hkl : k = l := by
          -- two capitals share no written form
          by_contra hne
          exact letterForms_disjoint k (hks k (by simp)) l (hls l (by simp)) hne c hl hk
        rw [hkl, ih (fun m hm => hks m (List.mem_cons_of_mem _ hm))
          (fun m hm => hls m (List.mem_cons_of_mem _ hm)) hrest]
  exact String.toList_injective
    (hletters (keywords_capital word hword) (keywords_capital other hother) h h')

/-- A keyword is not read where another one stands that differs from it. -/
theorem keyword_of_clash {other : String} (hword : word ∈ keywords) (hother : other ∈ keywords)
    (h : Spells other text) (hclash : clash word other = true) :
    keyword word (text ++ rest) = none :=
  letters_eq_none (keywords_capital word hword) (keywords_capital other hother) h hclash

/-- A keyword is not read where a shorter one stands as a whole word. -/
theorem keyword_of_shorter {other : String} (hword : word ∈ keywords) (h : Spells other text)
    (hlength : other.toList.length < word.toList.length) (hrest : Starts isMark rest) :
    keyword word (text ++ rest) = none := by
  cases hread : keyword word (text ++ rest) with
  | none => rfl
  | some found =>
    obtain ⟨read, hsplit, hspells⟩ := keyword_eq_some hread
    have hread' := List.Forall₂.length_eq hspells
    have htext := List.Forall₂.length_eq h
    -- the word of the text is shorter, so the keyword would have to read the mark behind it
    rcases List.append_eq_append_iff.mp hsplit with ⟨more, rfl, hmore⟩ | ⟨more, rfl, hmore⟩
    · cases more with
      | nil => exact absurd hlength (by simp only [List.append_nil] at hread'; omega)
      | cons c more =>
        rw [hmore] at hrest
        have hc := starts_cons.mp hrest
        rw [isMark, (hspells.wordChars hword).2 c (by simp)] at hc
        exact absurd hc (by decide)
    · exact absurd hlength (by simp only [List.length_append] at htext; omega)

theorem wordEnd_of_starts (h : Starts isMark cs) : wordEnd cs = some ((), cs) := by
  cases cs with
  | nil => rfl
  | cons c cs =>
    have hc : isWordChar c = false := by simpa [isMark] using starts_cons.mp h
    simp [wordEnd, hc]

theorem wordEnd_eq_some (h : wordEnd cs = some ((), rest)) : rest = cs ∧ Starts isMark cs := by
  cases cs with
  | nil => exact ⟨(congrArg Prod.snd (Option.some.inj h)).symm, starts_nil⟩
  | cons c cs =>
    cases hc : isWordChar c with
    | true => exact absurd h (by simp [wordEnd, hc])
    | false =>
      simp only [wordEnd, List.head?_cons, Option.any_some, hc, Bool.false_eq_true, if_false] at h
      exact ⟨(congrArg Prod.snd (Option.some.inj h)).symm, starts_cons.mpr (by simp [isMark, hc])⟩

/-- A phrase starts with its first word. -/
theorem phrase_eq_bind (word next : String) (words : List String) :
    phrase (word :: next :: words) =
      (keyword word >>= fun _ => blanks >>= fun _ => phrase (next :: words)) := rfl

/-- The words of a phrase with blanks between them, one after the other. -/
theorem phrase_cons {next : String} {words : List String} (h : Spells word text)
    {space : List Char} (hspace : IsSpace space) (hrest : Starts isInk rest) :
    phrase (word :: next :: words) (text ++ (space ++ rest)) = phrase (next :: words) rest := by
  rw [phrase_eq_bind, bind_of_eq (keyword_append h), bind_of_eq (blanks_append hspace hrest)]

theorem phrase_singleton (h : Spells word text) : phrase [word] (text ++ rest) = some ((), rest) :=
  keyword_append h

end Keywords

end SchemaDraft.Script
