import SchemaDraft.Proofs.Script.Search

/-!
Readers that stop at a mark. Such a reader takes the same from a text before the mark whatever comes
after it, and leaves the mark where it is (`StopsAt`). Keywords and blanks stop at every mark, and
so does what is put together from them, a search included. Names in quotes and lists do not: they
take any marks.
-/

namespace SchemaDraft.Script

open Reader Text

variable {α β : Type} {c : Char} {cs ds rest : List Char}

/-- Does a reader take nothing of what starts with this character, and look no further? -/
def StopsAt (c : Char) (r : Reader α) : Prop :=
  ∀ cs ds, r (cs ++ c :: ds) = (r cs).map fun found => (found.1, found.2 ++ c :: ds)

/-! ### What is put together -/

theorem stopsAt_pure (a : α) : StopsAt c (pure a) := fun _ _ => rfl

theorem StopsAt.bind {r : Reader α} {f : α → Reader β} (hr : StopsAt c r)
    (hf : ∀ a, StopsAt c (f a)) : StopsAt c (r >>= f) := by
  intro cs ds
  rw [bind_apply, bind_apply, hr cs ds]
  cases r cs with
  | none => rfl
  | some found => exact hf found.1 found.2 ds

theorem stopsAt_firstOf {rs : List (Reader α)} (h : ∀ r ∈ rs, StopsAt c r) :
    StopsAt c (firstOf rs) := by
  induction rs with
  | nil => exact fun _ _ => rfl
  | cons r rs ih =>
    intro cs ds
    have hr := h r (by simp) cs ds
    have hrs := ih (fun r hr => h r (List.mem_cons_of_mem _ hr)) cs ds
    cases hread : r cs with
    | some found =>
      rw [hread] at hr
      rw [firstOf_of_some hr, firstOf_of_some hread]
      rfl
    | none =>
      rw [hread] at hr
      rw [firstOf_of_none hr, firstOf_of_none hread, hrs]

theorem StopsAt.optional {r : Reader Unit} (h : StopsAt c r) : StopsAt c (Reader.optional r) := by
  intro cs ds
  have hr := h cs ds
  cases hread : r cs with
  | some found =>
    rw [hread] at hr
    rw [optional_of_some hr, optional_of_some hread]
    rfl
  | none =>
    rw [hread] at hr
    rw [optional_of_none hr, optional_of_none hread]
    rfl

/-- What such a reader takes before the mark it takes whatever follows. -/
theorem StopsAt.read {r : Reader α} (h : StopsAt c r) {a : α}
    (hread : r (cs ++ c :: ds) = some (a, rest)) :
    ∃ left, r cs = some (a, left) ∧ rest = left ++ c :: ds := by
  rw [h cs ds] at hread
  obtain ⟨⟨b, left⟩, hcs, heq⟩ := Option.map_eq_some_iff.mp hread
  obtain ⟨rfl, rfl⟩ := Prod.mk.inj heq
  exact ⟨left, hcs, rfl⟩

/-! ### Words and blanks -/

theorem stopsAt_letters {ks : List Char} (h : ∀ k ∈ ks, c ∉ letterForms k) :
    StopsAt c (letters ks) := by
  induction ks with
  | nil => exact fun _ _ => rfl
  | cons k ks ih =>
    intro cs ds
    cases cs with
    | nil => exact if_neg (h k (by simp))
    | cons d cs =>
      simp only [List.cons_append, letters]
      split
      · exact ih (fun k hk => h k (List.mem_cons_of_mem _ hk)) cs ds
      · rfl

theorem stopsAt_keyword {word : String} (hword : word ∈ keywords) (hc : isMark c = true) :
    StopsAt c (keyword word) := by
  refine stopsAt_letters fun k hk hform => ?_
  rw [isMark, (keywords_wordChars word hword).2 k hk c hform] at hc
  exact absurd hc (by decide)

theorem stopsAt_run1 {p : Char → Bool} (hc : p c = false) : StopsAt c (run1 p) := by
  intro cs ds
  simp only [run1, takeWhile_append_cons hc, dropWhile_append_cons hc]
  split <;> rfl

theorem stopsAt_blanks (hc : isInk c = true) : StopsAt c blanks :=
  stopsAt_run1 (by simpa [isInk] using hc)

theorem stopsAt_wordEnd (hc : isMark c = true) : StopsAt c wordEnd := by
  intro cs ds
  cases cs with
  | nil =>
    have hword : isWordChar c = false := by simpa [isMark] using hc
    simp [wordEnd, hword]
  | cons d cs => cases hd : isWordChar d <;> simp [wordEnd, hd]

theorem stopsAt_phrase {words : List String} (hwords : ∀ word ∈ words, word ∈ keywords)
    (hink : isInk c = true) (hc : isMark c = true) : StopsAt c (phrase words) := by
  fun_induction phrase words with
  | case1 => exact stopsAt_pure ()
  | case2 word => exact stopsAt_keyword (hwords word (by simp)) hc
  | case3 word words _ ih =>
    exact (stopsAt_keyword (hwords word (by simp)) hc).bind fun _ =>
      (stopsAt_blanks hink).bind fun _ => ih fun w hw => hwords w (List.mem_cons_of_mem _ hw)

theorem stopsAt_wholePhrase {words : List String} (hwords : ∀ word ∈ words, word ∈ keywords)
    (hink : isInk c = true) (hc : isMark c = true) : StopsAt c (wholePhrase words) :=
  (stopsAt_phrase hwords hink hc).bind fun _ => stopsAt_wordEnd hc

theorem stopsAt_anyKeyword {words : List String} (hwords : ∀ word ∈ words, word ∈ keywords)
    (hc : isMark c = true) : StopsAt c (anyKeyword words) := by
  refine stopsAt_firstOf fun r hr => ?_
  obtain ⟨word, hword, rfl⟩ := List.mem_map.mp hr
  exact stopsAt_keyword (hwords word hword) hc

theorem stopsAt_typeEnd (hink : isInk c = true) (hc : isMark c = true) : StopsAt c typeEnd := by
  refine (stopsAt_blanks hink).bind fun _ => stopsAt_firstOf fun r hr => ?_
  obtain ⟨words, hwords, rfl⟩ := List.mem_map.mp hr
  have hkeywords : ∀ words ∈ typeEnds, ∀ word ∈ words, word ∈ keywords := by decide
  exact stopsAt_wholePhrase (hkeywords words hwords) hink hc

/-! ### Searching -/

section Search

variable {r : Option Char → Reader α} {previous : Option Char}

/-- What is found before the mark is found whatever follows. -/
theorem searchFrom_mark_of_some (h : ∀ p, StopsAt c (r p)) {found : Found α}
    (hfound : searchFrom previous r cs = some found) (ds : List Char) :
    searchFrom previous r (cs ++ c :: ds) =
      some { found with after := found.after ++ c :: ds } := by
  induction cs generalizing previous found with
  | nil =>
    obtain ⟨⟨a, rest⟩, hread, rfl⟩ := Option.map_eq_some_iff.mp hfound
    refine searchFrom_of_read ?_
    rw [h previous [] ds, hread]
    rfl
  | cons d cs ih =>
    -- no reading reaches over the mark, so it fails or succeeds as on the text before it
    have hread := h previous (d :: cs) ds
    rw [searchFrom] at hfound
    rw [List.cons_append, searchFrom, ← List.cons_append, hread]
    cases hd : r previous (d :: cs) with
    | some read =>
      rw [hd] at hfound
      obtain rfl := Option.some.inj hfound
      rfl
    | none =>
      rw [hd] at hfound
      obtain ⟨inner, hinner, rfl⟩ := Option.map_eq_some_iff.mp hfound
      rw [ih hinner]
      rfl

/-- If nothing is found before the mark, the search goes on after it. -/
theorem searchFrom_mark_of_none (h : ∀ p, StopsAt c (r p))
    (hnone : searchFrom previous r cs = none) (ds : List Char) :
    searchFrom previous r (cs ++ c :: ds) = (searchFrom (some c) r ds).map fun found =>
      { found with before := cs ++ c :: found.before } := by
  rw [searchFrom_eq_none_iff] at hnone
  have hplaces : ∀ start d more, cs = start ++ d :: more →
      r (start.getLast?.or previous) (d :: (more ++ c :: ds)) = none := by
    intro start d more hsplit
    have hread := h (start.getLast?.or previous) (d :: more) ds
    rw [hnone start (d :: more) hsplit] at hread
    exact hread
  -- nor is there one from the mark itself, as there is none from the end of the text
  have hmark : r (cs.getLast?.or previous) (c :: ds) = none := by
    have hread := h (cs.getLast?.or previous) [] ds
    rw [hnone cs [] (List.append_nil cs).symm] at hread
    exact hread
  rw [searchFrom_skip hplaces, searchFrom, hmark, Option.map_map]
  rfl

/-- At a search for words it only counts whether the character before belongs to one. -/
theorem searchFrom_word {r : Reader α} (hc : isMark c = true) (cs : List Char) :
    searchFrom (some c) (fun p => if p.any isWordChar then refuse else r) cs = searchWord r cs := by
  have hword : (some c).any isWordChar = (none : Option Char).any isWordChar := by
    simpa [isMark] using hc
  cases cs <;> simp only [searchWord, searchFrom, hword]

end Search

/-- A phrase stands in a text with a mark if it stands before the mark or after it. -/
theorem hasPhrase_mark {words : List String} (hwords : ∀ word ∈ words, word ∈ keywords)
    (hink : isInk c = true) (hc : isMark c = true) (cs ds : List Char) :
    hasPhrase words (cs ++ c :: ds) = (hasPhrase words cs || hasPhrase words ds) := by
  have hstops : ∀ p : Option Char,
      StopsAt c (if p.any isWordChar then refuse else wholePhrase words : Reader Unit) := by
    intro p
    split
    · exact fun _ _ => rfl
    · exact stopsAt_wholePhrase hwords hink hc
  rw [hasPhrase, hasPhrase, hasPhrase, ← searchFrom_word hc ds, searchWord, searchWord]
  cases hfound :
    searchFrom none (fun p => if p.any isWordChar then refuse else wholePhrase words) cs with
  | some found =>
    rw [searchFrom_mark_of_some hstops hfound]
    rfl
  | none =>
    rw [searchFrom_mark_of_none hstops hfound, Option.isSome_map]
    rfl

/-- A type ends before the mark, wherever the text goes on, or the mark belongs to it. -/
theorem typeText_mark (hink : isInk c = true) (hc : isMark c = true) (cs : List Char) :
    (∃ type, ∀ ds, typeText (cs ++ c :: ds) = type) ∨
      ∀ ds, ∃ ds', typeText (cs ++ c :: ds) = cs ++ c :: ds' := by
  have hstops : Option Char → StopsAt c typeEnd := fun _ => stopsAt_typeEnd hink hc
  cases hfound : search typeEnd cs with
  | some found =>
    refine .inl ⟨found.before, fun ds => ?_⟩
    rw [typeText, search, searchFrom_mark_of_some hstops hfound]
  | none =>
    refine .inr fun ds => ?_
    rw [typeText, search, searchFrom_mark_of_none hstops hfound]
    cases searchFrom (some c) (fun _ => typeEnd) ds with
    | some found => exact ⟨found.before, rfl⟩
    | none => exact ⟨ds, rfl⟩

end SchemaDraft.Script
