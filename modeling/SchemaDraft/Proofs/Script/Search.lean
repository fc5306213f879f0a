import SchemaDraft.Proofs.Script.Phrase
import SchemaDraft.Script.Clause

/-!
Searching for phrases. A search finds nothing exactly if its reader fails at every place
(`searchFrom_eq_none_iff`), and finds a place if the reader fails at all places before it
(`searchFrom_append`). A phrase that must stand as whole words is only found where its first word is
a word of the text, so a text whose words are not that word hides no such phrase (`FreeOf`).
-/

namespace SchemaDraft.Script

open Reader Text

variable {α : Type} {cs rest : List Char}

/-! ### Places -/

theorem getLast?_cons_or (c : Char) (cs : List Char) (previous : Option Char) :
    (c :: cs).getLast?.or previous = cs.getLast?.or (some c) := by
  cases h : cs.getLast? <;> simp [List.getLast?_cons, h]

section Search

variable {r : Option Char → Reader α} {previous : Option Char}

theorem searchFrom_eq_none_iff : searchFrom previous r cs = none ↔
    ∀ before after, cs = before ++ after → r (before.getLast?.or previous) after = none := by
  induction cs generalizing previous with
  | nil =>
    rw [searchFrom, Option.map_eq_none_iff]
    constructor
    · intro h before after hsplit
      obtain ⟨rfl, rfl⟩ := List.append_eq_nil_iff.mp hsplit.symm
      exact h
    · exact fun h => h [] [] rfl
  | cons c cs ih =>
    rw [searchFrom]
    constructor
    · intro h before after hsplit
      split at h
      · exact absurd h (by simp)
      · rename_i hnone
        rw [Option.map_eq_none_iff] at h
        cases before with
        | nil =>
          rw [List.nil_append] at hsplit
          rw [← hsplit]
          exact hnone
        | cons d before =>
          obtain ⟨rfl, rfl⟩ := List.cons.inj hsplit
          rw [getLast?_cons_or]
          exact ih.mp h before after rfl
    · intro h
      have hfirst : r previous (c :: cs) = none := h [] (c :: cs) rfl
      rw [hfirst, Option.map_eq_none_iff]
      refine ih.mpr fun before after hsplit => ?_
      rw [← getLast?_cons_or]
      exact h (c :: before) after (by rw [hsplit, List.cons_append])

/-- What a search finds was read somewhere. -/
theorem exists_of_searchFrom {found : Found α} (h : searchFrom previous r cs = some found) :
    ∃ previous' start, start <:+ cs ∧ r previous' start = some (found.value, found.after) := by
  induction cs generalizing previous found with
  | nil =>
    rw [searchFrom] at h
    obtain ⟨⟨a, rest⟩, hread, rfl⟩ := Option.map_eq_some_iff.mp h
    exact ⟨previous, [], List.suffix_refl _, hread⟩
  | cons c cs ih =>
    rw [searchFrom] at h
    split at h
    · rename_i hread
      obtain rfl := Option.some.inj h
      exact ⟨previous, c :: cs, List.suffix_refl _, hread⟩
    · obtain ⟨inner, hinner, rfl⟩ := Option.map_eq_some_iff.mp h
      obtain ⟨previous', start, hstart, hread⟩ := ih hinner
      exact ⟨previous', start, hstart.trans (List.suffix_cons c cs), hread⟩

/-- A search passes over what its reader fails in. -/
theorem searchFrom_skip {before : List Char}
    (hbefore : ∀ start c more, before = start ++ c :: more →
      r (start.getLast?.or previous) (c :: (more ++ cs)) = none) :
    searchFrom previous r (before ++ cs) =
      (searchFrom (before.getLast?.or previous) r cs).map fun found =>
        { found with before := before ++ found.before } := by
  induction before generalizing previous with
  | nil =>
    rw [List.nil_append, List.getLast?_nil, Option.none_or]
    cases searchFrom previous r cs <;> rfl
  | cons c before ih =>
    have hfirst : r previous (c :: (before ++ cs)) = none := hbefore [] c before rfl
    -- places counted from the rest have the first character in front of them
    have hrest := ih fun start d more hsplit => by
      have hfails := hbefore (c :: start) d more (by rw [hsplit, List.cons_append])
      rwa [getLast?_cons_or] at hfails
    rw [List.cons_append, searchFrom, hfirst, hrest, getLast?_cons_or, Option.map_map]
    rfl

theorem searchFrom_of_read {a : α} (h : r previous cs = some (a, rest)) :
    searchFrom previous r cs = some ⟨[], a, rest⟩ := by
  cases cs with
  | nil => simp [searchFrom, h]
  | cons c cs => simp [searchFrom, h]

/-- A reader that does not look back finds the same after anything. -/
theorem searchFrom_const {r : Reader α} (previous : Option Char) :
    searchFrom previous (fun _ => r) cs = searchFrom none (fun _ => r) cs := by
  cases cs with
  | nil => rfl
  | cons c cs => rfl

/-- What is read at the start of a text is found there. -/
theorem search_of_read {r : Reader α} {a : α} (h : r cs = some (a, rest)) :
    search r cs = some ⟨[], a, rest⟩ :=
  searchFrom_of_read h

theorem search_eq_none_iff {r : Reader α} :
    search r cs = none ↔ ∀ before after, cs = before ++ after → r after = none :=
  searchFrom_eq_none_iff

end Search

/-! ### Words -/

/-- The runs of word characters in a text, between them and around them empty ones. -/
def words : List Char → List (List Char)
  | [] => [[]]
  | c :: cs => if isWordChar c then consHead c (words cs) else [] :: words cs

/-- Is no word of a text this keyword? -/
def FreeOf (word : String) (cs : List Char) : Prop := ∀ w ∈ words cs, ¬Spells word w

instance (word : String) (cs : List Char) : Decidable (FreeOf word cs) :=
  inferInstanceAs (Decidable (∀ w ∈ words cs, ¬Spells word w))

/-- Does a text that is not empty end with a character of a kind? -/
def Ends (p : Char → Bool) (cs : List Char) : Prop := ∀ c ∈ cs.getLast?, p c = true

instance (p : Char → Bool) (cs : List Char) : Decidable (Ends p cs) :=
  inferInstanceAs (Decidable (∀ c ∈ cs.getLast?, p c = true))

theorem words_ne_nil (cs : List Char) : words cs ≠ [] := by
  cases cs with
  | nil => simp [words]
  | cons c cs =>
    rw [words]
    split
    · cases words cs <;> simp [consHead]
    · simp

theorem words_append_cons {c : Char} (hc : isMark c = true) (cs ds : List Char) :
    words (cs ++ c :: ds) = words cs ++ words ds := by
  have hword : isWordChar c = false := by simpa [isMark] using hc
  induction cs with
  | nil => simp [words, hword]
  | cons d cs ih =>
    rw [List.cons_append, words, words, ih]
    split
    · obtain ⟨first, more, hwords⟩ := List.exists_cons_of_ne_nil (words_ne_nil cs)
      rw [hwords]
      rfl
    · rfl

theorem words_of_wordChars (h : ∀ c ∈ cs, isWordChar c = true) : words cs = [cs] := by
  induction cs with
  | nil => rfl
  | cons c cs ih =>
    rw [words, if_pos (h c (by simp)), ih fun d hd => h d (List.mem_cons_of_mem _ hd)]
    rfl

section FreeOf

variable {word : String} {before after : List Char}

theorem Ends.eq_append {p : Char → Bool} (h : Ends p cs) (hne : cs ≠ []) :
    ∃ start c, cs = start ++ [c] ∧ p c = true := by
  refine ⟨cs.dropLast, cs.getLast hne, (List.dropLast_append_getLast hne).symm, h _ ?_⟩
  rw [List.getLast?_eq_some_getLast hne]
  rfl

/-- A run of word characters between marks is a word of the text. -/
theorem mem_words {text : List Char} (hbefore : Ends isMark before)
    (htext : ∀ c ∈ text, isWordChar c = true) (hafter : Starts isMark after) :
    text ∈ words (before ++ (text ++ after)) := by
  have hstart : text ∈ words (text ++ after) := by
    cases after with
    | nil => rw [List.append_nil, words_of_wordChars htext]; simp
    | cons c after =>
      rw [words_append_cons (starts_cons.mp hafter), words_of_wordChars htext]
      simp
  by_cases hne : before = []
  · rw [hne]
    exact hstart
  · obtain ⟨start, c, rfl, hc⟩ := hbefore.eq_append hne
    rw [List.append_assoc, List.singleton_append, words_append_cons hc]
    exact List.mem_append_right _ hstart

/-- No keyword is empty. -/
theorem not_spells_nil (hword : word ∈ keywords) : ¬Spells word [] :=
  fun h => (h.wordChars hword).1 rfl

theorem freeOf_append_cons {c : Char} (hc : isMark c = true) :
    FreeOf word (before ++ c :: after) ↔ FreeOf word before ∧ FreeOf word after := by
  simp only [FreeOf, words_append_cons hc, List.mem_append]
  exact ⟨fun h => ⟨fun w hw => h w (.inl hw), fun w hw => h w (.inr hw)⟩,
    fun h w hw => hw.elim (h.1 w) (h.2 w)⟩

theorem freeOf_nil (hword : word ∈ keywords) : FreeOf word [] := by
  intro w hw
  obtain rfl := List.mem_singleton.mp hw
  exact not_spells_nil hword

theorem freeOf_of_wordChars (h : ∀ c ∈ cs, isWordChar c = true) (hnot : ¬Spells word cs) :
    FreeOf word cs := by
  intro w hw
  rw [words_of_wordChars h] at hw
  obtain rfl := List.mem_singleton.mp hw
  exact hnot

/-- A keyword is free of all others. -/
theorem Spells.freeOf {other : String} {text : List Char} (h : Spells other text)
    (hother : other ∈ keywords) (hword : word ∈ keywords) (hne : word ≠ other) : FreeOf word text :=
  freeOf_of_wordChars (h.wordChars hother).2 fun hspells => hne (hspells.unique h hword hother)

/-- At a mark two texts without a word make one. -/
theorem FreeOf.append (hbefore : FreeOf word before) (hafter : FreeOf word after)
    (hseam : Ends isMark before ∨ Starts isMark after) : FreeOf word (before ++ after) := by
  -- with a mark on either side of the seam no word reaches over it
  rcases hseam with hends | hstarts
  · by_cases hne : before = []
    · rw [hne]
      exact hafter
    · obtain ⟨start, c, rfl, hc⟩ := hends.eq_append hne
      rw [freeOf_append_cons hc] at hbefore
      rw [List.append_assoc, List.singleton_append, freeOf_append_cons hc]
      exact ⟨hbefore.1, hafter⟩
  · cases after with
    | nil => rwa [List.append_nil]
    | cons c after =>
      have hc := starts_cons.mp hstarts
      rw [freeOf_append_cons hc]
      have hrest : FreeOf word ([] ++ c :: after) := hafter
      rw [freeOf_append_cons hc] at hrest
      exact ⟨hbefore, hrest.2⟩

theorem freeOf_of_marks (hword : word ∈ keywords) (h : ∀ c ∈ cs, isMark c = true) :
    FreeOf word cs := by
  induction cs with
  | nil => exact freeOf_nil hword
  | cons c cs ih =>
    have hc := h c (by simp)
    show FreeOf word ([] ++ c :: cs)
    rw [freeOf_append_cons hc]
    exact ⟨freeOf_nil hword, ih fun d hd => h d (List.mem_cons_of_mem _ hd)⟩

theorem freeOf_of_blank (hword : word ∈ keywords) (h : AllBlank cs) : FreeOf word cs :=
  freeOf_of_marks hword fun c hc => isMark_of_isBlank (h c hc)

/-- A keyword that is read as a whole word where a text goes on is a word of that text. -/
theorem FreeOf.keyword (hword : word ∈ keywords) (hfree : FreeOf word (before ++ cs))
    (hbefore : Ends isMark before) (hne : cs ≠ []) (hseam : Ends isMark cs ∨ Starts isMark after)
    {left : List Char} (hleft : Starts isMark left) :
    keyword word (cs ++ after) ≠ some ((), left) := by
  intro hread
  obtain ⟨text, hsplit, hspells⟩ := keyword_eq_some hread
  have hchars := (hspells.wordChars hword).2
  rcases List.append_eq_append_iff.mp hsplit with ⟨more, rfl, hmore⟩ | ⟨more, rfl, hmore⟩
  · -- the word would go on over the seam
    cases more with
    | nil =>
      rw [List.append_nil] at hspells hchars
      have hmem := mem_words hbefore hchars (starts_nil (p := isMark))
      rw [List.append_nil] at hmem
      exact hfree _ hmem hspells
    | cons c more =>
      rcases hseam with hends | hstarts
      · obtain ⟨start, d, rfl, hd⟩ := hends.eq_append hne
        rw [isMark, hchars d (by simp)] at hd
        exact absurd hd (by decide)
      · rw [hmore] at hstarts
        have hc := starts_cons.mp hstarts
        rw [isMark, hchars c (by simp)] at hc
        exact absurd hc (by decide)
  · have hmore' : Starts isMark more := by
      cases more with
      | nil => exact starts_nil
      | cons c more =>
        rw [hmore] at hleft
        exact starts_cons.mpr (starts_cons.mp hleft)
    exact hfree _ (mem_words hbefore hchars hmore') hspells

end FreeOf

/-! ### Phrases -/

theorem starts_isMark_of_blanks {taken : List Char} (h : blanks cs = some (taken, rest)) :
    Starts isMark cs := by
  obtain ⟨rfl, htaken, _⟩ := blanks_eq_some h
  exact htaken.starts_isMark

theorem wholePhrase_eq_some {word : String} {more : List String}
    (h : wholePhrase (word :: more) cs = some ((), rest)) :
    ∃ left, keyword word cs = some ((), left) ∧ Starts isMark left := by
  obtain ⟨_, mid, hphrase, hend⟩ := bind_eq_some h
  cases more with
  | nil => exact ⟨mid, hphrase, (wordEnd_eq_some hend).2⟩
  | cons next more =>
    rw [phrase_eq_bind] at hphrase
    obtain ⟨_, left, hkeyword, hrest⟩ := bind_eq_some hphrase
    obtain ⟨_, _, hblanks, _⟩ := bind_eq_some hrest
    exact ⟨left, hkeyword, starts_isMark_of_blanks hblanks⟩

section Phrases

variable {word : String} {more : List String} {before after : List Char}

theorem ends_of_not_previous (h : (before.getLast?.or none).any isWordChar = false) :
    Ends isMark before := by
  intro c hc
  rw [Option.mem_def.mp hc] at h
  simpa [isMark] using h

theorem not_previous_of_ends (h : Ends isMark before) :
    (before.getLast?.or none).any isWordChar = false := by
  cases hlast : before.getLast? with
  | none => rfl
  | some c => simpa [isMark] using h c hlast

theorem Ends.of_append {p : Char → Bool} (h : Ends p (before ++ after)) : Ends p after := by
  intro c hc
  refine h c ?_
  rw [List.getLast?_append, Option.mem_def.mp hc]
  rfl

/-- Does a whole word open all that a reader reads? -/
def OpensWith (word : String) (r : Reader α) : Prop :=
  ∀ cs a rest, r cs = some (a, rest) →
    ∃ left, keyword word cs = some ((), left) ∧ Starts isMark left

theorem opensWith_wholePhrase (word : String) (more : List String) :
    OpensWith word (wholePhrase (word :: more)) := fun _ _ _ => wholePhrase_eq_some

theorem opensWith_references : OpensWith "REFERENCES" references := by
  intro cs a rest h
  obtain ⟨_, left, hkeyword, hrest⟩ := bind_eq_some h
  obtain ⟨_, _, hblanks, _⟩ := bind_eq_some hrest
  exact ⟨left, hkeyword, starts_isMark_of_blanks hblanks⟩

variable {r : Reader α}

/-- No place in a text without the word, at which a word may start, is read. -/
theorem OpensWith.eq_none (hr : OpensWith word r) (hword : word ∈ keywords)
    (hfree : FreeOf word (before ++ cs)) (hbefore : Ends isMark before) (hne : cs ≠ [])
    (hseam : Ends isMark cs ∨ Starts isMark after) : r (cs ++ after) = none := by
  cases hread : r (cs ++ after) with
  | none => rfl
  | some found =>
    obtain ⟨left, hkeyword, hleft⟩ := hr _ _ _ hread
    exact absurd hkeyword (hfree.keyword hword hbefore hne hseam hleft)

theorem OpensWith.nil_eq_none (hr : OpensWith word r) (hword : word ∈ keywords) : r [] = none := by
  cases hread : r [] with
  | none => rfl
  | some found =>
    obtain ⟨left, hkeyword, _⟩ := hr _ _ _ hread
    rw [keyword_eq_none hword starts_nil] at hkeyword
    exact absurd hkeyword (by simp)

/-- A reader that a whole word opens is not found in a text without the word. -/
theorem searchWord_eq_none (hr : OpensWith word r) (hword : word ∈ keywords) (h : FreeOf word cs) :
    searchWord r cs = none := by
  refine searchFrom_eq_none_iff.mpr fun before after hsplit => ?_
  -- a word character in front forbids the reading, so only word starts matter
  cases hprevious : (before.getLast?.or none).any isWordChar with
  | true => rfl
  | false =>
    simp only [Bool.false_eq_true, if_false]
    by_cases hne : after = []
    · rw [hne]
      exact hr.nil_eq_none hword
    · rw [hsplit] at h
      have hread := hr.eq_none hword h (ends_of_not_previous hprevious) hne
        (.inr (starts_nil (p := isMark)))
      rwa [List.append_nil] at hread

/-- A search for such a reader passes over a text without the word. -/
theorem searchWord_append (hr : OpensWith word r) (hword : word ∈ keywords)
    (h : FreeOf word before) (hends : Ends isMark before) {a : α} (hread : r cs = some (a, rest)) :
    searchWord r (before ++ cs) = some ⟨before, a, rest⟩ := by
  have hfails : ∀ start c mid, before = start ++ c :: mid →
      (if (start.getLast?.or none).any isWordChar then refuse else r) (c :: (mid ++ cs)) =
        none := by
    intro start c mid hsplit
    cases hprevious : (start.getLast?.or none).any isWordChar with
    | true => rfl
    | false =>
      rw [hsplit] at h hends
      exact hr.eq_none hword h (ends_of_not_previous hprevious) (by simp) (.inl hends.of_append)
  have hfound : (if (before.getLast?.or none).any isWordChar then refuse else r) cs =
      some (a, rest) := by
    rw [not_previous_of_ends hends]
    exact hread
  rw [searchWord,
    searchFrom_skip (r := fun previous => if previous.any isWordChar then refuse else r)
    hfails, searchFrom_of_read hfound]
  simp

theorem hasPhrase_eq_false (hword : word ∈ keywords) (h : FreeOf word cs) :
    hasPhrase (word :: more) cs = false := by
  rw [hasPhrase, searchWord_eq_none (opensWith_wholePhrase word more) hword h]
  rfl

theorem hasPhrase_eq_true {phrases : List String} (hends : Ends isMark before)
    (hread : wholePhrase phrases after = some ((), rest)) :
    hasPhrase phrases (before ++ after) = true := by
  cases hsearch : searchWord (wholePhrase phrases) (before ++ after) with
  | some found => rw [hasPhrase, hsearch]; rfl
  | none =>
    have hfails := searchFrom_eq_none_iff.mp hsearch before after rfl
    rw [not_previous_of_ends hends, if_neg (by decide), hread] at hfails
    exact absurd hfails (by simp)

/-! ### The end of a type -/

/-- The words that end a type. -/
def typeEndWords : List String :=
  ["PRIMARY", "NOT", "UNIQUE", "DEFAULT", "REFERENCES", "CONSTRAINT", "CHECK", "GENERATED",
    "COLLATE"]

theorem typeEndWords_keywords : ∀ word ∈ typeEndWords, word ∈ keywords := by decide

theorem exists_word_of_typeEnds : ∀ phrases ∈ typeEnds,
    ∃ word ∈ typeEndWords, ∃ more, phrases = word :: more := by
  simp [typeEnds, typeEndWords]

/-- What ends a type starts, after blanks, with one of the words that do. -/
theorem typeEnd_eq_some (h : typeEnd cs = some ((), rest)) :
    ∃ space after, cs = space ++ after ∧ IsSpace space ∧ ∃ word ∈ typeEndWords,
      ∃ left, keyword word after = some ((), left) ∧ Starts isMark left := by
  obtain ⟨space, after, hblanks, hphrase⟩ := bind_eq_some h
  obtain ⟨rfl, hspace, _⟩ := blanks_eq_some hblanks
  obtain ⟨r, hr, hread⟩ := exists_of_firstOf hphrase
  obtain ⟨phrases, hphrases, rfl⟩ := List.mem_map.mp hr
  obtain ⟨word, hword, more, rfl⟩ := exists_word_of_typeEnds phrases hphrases
  exact ⟨space, after, rfl, hspace, word, hword, wholePhrase_eq_some hread⟩

theorem ends_append_of_ne_nil {p : Char → Bool} (hne : after ≠ []) (h : Ends p after) :
    Ends p (before ++ after) := by
  intro c hc
  rw [List.getLast?_append, List.getLast?_eq_some_getLast hne] at hc
  exact h c (by rw [List.getLast?_eq_some_getLast hne]; exact hc)

theorem ends_of_forall {p : Char → Bool} (h : ∀ c ∈ cs, p c = true) : Ends p cs :=
  fun c hc => h c (List.mem_of_getLast? hc)

/-- No text that is not empty ends both in a blank and in none. -/
theorem not_ends_isInk (hne : after ≠ []) (hblank : AllBlank after) :
    ¬Ends isInk after := by
  intro hink
  obtain ⟨start, c, rfl, hc⟩ := hink.eq_append hne
  rw [isInk, hblank c (by simp)] at hc
  exact absurd hc (by decide)

/-- A type without such words, and without blanks after it, is passed over as a whole. -/
theorem typeText_append {type rest : List Char} (hfree : ∀ word ∈ typeEndWords, FreeOf word type)
    (hink : Ends isInk type) (hseam : Ends isMark type ∨ Starts isMark rest) :
    typeText (type ++ rest) = type ++ typeText rest := by
  have hfails : ∀ start c mid, type = start ++ c :: mid → typeEnd (c :: (mid ++ rest)) = none := by
    intro start c mid hsplit
    cases hread : typeEnd (c :: (mid ++ rest)) with
    | none => rfl
    | some found =>
      obtain ⟨space, after, heq, hspace, word, hword, left, hkeyword, hleft⟩ :=
        typeEnd_eq_some hread
      have hends : Ends isInk (c :: mid) := by
        rw [hsplit] at hink
        exact hink.of_append
      rw [← List.cons_append] at heq
      -- the blanks end inside the type or behind it; a type ends in ink, so inside
      rcases List.append_eq_append_iff.mp heq with ⟨more, rfl, _⟩ | ⟨more, hmore, rfl⟩
      · have hblank : AllBlank (c :: mid) := fun d hd => hspace.blank d (List.mem_append_left _ hd)
        exact absurd hends (not_ends_isInk (by simp) hblank)
      · rw [hmore] at hends
        by_cases hempty : more = []
        · rw [hempty, List.append_nil] at hends
          exact absurd hends (not_ends_isInk hspace.ne_nil hspace.blank)
        · have hsplit' : type = (start ++ space) ++ more := by
            rw [hsplit, hmore, List.append_assoc]
          have hbefore : Ends isMark (start ++ space) := ends_append_of_ne_nil hspace.ne_nil
            (ends_of_forall fun d hd => isMark_of_isBlank (hspace.blank d hd))
          have hseam' : Ends isMark more ∨ Starts isMark rest := by
            rw [hsplit'] at hseam
            exact hseam.imp_left Ends.of_append
          have hword' := hfree word hword
          rw [hsplit'] at hword'
          exact absurd hkeyword
            (hword'.keyword (typeEndWords_keywords word hword) hbefore hempty hseam' hleft)
  rw [typeText, typeText, search, search, searchFrom_skip (r := fun _ => typeEnd) hfails,
    searchFrom_const (type.getLast?.or none)]
  cases searchFrom none (fun _ => typeEnd) rest <;> rfl

theorem typeText_nil : typeText [] = [] := rfl

theorem typeText_of_typeEnd (h : typeEnd cs = some ((), rest)) : typeText cs = [] := by
  rw [typeText, search_of_read h]

end Phrases

end SchemaDraft.Script
