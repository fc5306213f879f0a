import SchemaDraft.Proofs.Script.Search
import SchemaDraft.Proofs.Script.WrittenName

/-!
Readers on texts that differ in their quote marks. Two texts are tracked by a relation if they stay
the same as long as no quote mark comes (`Tracks`), and readers agree along a relation if they read
related values and leave related texts, or both refuse (`Agrees`). All readers of words, blanks and
marks that are no quotes agree along every relation of this kind, whatever it says about quote
marks.
-/

namespace SchemaDraft.Script

open Reader Text

/-- Is this a mark that quotes names? -/
def isQuoteMark (c : Char) : Bool := quotePairs.any fun quotes => c == quotes.1 || c == quotes.2

theorem mem_of_isQuoteMark {c : Char} (h : isQuoteMark c = true) : c ∈ ['"', '\x60', '[', ']'] := by
  simpa [isQuoteMark, quotePairs, or_assoc] using h

/-- The quotes of names are quote marks. -/
theorem isQuoteMark_quotePairs : ∀ quotes ∈ quotePairs,
    isQuoteMark quotes.1 = true ∧ isQuoteMark quotes.2 = true := by decide

/-- No quote mark is blank, or belongs to a word or a bare name. -/
theorem isQuoteMark_kinds : ∀ c ∈ ['"', '\x60', '[', ']'],
    isBlank c = false ∧ isWordChar c = false ∧ isBare c = false ∧ startsPlainName c = false ∧
      isPlainNameRest c = false ∧ isDecimalDigit c = false := by
  decide +kernel

theorem not_isWordChar_of_isQuoteMark {c : Char} (h : isQuoteMark c = true) :
    isWordChar c = false :=
  (isQuoteMark_kinds c (mem_of_isQuoteMark h)).2.1

theorem not_isBlank_of_isQuoteMark {c : Char} (h : isQuoteMark c = true) : isBlank c = false :=
  (isQuoteMark_kinds c (mem_of_isQuoteMark h)).1

/-! ### Tracked texts -/

section Tracks

variable {R : List Char → List Char → Prop}

/-- Do two texts both end, or start with one character after which they are related, or both start
with a quote mark? -/
inductive StartAlike (R : List Char → List Char → Prop) : List Char → List Char → Prop
  | ends : StartAlike R [] []
  | same {c : Char} {cs ds : List Char} : isQuoteMark c = false → R cs ds →
    StartAlike R (c :: cs) (c :: ds)
  | marks {c d : Char} {cs ds : List Char} : isQuoteMark c = true → isQuoteMark d = true →
      StartAlike R (c :: cs) (d :: ds)

/-- Are related texts the same as long as no quote mark comes? -/
def Tracks (R : List Char → List Char → Prop) : Prop := ∀ cs ds, R cs ds → StartAlike R cs ds

/-- Runs of other characters than quote marks are the same, and what follows them is related. -/
theorem Tracks.span (hR : Tracks R) {p : Char → Bool} (hp : ∀ c, isQuoteMark c = true → p c = false)
    {cs ds : List Char} (h : R cs ds) :
    cs.takeWhile p = ds.takeWhile p ∧ R (cs.dropWhile p) (ds.dropWhile p) := by
  induction cs generalizing ds with
  | nil =>
    cases hR _ _ h
    exact ⟨rfl, h⟩
  | cons c cs ih =>
    cases hR _ _ h with
    | same _ hrest =>
      obtain ⟨htake, hdrop⟩ := ih hrest
      by_cases hc : p c = true
      · rw [List.takeWhile_cons_of_pos hc, List.takeWhile_cons_of_pos hc,
          List.dropWhile_cons_of_pos hc, List.dropWhile_cons_of_pos hc, htake]
        exact ⟨rfl, hdrop⟩
      · rw [List.takeWhile_cons_of_neg hc, List.takeWhile_cons_of_neg hc,
          List.dropWhile_cons_of_neg hc, List.dropWhile_cons_of_neg hc]
        exact ⟨rfl, h⟩
    -- two marks end both spans
    | marks hc hd =>
      have hstop : ∀ e, isQuoteMark e = true → ¬p e = true := fun e he => by simp [hp e he]
      rw [List.takeWhile_cons_of_neg (hstop _ hc), List.takeWhile_cons_of_neg (hstop _ hd),
        List.dropWhile_cons_of_neg (hstop _ hc), List.dropWhile_cons_of_neg (hstop _ hd)]
      exact ⟨rfl, h⟩

/-- Tracked texts start with a character of a kind both or not at all, if no quote mark is of the
kind. -/
theorem Tracks.any_head? (hR : Tracks R) {p : Char → Bool}
    (hp : ∀ c, isQuoteMark c = true → p c = false)
    {cs ds : List Char} (h : R cs ds) : cs.head?.any p = ds.head?.any p := by
  cases hR _ _ h with
  | ends => rfl
  | same _ _ => rfl
  | marks hc hd => simp [hp _ hc, hp _ hd]

end Tracks

/-! ### Readers that agree -/

/-- Do two readers, on related texts, both read related values and leave related texts, or both
refuse? -/
def Agrees {α : Type} (R : List Char → List Char → Prop) (T : α → α → Prop) (r r' : Reader α) :
    Prop :=
  ∀ ⦃cs ds : List Char⦄, R cs ds → Option.Rel (fun p q => T p.1 q.1 ∧ R p.2 q.2) (r cs) (r' ds)

section Combinators

variable {α β : Type} {R : List Char → List Char → Prop} {T : α → α → Prop} {U : β → β → Prop}
  {r r' : Reader α}

/-- Related outcomes are either none on both sides or related values. -/
theorem none_or_some_of_rel {S : α → β → Prop} {x : Option α} {y : Option β}
    (h : Option.Rel S x y) : x = none ∧ y = none ∨ ∃ a b, x = some a ∧ y = some b ∧ S a b := by
  cases h with
  | none => exact .inl ⟨rfl, rfl⟩
  | some hsame => exact .inr ⟨_, _, rfl, rfl, hsame⟩

/-- Functions that keep a relation keep it for outcomes, too. -/
theorem rel_map {α' β' : Type} {S : α → β → Prop} {S' : α' → β' → Prop} {f : α → α'} {g : β → β'}
    {x : Option α} {y : Option β} (h : Option.Rel S x y) (hkeep : ∀ a b, S a b → S' (f a) (g b)) :
    Option.Rel S' (x.map f) (y.map g) := by
  cases h with
  | none => exact .none
  | some hsame => exact .some (hkeep _ _ hsame)

theorem agrees_pure {a b : α} (h : T a b) : Agrees R T (pure a) (pure b) :=
  fun _ _ hcs => .some ⟨h, hcs⟩

theorem agrees_refuse : Agrees R T refuse refuse := fun _ _ _ => .none

theorem Agrees.bind {f f' : α → Reader β} (hr : Agrees R T r r')
    (hf : ∀ a b, T a b → Agrees R U (f a) (f' b)) : Agrees R U (r >>= f) (r' >>= f') := by
  intro cs ds h
  rw [bind_apply, bind_apply]
  obtain ⟨hcs, hds⟩ | ⟨p, q, hcs, hds, hvalue, hrest⟩ := none_or_some_of_rel (hr h)
  · rw [hcs, hds]
    exact .none
  · rw [hcs, hds]
    exact hf p.1 q.1 hvalue hrest

/-- One reader after the other, the value of the first not being used. -/
theorem Agrees.andThen {s s' : Reader β} (hr : Agrees R T r r') (hs : Agrees R U s s') :
    Agrees R U (r >>= fun _ => s) (r' >>= fun _ => s') := hr.bind fun _ _ _ => hs

/-- A weaker relation may use where the values were read. -/
theorem Agrees.imp {T' : α → α → Prop} (hr : Agrees R T r r')
    (himp : ∀ cs ds a b rest rest', r cs = some (a, rest) → r' ds = some (b, rest') → T a b →
      T' a b) :
    Agrees R T' r r' := by
  intro cs ds h
  obtain ⟨hcs, hds⟩ | ⟨⟨a, rest⟩, ⟨b, rest'⟩, hcs, hds, hvalue, hrest⟩ := none_or_some_of_rel (hr h)
  · rw [hcs, hds]
    exact .none
  · rw [hcs, hds]
    exact .some ⟨himp cs ds a b rest rest' hcs hds hvalue, hrest⟩

theorem agrees_firstOf {rs : List (Reader α)} (h : ∀ r ∈ rs, Agrees R T r r) :
    Agrees R T (firstOf rs) (firstOf rs) := by
  induction rs with
  | nil => exact agrees_refuse
  | cons r rs ih =>
    intro cs ds h'
    simp only [firstOf]
    obtain ⟨hcs, hds⟩ | ⟨p, q, hcs, hds, hread⟩ := none_or_some_of_rel (h r (by simp) h')
    · rw [hcs, hds]
      exact ih (fun s hs => h s (List.mem_cons_of_mem _ hs)) h'
    · rw [hcs, hds]
      exact .some hread

theorem agrees_optional {r : Reader Unit} (h : Agrees R Eq r r) :
    Agrees R Eq (Reader.optional r) (Reader.optional r) := by
  intro cs ds h'
  unfold Reader.optional
  obtain ⟨hcs, hds⟩ | ⟨p, q, hcs, hds, hread⟩ := none_or_some_of_rel (h h')
  · rw [hcs, hds]
    exact .some ⟨rfl, h'⟩
  · rw [hcs, hds]
    exact .some hread

end Combinators

/-- Are two texts one and the same, with a property? -/
def OnSame (P : List Char → Prop) (cs ds : List Char) : Prop := cs = ds ∧ P cs

/-- A reader that agrees with itself on texts with a property leaves a text with it. -/
theorem Agrees.keeps {α : Type} {P : List Char → Prop} {T : α → α → Prop} {r : Reader α}
    (hr : Agrees (OnSame P) T r r)
    {cs rest : List Char} (h : P cs) {a : α} (hread : r cs = some (a, rest)) : P rest := by
  have hsame := hr (show OnSame P cs cs from ⟨rfl, h⟩)
  rw [hread] at hsame
  cases hsame with
  | some hrest => exact hrest.2.2

section Words

variable {R : List Char → List Char → Prop}

theorem char_cons_apply (c d : Char) (rest : List Char) :
    char c (d :: rest) = if c = d then some ((), rest) else none := rfl

theorem letters_cons_apply (k : Char) (ks : List Char) (c : Char) (rest : List Char) :
    letters (k :: ks) (c :: rest) = if c ∈ letterForms k then letters ks rest else none := rfl

theorem agrees_char (hR : Tracks R) {c : Char} (hc : isQuoteMark c = false) :
    Agrees R Eq (char c) (char c) := by
  intro cs ds h
  have hmark : ∀ {d : Char} {rest : List Char}, isQuoteMark d = true →
      char c (d :: rest) = none := by
    intro d rest hd
    refine char_eq_none (starts_cons.mpr (decide_eq_true ?_))
    rintro rfl
    exact absurd (hc.symm.trans hd) (by decide)
  cases hR _ _ h with
  | ends => exact .none
  | marks hd he => rw [hmark hd, hmark he]; exact .none
  | @same d _ _ _ hrest =>
    rw [char_cons_apply, char_cons_apply]
    by_cases hcd : c = d
    · rw [if_pos hcd, if_pos hcd]
      exact .some ⟨rfl, hrest⟩
    · rw [if_neg hcd, if_neg hcd]
      exact .none

theorem agrees_run (hR : Tracks R) {p : Char → Bool}
    (hp : ∀ c, isQuoteMark c = true → p c = false) :
    Agrees R Eq (run p) (run p) := fun _ _ h => .some (hR.span hp h)

theorem agrees_run1 (hR : Tracks R) {p : Char → Bool}
    (hp : ∀ c, isQuoteMark c = true → p c = false) : Agrees R Eq (run1 p) (run1 p) := by
  intro cs ds h
  obtain ⟨htake, hdrop⟩ := hR.span hp h
  rw [run1, run1, ← htake]
  split
  · exact .none
  · exact .some ⟨rfl, hdrop⟩

theorem agrees_gap (hR : Tracks R) : Agrees R Eq gap gap :=
  agrees_run hR fun _ => not_isBlank_of_isQuoteMark

theorem agrees_blanks (hR : Tracks R) : Agrees R Eq blanks blanks :=
  agrees_run1 hR fun _ => not_isBlank_of_isQuoteMark

theorem agrees_letters (hR : Tracks R) {ks : List Char}
    (hks : ∀ k ∈ ks, ∀ c ∈ letterForms k, isQuoteMark c = false) :
    Agrees R Eq (letters ks) (letters ks) := by
  induction ks with
  | nil => exact agrees_pure rfl
  | cons k ks ih =>
    intro cs ds h
    -- no form of a letter is a quote mark
    have hmark : ∀ {d : Char}, isQuoteMark d = true → ¬d ∈ letterForms k := fun {d} hd hmem =>
      absurd ((hks k (by simp) d hmem).symm.trans hd) (by decide)
    cases hR _ _ h with
    | ends => exact .none
    | marks hc hd =>
      rw [letters_cons_apply, letters_cons_apply, if_neg (hmark hc), if_neg (hmark hd)]
      exact .none
    | @same c _ _ _ hrest =>
      rw [letters_cons_apply, letters_cons_apply]
      by_cases hc : c ∈ letterForms k
      · rw [if_pos hc, if_pos hc]
        exact ih (fun k hk => hks k (List.mem_cons_of_mem _ hk)) hrest
      · rw [if_neg hc, if_neg hc]
        exact .none

theorem agrees_keyword (hR : Tracks R) {word : String} (hword : word ∈ keywords) :
    Agrees R Eq (keyword word) (keyword word) := by
  refine agrees_letters hR fun k hk c hc => ?_
  have hchar := (keywords_wordChars word hword).2 k hk c hc
  cases hmark : isQuoteMark c with
  | false => rfl
  | true => exact absurd (hchar.symm.trans (not_isWordChar_of_isQuoteMark hmark)) (by decide)

theorem agrees_anyKeyword (hR : Tracks R) {words : List String}
    (hwords : ∀ word ∈ words, word ∈ keywords) :
    Agrees R Eq (anyKeyword words) (anyKeyword words) := by
  refine agrees_firstOf fun r hr => ?_
  obtain ⟨word, hword, rfl⟩ := List.mem_map.mp hr
  exact agrees_keyword hR (hwords word hword)

theorem agrees_phrase (hR : Tracks R) {words : List String}
    (hwords : ∀ word ∈ words, word ∈ keywords) : Agrees R Eq (phrase words) (phrase words) := by
  induction words with
  | nil => exact agrees_pure rfl
  | cons word words ih =>
    have hword := agrees_keyword hR (hwords word (by simp))
    cases words with
    | nil => exact hword
    | cons next words =>
      rw [phrase_eq_bind]
      exact hword.andThen <| (agrees_blanks hR).andThen <|
        ih fun w hw => hwords w (List.mem_cons_of_mem _ hw)

theorem agrees_wordEnd (hR : Tracks R) : Agrees R Eq wordEnd wordEnd := by
  intro cs ds h
  rw [wordEnd, wordEnd, hR.any_head? (fun _ => not_isWordChar_of_isQuoteMark) h]
  split
  · exact .none
  · exact .some ⟨rfl, h⟩

theorem agrees_wholePhrase (hR : Tracks R) {words : List String}
    (hwords : ∀ word ∈ words, word ∈ keywords) :
    Agrees R Eq (wholePhrase words) (wholePhrase words) :=
  (agrees_phrase hR hwords).andThen (agrees_wordEnd hR)

theorem agrees_noDigit (hR : Tracks R) : Agrees R Eq noDigit noDigit := by
  intro cs ds h
  have hdigit : ∀ c, isQuoteMark c = true → isDecimalDigit c = false :=
    fun c hc => (isQuoteMark_kinds c (mem_of_isQuoteMark hc)).2.2.2.2.2
  have hblank := (hR.span (fun _ => not_isBlank_of_isQuoteMark) h).2
  rw [noDigit, noDigit, hR.any_head? hdigit hblank]
  split
  · exact .none
  · exact .some ⟨rfl, h⟩

theorem agrees_plainName (hR : Tracks R) : Agrees R Eq plainName plainName := by
  intro cs ds h
  have hkinds : ∀ c, isQuoteMark c = true → startsPlainName c = false ∧ isPlainNameRest c = false :=
    fun c hc => ⟨(isQuoteMark_kinds c (mem_of_isQuoteMark hc)).2.2.2.1,
      (isQuoteMark_kinds c (mem_of_isQuoteMark hc)).2.2.2.2.1⟩
  cases hR _ _ h with
  | ends => exact .none
  -- a plain name begins at neither mark
  | marks hc hd =>
    simp only [plainName, (hkinds _ hc).1, (hkinds _ hd).1]
    exact .none
  | same _ hrest =>
    obtain ⟨htake, hdrop⟩ := hR.span (fun c hc => (hkinds c hc).2) hrest
    simp only [plainName]
    split
    · exact .some ⟨congrArg (List.cons _) htake, hdrop⟩
    · exact .none

end Words

end SchemaDraft.Script
