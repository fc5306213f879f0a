import SchemaDraft.Proofs.Model.ColumnType
import SchemaDraft.Proofs.Script.Agreement

/-!
Texts that differ in nothing but which quote marks stand in them (`Alike`). The type of a column,
where it ends and the flags after it are the same for such texts (`ofText_of_alike`,
`alike_typeText`, `hasPhrase_of_alike`): no word that is looked for holds a quote mark. Only the
small form of a capital sigma may differ, since a backtick is looked through where the end of a word
is sought and other quote marks are not; no word that is looked for holds one either.
-/

namespace SchemaDraft.Script

open Reader Text

/-- A character, all quote marks being made the same. -/
def evenMark (c : Char) : Char := if isQuoteMark c then '"' else c

/-- Do two texts differ only in the marks that quote names? -/
def Alike (cs ds : List Char) : Prop := cs.map evenMark = ds.map evenMark

theorem evenMark_of_not {c : Char} (h : isQuoteMark c = false) : evenMark c = c := by
  rw [evenMark, if_neg (by rw [h]; decide)]

theorem evenMark_of_isQuoteMark {c : Char} (h : isQuoteMark c = true) : evenMark c = '"' := if_pos h

theorem evenMark_eq_mark {c : Char} (h : evenMark c = '"') : isQuoteMark c = true := by
  cases hc : isQuoteMark c with
  | true => rfl
  | false =>
    rw [evenMark_of_not hc] at h
    rw [← hc, h]
    decide

theorem tracks_alike : Tracks Alike := by
  intro cs ds h
  cases cs with
  | nil =>
    obtain rfl : ds = [] := List.map_eq_nil_iff.mp (Eq.symm h)
    exact .ends
  | cons c cs =>
    cases ds with
    | nil => exact absurd h (by simp [Alike])
    | cons d ds =>
      obtain ⟨hhead, htail⟩ : evenMark c = evenMark d ∧ Alike cs ds := List.cons.inj h
      cases hc : isQuoteMark c with
      | true => exact .marks hc (evenMark_eq_mark (hhead ▸ evenMark_of_isQuoteMark hc))
      | false =>
        -- a quote mark never evens to the same character as any other character
        have hd : isQuoteMark d = false := by
          rw [← Bool.not_eq_true]
          intro hd
          rw [evenMark_of_isQuoteMark hd] at hhead
          exact absurd (hc.symm.trans (evenMark_eq_mark hhead)) (by decide)
        rw [evenMark_of_not hc, evenMark_of_not hd] at hhead
        subst hhead
        exact .same hc htail

/-! ### Searching -/

/-- Searches in alike texts find alike places. A reader may look at the character before its place,
but only at whether it belongs to a word. -/
theorem searchFrom_of_alike {α : Type} {T : α → α → Prop} {r : Option Char → Reader α}
    (hr : ∀ p p' : Option Char, p.any isWordChar = p'.any isWordChar → Agrees Alike T (r p) (r p'))
    {previous previous' : Option Char}
    (hprevious : previous.any isWordChar = previous'.any isWordChar)
    {cs ds : List Char} (h : Alike cs ds) :
    Option.Rel (fun found found' => Alike found.before found'.before ∧ T found.value found'.value)
      (searchFrom previous r cs) (searchFrom previous' r ds) := by
  induction cs generalizing previous previous' ds with
  | nil =>
    obtain rfl : ds = [] := List.map_eq_nil_iff.mp (Eq.symm h)
    rw [searchFrom, searchFrom]
    exact rel_map (hr _ _ hprevious h) fun _ _ hread => ⟨rfl, hread.1⟩
  | cons c cs ih =>
    cases ds with
    | nil => exact absurd h (by simp [Alike])
    | cons d ds =>
      obtain ⟨hhead, htail⟩ : evenMark c = evenMark d ∧ Alike cs ds := List.cons.inj h
      have hwords : (some c).any isWordChar = (some d).any isWordChar :=
        tracks_alike.any_head? (fun _ => not_isWordChar_of_isQuoteMark) h
      rw [searchFrom, searchFrom]
      obtain ⟨hcs, hds⟩ | ⟨p, q, hcs, hds, hvalue, _⟩ := none_or_some_of_rel (hr _ _ hprevious h)
      · rw [hcs, hds]
        exact rel_map (ih hwords htail) fun _ _ hfound =>
          ⟨congrArg₂ List.cons hhead hfound.1, hfound.2⟩
      · rw [hcs, hds]
        exact .some ⟨rfl, hvalue⟩

theorem typeEnds_keywords : ∀ phrases ∈ typeEnds, ∀ word ∈ phrases, word ∈ keywords := by decide

theorem agrees_typeEnd {R : List Char → List Char → Prop} (hR : Tracks R) :
    Agrees R Eq typeEnd typeEnd := by
  refine (agrees_blanks hR).andThen <| agrees_firstOf fun r hr => ?_
  obtain ⟨phrases, hphrases, rfl⟩ := List.mem_map.mp hr
  exact agrees_wholePhrase hR (typeEnds_keywords phrases hphrases)

/-- The types before the same constraints are alike. -/
theorem alike_typeText {cs ds : List Char} (h : Alike cs ds) :
    Alike (typeText cs) (typeText ds) := by
  have hfound :=
    searchFrom_of_alike (r := fun _ => typeEnd) (fun _ _ _ => agrees_typeEnd tracks_alike)
    (rfl : Option.any isWordChar none = _) h
  rw [typeText, typeText, search, search]
  obtain ⟨hcs, hds⟩ | ⟨found, found', hcs, hds, hbefore, _⟩ := none_or_some_of_rel hfound
  · rw [hcs, hds]
    exact h
  · rw [hcs, hds]
    exact hbefore

theorem hasPhrase_of_alike {words : List String} (hwords : ∀ word ∈ words, word ∈ keywords)
    {cs ds : List Char} (h : Alike cs ds) : hasPhrase words cs = hasPhrase words ds := by
  have hguarded : ∀ p p' : Option Char, p.any isWordChar = p'.any isWordChar →
      Agrees Alike Eq (if p.any isWordChar then refuse else wholePhrase words)
        (if p'.any isWordChar then refuse else wholePhrase words) := by
    intro p p' hp
    rw [hp]
    split
    · exact agrees_refuse
    · exact agrees_wholePhrase tracks_alike hwords
  have hfound := searchFrom_of_alike hguarded (rfl : Option.any isWordChar none = _) h
  rw [hasPhrase, hasPhrase, searchWord, searchWord]
  obtain ⟨hcs, hds⟩ | ⟨_, _, hcs, hds, _⟩ := none_or_some_of_rel hfound
  · rw [hcs, hds]
  · rw [hcs, hds]
    rfl

/-! ### Types -/

/-- A character, all quote marks and the two small forms of sigma being made the same. -/
def evenLetter (c : Char) : Char := if c = 'ς' then 'σ' else evenMark c

/-- The small form of a character, with quote marks and sigmas made the same; it does not look
around. -/
def evenLower (c : Char) : List Char := if c = 'Σ' then ['σ'] else (lowerChar c).map evenLetter

theorem evenLower_evenMark (c : Char) : evenLower (evenMark c) = evenLower c := by
  cases hc : isQuoteMark c with
  | false => rw [evenMark_of_not hc]
  | true =>
    have hmarks : ∀ m ∈ ['"', '\x60', '[', ']'], evenLower '"' = evenLower m := by decide +kernel
    rw [evenMark_of_isQuoteMark hc]
    exact hmarks c (mem_of_isQuoteMark hc)

/-- Which sigma ends a word is all that lowering reads off the characters around. -/
theorem map_evenLetter_lower (cs : List Char) :
    (lower cs).map evenLetter = cs.flatMap evenLower := by
  -- the letter before decides between the two small sigmas, so it is general in the induction
  suffices hfrom : ∀ before, (lowerFrom before cs).map evenLetter =
      cs.flatMap evenLower from hfrom false
  induction cs with
  | nil => exact fun _ => rfl
  | cons c cs ih =>
    intro before
    rw [lowerFrom, List.map_append, ih, List.flatMap_cons, evenLower]
    split
    · split <;> rfl
    · rfl

/-- Does a change of single characters keep what is blank, and spaces? -/
structure KeepsBlanks (f : Char → Char) : Prop where
  blank : ∀ c, isBlank (f c) = isBlank c
  space : f ' ' = ' '
  only_space : ∀ c, f c = ' ' → c = ' '

theorem KeepsBlanks.trim {f : Char → Char} (hf : KeepsBlanks f) (cs : List Char) :
    Text.trim (cs.map f) = (Text.trim cs).map f := by
  have hblank : isBlank ∘ f = isBlank := funext hf.blank
  rw [Text.trim, Text.trim, trimRight, trimRight, trimLeft, trimLeft, List.dropWhile_map, hblank,
    ← List.map_reverse, List.dropWhile_map, hblank, List.map_reverse]

theorem KeepsBlanks.collapseBlanks {f : Char → Char} (hf : KeepsBlanks f) (cs : List Char) :
    Text.collapseBlanks (cs.map f) = (Text.collapseBlanks cs).map f := by
  induction cs with
  | nil => rfl
  | cons c cs ih =>
    rw [List.map_cons, Text.collapseBlanks, Text.collapseBlanks, hf.blank, ih]
    split
    · cases Text.collapseBlanks cs with
      | nil => simp [hf.space]
      | cons d ds =>
        -- a space is put in front only when none is there yet
        by_cases hd : d = ' '
        · subst hd
          simp [hf.space]
        · have hfd : f d ≠ ' ' := fun h => hd (hf.only_space d h)
          simp [hf.space, hd, hfd]
    · rfl

theorem keepsBlanks_evenMark : KeepsBlanks evenMark where
  blank c := by
    cases hc : isQuoteMark c with
    | false => rw [evenMark_of_not hc]
    | true => rw [evenMark_of_isQuoteMark hc, not_isBlank_of_isQuoteMark hc]; decide
  space := by decide
  only_space c h := by
    cases hc : isQuoteMark c with
    | false => rwa [evenMark_of_not hc] at h
    | true =>
      rw [evenMark_of_isQuoteMark hc] at h
      exact absurd h (by decide)

theorem keepsBlanks_evenLetter : KeepsBlanks evenLetter where
  blank c := by
    by_cases hc : c = 'ς'
    · subst hc; decide
    · rw [evenLetter, if_neg hc, keepsBlanks_evenMark.blank]
  space := by decide
  only_space c h := by
    by_cases hc : c = 'ς'
    · subst hc; exact absurd h (by decide)
    · rw [evenLetter, if_neg hc] at h
      exact keepsBlanks_evenMark.only_space c h

/-- The spelling of a type up to quote marks and sigmas. -/
def evenSpelling (cs : List Char) : List Char := collapseBlanks ((trim cs).flatMap evenLower)

theorem map_evenLetter_normalSpelling (cs : List Char) :
    (ColumnType.normalSpelling cs).map evenLetter = evenSpelling cs := by
  rw [ColumnType.normalSpelling, ← keepsBlanks_evenLetter.collapseBlanks, map_evenLetter_lower,
    evenSpelling]

theorem evenSpelling_map {f : Char → Char} (hf : KeepsBlanks f)
    (hlower : ∀ c, evenLower (f c) = evenLower c)
    (cs : List Char) : evenSpelling (cs.map f) = evenSpelling cs := by
  rw [evenSpelling, hf.trim, List.flatMap_map, List.flatMap_congr fun c _ => hlower c, evenSpelling]

/-- Is a character only made from itself? -/
def IsEven (c : Char) : Prop := isQuoteMark c = false ∧ c ≠ 'σ' ∧ c ≠ 'ς'

instance (c : Char) : Decidable (IsEven c) := inferInstanceAs (Decidable (_ ∧ _ ∧ _))

theorem IsEven.eq_iff {c : Char} (h : IsEven c) (d : Char) : c = d ↔ c = evenLetter d := by
  obtain ⟨hmark, hsigma, hfinal⟩ := h
  constructor
  · rintro rfl
    rw [evenLetter, if_neg hfinal, evenMark_of_not hmark]
  · intro heq
    -- only the final sigma and the quote marks are moved, and both to characters that are not even
    by_cases hd : d = 'ς'
    · subst hd
      exact absurd heq (by simpa [evenLetter] using hsigma)
    · rw [evenLetter, if_neg hd] at heq
      cases hdmark : isQuoteMark d with
      | false => rwa [evenMark_of_not hdmark] at heq
      | true =>
        rw [evenMark_of_isQuoteMark hdmark] at heq
        subst heq
        exact absurd hmark (by decide)

theorem isPrefixOf_map_evenLetter {start : List Char} (h : ∀ c ∈ start, IsEven c) (cs : List Char) :
    start.isPrefixOf cs = start.isPrefixOf (cs.map evenLetter) := by
  induction start generalizing cs with
  | nil => rfl
  | cons c start ih =>
    cases cs with
    | nil => rfl
    | cons d cs =>
      have hhead : (c == d) = (c == evenLetter d) := by
        rw [Bool.eq_iff_iff, beq_iff_eq, beq_iff_eq]
        exact (h c (by simp)).eq_iff d
      rw [List.map_cons, List.isPrefixOf_cons_cons, List.isPrefixOf_cons_cons, hhead,
        ih fun e he => h e (List.mem_cons_of_mem _ he)]

/-- No start of a rule holds a quote mark or a sigma. -/
theorem isEven_rules :
    ∀ rule ∈ ColumnType.startRules, ∀ start ∈ rule.1, ∀ c ∈ start.toList, IsEven c := by
  decide +kernel

/-- Quote marks and sigmas do not count for the type. -/
theorem ofText_eq_evenSpelling (cs : List Char) :
    ColumnType.ofText cs = ColumnType.byRules (evenSpelling cs) := by
  rw [ColumnType.ofText_eq_byRules, ← map_evenLetter_normalSpelling]
  exact ColumnType.byRules_congr fun rule hrule start hstart =>
    isPrefixOf_map_evenLetter (isEven_rules rule hrule start hstart) _

/-- Which quote marks stand in a type does not count. -/
theorem ofText_of_alike {cs ds : List Char} (h : Alike cs ds) :
    ColumnType.ofText cs = ColumnType.ofText ds := by
  rw [ofText_eq_evenSpelling, ofText_eq_evenSpelling,
    ← evenSpelling_map keepsBlanks_evenMark evenLower_evenMark cs,
    show cs.map evenMark =
        ds.map evenMark from h, evenSpelling_map keepsBlanks_evenMark evenLower_evenMark]

end SchemaDraft.Script
