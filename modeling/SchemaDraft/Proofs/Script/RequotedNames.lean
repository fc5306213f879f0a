import SchemaDraft.Proofs.Script.ReadNames
import SchemaDraft.Proofs.Script.Requoted

/-!
Names in other quotes. Where one text writes a name, a text that is the same but for the quotes
writes the same name (`agrees_identifier`), and so for dotted names and lists. A list gives the same
names, or names that are no single names and in which some quote mark is left
(`sameNames_columnNameStrings`). A reference is not found inside a name (`searchWord_references`).
-/

namespace SchemaDraft.Script

open Reader Text

variable {cs ds : List Char} {rule : NameRule}

/-! ### Single names -/

/-- Are these two ways to write one name? -/
def WritesSame (text text' : List Char) : Prop := ∃ name, Writes text name ∧ Writes text' name

/-- Are these two ways to write one name that holds no quote mark? -/
def WritesClean (text text' : List Char) : Prop :=
  ∃ name, Writes text name ∧ Writes text' name ∧ ∀ c ∈ name, isQuoteMark c = false

theorem WritesClean.writesSame {text text' : List Char} (h : WritesClean text text') :
    WritesSame text text' := by
  obtain ⟨name, hwrites, hwrites', _⟩ := h
  exact ⟨name, hwrites, hwrites'⟩

theorem WritesSame.normalName_eq {text text' : List Char} (h : WritesSame text text') :
    normalName text = normalName text' := by
  obtain ⟨name, hwrites, hwrites'⟩ := h
  rw [normalName_of_writes hwrites, normalName_of_writes hwrites']

/-- No name in quotes starts where a character stands outside quotes. -/
theorem StandsAlone.anyQuotedName_eq_none {c : Char} (hc : StandsAlone c cs) :
    anyQuotedName (c :: cs) = none := by
  obtain ⟨_, hdouble, hbacktick⟩ := hc.marks
  have hother : ∀ opening closing, c ≠ opening → quotedName opening closing (c :: cs) = none :=
    fun _ _ hne => quotedName_eq_none (starts_cons.mpr (by simpa using hne))
  have hbracket : quotedName '[' ']' (c :: cs) = none := by
    -- an opening bracket standing alone is closed at once, and an empty name is no name
    by_cases heq : c = '['
    · subst heq
      have hempty : run1 (· ≠ ']') cs = none := by
        refine run1_eq_none fun d hd => ?_
        have hclosing := hc.bracket rfl d hd
        simpa using hclosing
      rw [quotedName, bind_of_eq (char_cons '[')]
      exact bind_of_none hempty _
    · exact hother _ _ heq
  refine firstOf_eq_none fun r hr => ?_
  simp only [quotePairs, List.map_cons, List.map_nil, List.mem_cons, List.not_mem_nil,
    or_false] at hr
  rcases hr with rfl | rfl | rfl
  · exact hother _ _ hdouble
  · exact hother _ _ hbacktick
  · exact hbracket

theorem agrees_anyQuotedName : Agrees (Requoted rule) WritesClean anyQuotedName anyQuotedName := by
  intro cs ds h
  cases h with
  | nil => exact .none
  | plain hc hrest =>
    rw [hc.anyQuotedName_eq_none, (hc.of_requoted hrest).anyQuotedName_eq_none]
    exact .none
  | @name quotes quotes' name cs ds hquotes hquotes' hname _ _ hrest =>
    -- neither closing mark occurs in the name, so both spellings end where they should
    have hread : ∀ q ∈ quotePairs, ∀ rest, q.2 ∉ name ∧
        anyQuotedName (q.1 :: (name ++ [q.2]) ++ rest) = some (q.1 :: (name ++ [q.2]), rest) := by
      rintro ⟨opening, closing⟩ hq rest
      have hnot : closing ∉ name := fun hmem =>
        absurd ((hname.marks _ hmem).symm.trans (isQuoteMark_quotePairs _ hq).2) Bool.false_ne_true
      exact ⟨hnot, anyQuotedName_append hq hname.ne_nil hnot⟩
    rw [quoted_append quotes, quoted_append quotes', (hread quotes hquotes cs).2,
      (hread quotes' hquotes' ds).2]
    exact .some ⟨⟨name, .quoted hquotes hname.ne_nil (hread quotes hquotes cs).1,
      .quoted hquotes' hname.ne_nil (hread quotes' hquotes' ds).1, hname.marks⟩, hrest⟩

theorem writesClean_of_bare {name : List Char} (hne : name ≠ [])
    (hbare : ∀ c ∈ name, isBare c = true) : WritesClean name name := by
  refine ⟨name, .bare hne hbare, .bare hne hbare, fun c hc => ?_⟩
  cases hmark : isQuoteMark c with
  | false => rfl
  | true =>
    exact absurd ((hbare c hc).symm.trans (isQuoteMark_kinds c (mem_of_isQuoteMark hmark)).2.2.1)
      (by decide)

theorem agrees_columnName : Agrees (Requoted rule) WritesClean columnName columnName := by
  have hplain : Agrees (Requoted rule) WritesClean plainName plainName :=
    (agrees_plainName Requoted.tracks).imp fun _ _ a b _ _ hread _ heq => by
      obtain ⟨_, hne, hbare⟩ := plainName_eq_some hread
      exact heq ▸ writesClean_of_bare hne hbare
  refine agrees_firstOf fun r hr => ?_
  simp only [List.mem_cons, List.not_mem_nil, or_false] at hr
  rcases hr with rfl | rfl
  · exact agrees_anyQuotedName
  · exact hplain

/-- Do texts that are related start with the same names, and do names in quotes leave related texts?
-/
structure TracksNames (R : List Char → List Char → Prop) : Prop where
  tracks : Tracks R
  length_eq : ∀ cs ds, R cs ds → cs.length = ds.length
  quoted : Agrees R WritesSame anyQuotedName anyQuotedName

theorem Requoted.tracksNames : TracksNames (Requoted rule) where
  tracks := Requoted.tracks
  length_eq cs ds h := by simpa using congrArg List.length h.alike
  quoted := agrees_anyQuotedName.imp fun _ _ _ _ _ _ _ _ => WritesClean.writesSame

section TracksNames

variable {R : List Char → List Char → Prop}

theorem agrees_identifier (hR : TracksNames R) : Agrees R WritesSame identifier identifier := by
  have hbare : Agrees R WritesSame (run1 isBare) (run1 isBare) :=
    (agrees_run1 hR.tracks fun c hc => (isQuoteMark_kinds c (mem_of_isQuoteMark hc)).2.2.1).imp
      fun _ _ a b _ _ hread _ heq => by
        obtain ⟨_, hne, hbare, _⟩ := run1_eq_some hread
        exact heq ▸ (writesClean_of_bare hne hbare).writesSame
  refine agrees_firstOf fun r hr => ?_
  simp only [List.mem_cons, List.not_mem_nil, or_false] at hr
  rcases hr with rfl | rfl
  · exact hR.quoted
  · exact hbare

/-! ### Dotted names -/

/-- Are these two ways to write one dotted name? -/
def PathsSame (path path' : List Char) : Prop :=
  ∃ name, WritesPath path name ∧ WritesPath path' name

/-- Do these dotted parts make the same of the same first name? -/
def PartsSame (parts parts' : List Char) : Prop :=
  ∀ first first', WritesSame first first' → PathsSame (first ++ parts) (first' ++ parts')

/-- Are these a dot, the same blanks around it, and the same name? -/
def PartSame (part part' : List Char) : Prop :=
  ∃ before after name name', part = before ++ '.' :: (after ++ name) ∧
    part' = before ++ '.' :: (after ++ name') ∧
    AllBlank before ∧ AllBlank after ∧ WritesSame name name'

theorem PathsSame.normalTableName_eq {path path' : List Char} (h : PathsSame path path') :
    normalTableName path = normalTableName path' := by
  obtain ⟨name, hpath, hpath'⟩ := h
  rw [normalTableName_of_writesPath hpath, normalTableName_of_writesPath hpath']

theorem partsSame_nil : PartsSame [] [] := by
  rintro first first' ⟨name, hwrites, hwrites'⟩
  rw [List.append_nil, List.append_nil]
  exact ⟨name, .last hwrites, .last hwrites'⟩

theorem PartSame.append {part part' parts parts' : List Char} (h : PartSame part part')
    (hparts : PartsSame parts parts') : PartsSame (part ++ parts) (part' ++ parts') := by
  obtain ⟨before, after, next, next', rfl, rfl, hbefore, hafter, hnext⟩ := h
  rintro first first' ⟨_, hfirst, hfirst'⟩
  obtain ⟨name, htail, htail'⟩ := hparts next next' hnext
  refine ⟨name, ?_, ?_⟩
  · simpa only [List.append_assoc, List.cons_append] using WritesPath.dotted hfirst hbefore
      hafter htail
  · simpa only [List.append_assoc, List.cons_append] using WritesPath.dotted hfirst' hbefore
      hafter htail'

/-- Blanks are the same in both texts. -/
theorem agrees_gap_blank (hR : TracksNames R) : Agrees R (fun a b => a = b ∧ AllBlank a) gap gap :=
  (agrees_gap hR.tracks).imp fun _ _ _ _ _ _ hread _ heq => ⟨heq, (gap_eq_some hread).2⟩

theorem agrees_dottedPart (hR : TracksNames R) : Agrees R PartSame dottedPart dottedPart := by
  refine (agrees_gap_blank hR).bind fun before _ hbefore => ?_
  obtain ⟨rfl, hbefore⟩ := hbefore
  refine (agrees_char hR.tracks (by decide)).andThen <|
    (agrees_gap_blank hR).bind fun after _ hafter => ?_
  obtain ⟨rfl, hafter⟩ := hafter
  exact (agrees_identifier hR).bind fun name name' hname =>
    agrees_pure ⟨before, after, name, name', rfl, rfl, hbefore, hafter, hname⟩

theorem agrees_dottedParts (hR : TracksNames R) (fuel : Nat) :
    Agrees R PartsSame (dottedParts fuel) (dottedParts fuel) := by
  induction fuel with
  | zero => exact agrees_pure partsSame_nil
  | succ fuel ih =>
    intro cs ds h
    simp only [dottedParts]
    obtain ⟨hcs, hds⟩ | ⟨⟨part, rest⟩, ⟨part', rest'⟩, hcs, hds, hpart, hrest⟩ :=
      none_or_some_of_rel (agrees_dottedPart hR h)
    · rw [hcs, hds]
      exact .some ⟨partsSame_nil, h⟩
    · rw [hcs, hds]
      obtain ⟨hlater, hlater'⟩ | ⟨⟨parts, left⟩, ⟨parts', left'⟩, hlater, hlater', hparts, hleft⟩ :=
        none_or_some_of_rel (ih hrest)
      · simp only [hlater, hlater']
        exact .none
      · simp only [hlater, hlater']
        exact .some ⟨hpart.append hparts, hleft⟩

theorem agrees_qualifiedName (hR : TracksNames R) :
    Agrees R PathsSame qualifiedName qualifiedName := by
  refine (agrees_identifier hR).bind fun first first' hfirst => ?_
  have hparts :
      Agrees R PartsSame (fun cs => dottedParts cs.length cs) fun cs =>
        dottedParts cs.length cs := by
    intro cs ds h
    show Option.Rel _ (dottedParts cs.length cs) (dottedParts ds.length ds)
    rw [hR.length_eq cs ds h]
    exact agrees_dottedParts hR ds.length h
  exact hparts.bind fun parts parts' hsame => agrees_pure (hsame first first' hfirst)

end TracksNames

/-! ### Lists in parentheses -/

/-- The texts up to the first closing parenthesis, and from it on. -/
theorem Requoted.span_closing (h : Requoted rule cs ds) :
    Requoted rule (cs.takeWhile (· ≠ ')')) (ds.takeWhile (· ≠ ')')) ∧
      Requoted rule (cs.dropWhile (· ≠ ')')) (ds.dropWhile (· ≠ ')')) := by
  induction h with
  | nil => exact ⟨.nil, .nil⟩
  | @plain c cs ds hc hrest ih =>
    by_cases hclosing : c = ')'
    · subst hclosing
      exact ⟨.nil, .plain hc hrest⟩
    · have hpos : decide (c ≠ ')') = true := decide_eq_true hclosing
      simp only [List.takeWhile_cons, List.dropWhile_cons, hpos, if_true]
      exact ⟨.plain (hc.of_isPrefix (List.takeWhile_prefix _)) ih.1, ih.2⟩
  | @name quotes quotes' name cs ds hquotes hquotes' hname hrule hquiet _ ih =>
    -- a name holds no closing parenthesis, so the reading passes over it whole
    have hpass : ∀ q ∈ quotePairs, ∀ c ∈ q.1 :: (name ++ [q.2]), decide (c ≠ ')') = true := by
      intro q hq c hc
      refine decide_eq_true fun heq => closing_notMem_quoted hq hname (heq ▸ hc)
    rw [quoted_append quotes, quoted_append quotes', List.takeWhile_append_of_pos (hpass _ hquotes),
      List.takeWhile_append_of_pos (hpass _ hquotes'),
      List.dropWhile_append_of_pos (hpass _ hquotes),
      List.dropWhile_append_of_pos (hpass _ hquotes'), ← quoted_append, ← quoted_append]
    exact ⟨.name hquotes hquotes' hname hrule hquiet ih.1, ih.2⟩

theorem agrees_parenthesised :
    Agrees (Requoted rule) (Requoted rule) parenthesised parenthesised := by
  have hinner : Agrees (Requoted rule) (Requoted rule) (run1 (· ≠ ')')) (run1 (· ≠ ')')) := by
    intro cs ds h
    obtain ⟨htake, hdrop⟩ := h.span_closing
    have hempty := htake.eq_nil_iff
    rw [run1, run1]
    by_cases hcs : cs.takeWhile (· ≠ ')') = []
    · rw [if_pos hcs, if_pos (hempty.mp hcs)]
      exact .none
    · rw [if_neg hcs, if_neg fun hds => hcs (hempty.mpr hds)]
      exact .some ⟨htake, hdrop⟩
  exact (agrees_char Requoted.tracks (by decide)).andThen <| hinner.bind fun _ _ hsame =>
    (agrees_char Requoted.tracks (by decide)).andThen <| agrees_pure hsame

/-! ### References -/

/-- Do two references lead to one table, by lists that are the same but for the quotes? -/
structure ReferencesSame (rule : NameRule) (r r' : Reference) : Prop where
  table : normalTableName r.table = normalTableName r'.table
  columns : Requoted rule r.columns r'.columns

theorem agrees_references : Agrees (Requoted rule) (ReferencesSame rule) references references := by
  refine (agrees_keyword Requoted.tracks (by decide)).andThen <|
    (agrees_blanks Requoted.tracks).andThen <|
    (agrees_qualifiedName Requoted.tracksNames).bind fun table table' htable => ?_
  exact (agrees_gap Requoted.tracks).andThen <|
    agrees_parenthesised.bind fun columns columns' hcolumns =>
    agrees_pure ⟨htable.normalTableName_eq, hcolumns⟩

/-- A reference, where a word may start. -/
def referencesAfter (previous : Option Char) : Reader Reference :=
  if previous.any isWordChar then refuse else references

/-- A reference that starts in a name has its first word and a blank in the name. -/
theorem referencesWord_of_references {quotes : Char × Char} (hquotes : quotes ∈ quotePairs)
    {part : List Char}
    (h : references (part ++ quotes.2 :: cs) ≠ none) : referencesWord part ≠ none := by
  have hmark := (isQuoteMark_quotePairs quotes hquotes).2
  obtain ⟨⟨reference, rest⟩, hread⟩ := Option.ne_none_iff_exists'.mp h
  obtain ⟨_, left, hkeyword, hread⟩ := bind_eq_some hread
  obtain ⟨space, _, hblanks, _⟩ := bind_eq_some hread
  obtain ⟨text, hsplit, hspells⟩ := keyword_eq_some hkeyword
  obtain ⟨hleft, hspace, _⟩ := blanks_eq_some hblanks
  obtain ⟨b, more, rfl⟩ := List.exists_cons_of_ne_nil hspace.ne_nil
  have hb : isBlank b = true := hspace.blank b (by simp)
  -- the word ends before the quote that closes the name, and so does the first blank after it
  obtain ⟨after, rfl, hafter⟩ : ∃ after, part = text ++ after ∧ left = after ++ quotes.2 :: cs := by
    rcases List.append_eq_append_iff.mp hsplit with ⟨after, htext, hrest⟩ | ⟨after, hpart, hrest⟩
    · cases after with
      | nil => exact ⟨[], by simpa using htext.symm, by simpa using hrest.symm⟩
      | cons d after =>
        obtain ⟨rfl, _⟩ := List.cons.inj hrest
        have hword := (hspells.wordChars (by decide)).2 quotes.2 (by rw [htext]; simp)
        exact absurd (hword.symm.trans (not_isWordChar_of_isQuoteMark hmark)) (by decide)
    · exact ⟨after, hpart, hrest⟩
  cases after with
  | nil =>
    obtain ⟨rfl, _⟩ := List.cons.inj (hafter.symm.trans hleft)
    exact absurd (hb.symm.trans (not_isBlank_of_isQuoteMark hmark)) (by decide)
  | cons d after =>
    obtain ⟨rfl, _⟩ := List.cons.inj (hafter.symm.trans hleft)
    rw [referencesWord, bind_of_eq (keyword_append hspells)]
    simp [blanks, run1, hb]

/-- Does a text start inside a name, in a text whose names hold no opening parenthesis? -/
def Inside (cs : List Char) : Prop :=
  ∃ quotes ∈ quotePairs, ∃ part rest rest', cs = part ++ quotes.2 :: rest ∧
    (∀ c ∈ part, isQuoteMark c = false) ∧ '(' ∉ part ∧ Requoted .noParenthesis rest rest'

theorem tracks_inside : Tracks (OnSame Inside) := by
  rintro cs _ ⟨rfl, quotes, hquotes, part, rest, rest', rfl, hmarks, hopening, hrest⟩
  cases part with
  | nil =>
    exact .marks (isQuoteMark_quotePairs quotes hquotes).2 (isQuoteMark_quotePairs quotes hquotes).2
  | cons c part =>
    exact .same (hmarks c (by simp)) ⟨rfl, quotes, hquotes, part, rest, rest', rfl,
      fun d hd => hmarks d (List.mem_cons_of_mem _ hd),
      fun hmem => hopening (List.mem_cons_of_mem _ hmem), hrest⟩

/-- After the next double quote, or the next backtick, outside of names, a name starts. -/
theorem inside_of_dropWhile {m : Char} (hm : m = '"' ∨ m = '\x60')
    (h : Requoted .noParenthesis cs ds)
    {left : List Char} (hleft : cs.dropWhile (· ≠ m) = m :: left) : Inside left := by
  induction h with
  | nil => exact absurd hleft (by simp)
  | @plain c cs ds hc _ ih =>
    have hcm : c ≠ m := by
      rcases hm with rfl | rfl
      · exact hc.marks.2.1
      · exact hc.marks.2.2
    rw [List.dropWhile_cons_of_pos (by simpa using hcm)] at hleft
    exact ih hleft
  | @name quotes quotes' name cs ds hquotes hquotes' hname hrule _ hrest ih =>
    by_cases hopen : quotes.1 = m
    · rw [List.dropWhile_cons_of_neg (by simpa using hopen)] at hleft
      obtain ⟨_, rfl⟩ := List.cons.inj hleft
      exact ⟨quotes, hquotes, name, cs, ds, rfl, hname.marks, hrule, hrest⟩
    · have hpairs : ∀ q ∈ quotePairs, ∀ m ∈ ['"', '\x60'], q.1 ≠ m → q.2 ≠ m := by decide
      have hclose : quotes.2 ≠ m := hpairs quotes hquotes m (by simpa using hm) hopen
      have hmark : isQuoteMark m = true := by rcases hm with rfl | rfl <;> decide
      have hpass : ∀ c ∈ quotes.1 :: (name ++ [quotes.2]), decide (c ≠ m) = true := by
        intro c hc
        refine decide_eq_true fun heq => ?_
        simp only [List.mem_cons, List.mem_append, List.not_mem_nil, or_false] at hc
        rcases hc with rfl | hc | rfl
        · exact hopen heq
        · exact absurd ((hname.marks c hc).symm.trans (heq ▸ hmark)) (by decide)
        · exact hclose heq
      rw [quoted_append, List.dropWhile_append_of_pos hpass] at hleft
      exact ih hleft

/-- What is read from inside a name as a name in quotes is the text up to the next name. -/
theorem inside_of_quotedName {quotes : Char × Char} (hquotes : quotes ∈ quotePairs) (h : Inside cs)
    {text rest : List Char} (hread : quotedName quotes.1 quotes.2 cs = some (text, rest)) :
    Inside rest := by
  obtain ⟨around, haround, part, after, after', rfl, hmarks, _, hafter⟩ := h
  obtain ⟨_, afterOpen, hopen, hread⟩ := bind_eq_some hread
  obtain ⟨inner, afterInner, hinner, hread⟩ := bind_eq_some hread
  obtain ⟨_, afterClose, hclose, hread⟩ := bind_eq_some hread
  obtain ⟨_, rfl⟩ := Prod.mk.inj (Option.some.inj hread)
  have hstart := char_eq_some hopen
  -- a quote opens a name only at the end of the part, where the closing mark of the name stands
  cases part with
  | cons c part =>
    obtain ⟨rfl, _⟩ := List.cons.inj hstart
    have hmark := (isQuoteMark_quotePairs quotes hquotes).1
    exact absurd ((hmarks quotes.1 List.mem_cons_self).symm.trans hmark) (by decide)
  | nil =>
    obtain ⟨hquote, rfl⟩ := List.cons.inj hstart
    have hpairs : ∀ a ∈ quotePairs, ∀ q ∈ quotePairs, a.2 = q.1 →
        q.1 = q.2 ∧ (q.1 = '"' ∨ q.1 = '\x60') := by decide
    obtain ⟨heq, hm⟩ := hpairs around haround quotes hquotes hquote
    obtain ⟨hsplit, _, htaken, hstop⟩ := run1_eq_some hinner
    rw [char_eq_some hclose] at hsplit hstop
    refine inside_of_dropWhile (m := quotes.2) (heq ▸ hm) hafter ?_
    rw [hsplit]
    exact dropWhile_append_of_stop htaken hstop

theorem tracksNames_inside : TracksNames (OnSame Inside) where
  tracks := tracks_inside
  length_eq _ _ h := congrArg List.length h.1
  quoted := by
    rintro cs _ ⟨rfl, h⟩
    cases hread : anyQuotedName cs with
    | none => exact .none
    | some found =>
      obtain ⟨r, hr, hfound⟩ := exists_of_firstOf hread
      obtain ⟨quotes, hquotes, rfl⟩ := List.mem_map.mp hr
      obtain ⟨name, htext, _, hne, hnot⟩ := quotedName_eq_some hfound
      have hwrites : Writes found.1 name := htext ▸ .quoted hquotes hne hnot
      exact .some ⟨⟨name, hwrites, hwrites⟩, rfl, inside_of_quotedName hquotes h hfound⟩

/-- From inside a name no parenthesis is reached, and so no reference is read. -/
theorem references_inside (h : Inside cs) : references cs = none := by
  cases hread : references cs with
  | none => rfl
  | some found =>
    obtain ⟨_, left₁, hkeyword, hread⟩ := bind_eq_some hread
    obtain ⟨_, left₂, hblanks, hread⟩ := bind_eq_some hread
    obtain ⟨_, left₃, htable, hread⟩ := bind_eq_some hread
    obtain ⟨_, left₄, hgap, hread⟩ := bind_eq_some hread
    obtain ⟨_, _, hlist, _⟩ := bind_eq_some hread
    -- each of the readers stays inside the name, so the list cannot open
    have h₁ := (agrees_keyword tracks_inside (by decide)).keeps h hkeyword
    have h₂ := (agrees_blanks tracks_inside).keeps h₁ hblanks
    have h₃ := (agrees_qualifiedName tracksNames_inside).keeps h₂ htable
    obtain ⟨quotes, hquotes, part, rest, _, rfl, _, hopening, _⟩ :=
      (agrees_gap tracks_inside).keeps h₃ hgap
    have hstart := (parenthesised_eq_some hlist).1
    cases part with
    | nil =>
      obtain ⟨hquote, _⟩ := List.cons.inj hstart
      have hmark := (isQuoteMark_quotePairs quotes hquotes).2
      exact absurd hmark (by rw [hquote]; decide)
    | cons c part =>
      obtain ⟨rfl, _⟩ := List.cons.inj hstart
      exact absurd List.mem_cons_self hopening

/-- No reference starts at a place in a name. -/
theorem referencesAfter_in_name {quotes : Char × Char} {start part : List Char}
    (hquotes : quotes ∈ quotePairs)
    (hname : IsQuotable (start ++ part)) (hrule : rule.Allows (start ++ part))
    (h : Requoted rule cs ds) :
    referencesAfter (start.getLast?.or none) (part ++ quotes.2 :: cs) = none := by
  rw [referencesAfter]
  by_cases hstarts : (start.getLast?.or none).any isWordChar = true
  · rw [if_pos hstarts]
    rfl
  · rw [if_neg hstarts]
    cases rule with
    | noReference =>
      by_contra hread
      have hhidden := searchFrom_eq_none_iff.mp (Option.isNone_iff_eq_none.mp hrule) start part rfl
      rw [if_neg hstarts] at hhidden
      exact referencesWord_of_references hquotes hread hhidden
    | noParenthesis =>
      exact references_inside ⟨quotes, hquotes, part, cs, ds, rfl,
        fun c hc => hname.marks c (List.mem_append_right _ hc),
        fun hmem => hrule (List.mem_append_right _ hmem), h⟩

/-- No reference is found in a name in quotes. -/
theorem searchFrom_quoted {quotes : Char × Char} {name : List Char} (hquotes : quotes ∈ quotePairs)
    (hname : IsQuotable name) (hrule : rule.Allows name) (h : Requoted rule cs ds)
    (previous : Option Char) :
    searchFrom previous referencesAfter (quotes.1 :: (name ++ quotes.2 :: cs)) =
      (searchFrom (some quotes.2) referencesAfter cs).map fun found =>
        { found with before := quotes.1 :: (name ++ [quotes.2]) ++ found.before } := by
  obtain ⟨hopen, _⟩ := isQuoteMark_quotePairs quotes hquotes
  have hlast : (quotes.1 :: (name ++ [quotes.2])).getLast?.or previous = some quotes.2 := by
    rw [← List.cons_append, List.getLast?_append]
    rfl
  rw [quoted_append, searchFrom_skip, hlast]
  intro start c more hsplit
  -- the search passes the opening mark, then every part of the name
  cases start with
  | nil =>
    obtain ⟨rfl, _⟩ := List.cons.inj hsplit
    have hmark : Starts isMark (quotes.1 :: (more ++ cs)) :=
      starts_cons.mpr (by simp [isMark, not_isWordChar_of_isQuoteMark hopen])
    rw [referencesAfter]
    split
    · rfl
    · exact bind_of_none (keyword_eq_none (by decide) hmark) _
  | cons d start =>
    obtain ⟨rfl, hinner⟩ := List.cons.inj hsplit
    obtain ⟨part, hpart, rfl⟩ : ∃ part, c :: more = part ++ [quotes.2] ∧ name = start ++ part := by
      have hend := (List.dropLast_append_getLast (List.cons_ne_nil c more)).symm
      have hparts :
          name ++ [quotes.2] =
            start ++ (c :: more).dropLast ++ [(c :: more).getLast (by simp)] := by
        rw [List.append_assoc, ← hend]
        exact hinner
      obtain ⟨hname, hquote⟩ := List.append_inj' hparts rfl
      exact ⟨_, by rw [hquote]; exact hend, hname⟩
    have hword : ((quotes.1 :: start).getLast?.or previous).any isWordChar =
        (start.getLast?.or none).any isWordChar := by
      rw [getLast?_cons_or]
      cases start.getLast? <;> simp [not_isWordChar_of_isQuoteMark hopen]
    have hnone := referencesAfter_in_name hquotes hname hrule h
    rw [referencesAfter] at hnone
    rw [referencesAfter, hword, ← List.cons_append, hpart, List.append_assoc]
    exact hnone

/-- The same reference is found in texts that are the same but for the quotes. -/
theorem searchWord_references (h : Requoted rule cs ds) :
    Option.Rel (fun found found' => ReferencesSame rule found.value found'.value)
      (searchWord references cs) (searchWord references ds) := by
  suffices hfrom :
      ∀ previous previous' : Option Char, previous.any isWordChar = previous'.any isWordChar →
      Option.Rel (fun found found' => ReferencesSame rule found.value found'.value)
        (searchFrom previous referencesAfter cs) (searchFrom previous' referencesAfter ds) from
    hfrom none none rfl
  have hagrees :
      ∀ previous previous' : Option Char, previous.any isWordChar = previous'.any isWordChar →
      Agrees (Requoted rule) (ReferencesSame rule) (referencesAfter previous)
        (referencesAfter previous') := by
    intro previous previous' hsame
    rw [referencesAfter, referencesAfter, hsame]
    split
    · exact agrees_refuse
    · exact agrees_references
  induction h with
  | nil =>
    intro previous previous' hsame
    rw [searchFrom, searchFrom]
    exact rel_map (hagrees _ _ hsame .nil) fun _ _ hread => hread.1
  | @plain c cs ds hc hrest ih =>
    intro previous previous' hsame
    rw [searchFrom, searchFrom]
    obtain ⟨hcs, hds⟩ | ⟨_, _, hcs, hds, hvalue, _⟩ :=
      none_or_some_of_rel (hagrees _ _ hsame (.plain hc hrest))
    · rw [hcs, hds]
      exact rel_map (ih (some c) (some c) rfl) fun _ _ hfound => hfound
    · rw [hcs, hds]
      exact .some hvalue
  | @name quotes quotes' name cs ds hquotes hquotes' hname hrule _ hrest ih =>
    intro previous previous' _
    have hwords : (some quotes.2).any isWordChar = (some quotes'.2).any isWordChar := by
      simp [not_isWordChar_of_isQuoteMark (isQuoteMark_quotePairs _ hquotes).2,
        not_isWordChar_of_isQuoteMark (isQuoteMark_quotePairs _ hquotes').2]
    rw [searchFrom_quoted hquotes hname hrule hrest,
      searchFrom_quoted hquotes' hname hrule hrest.symm]
    exact rel_map (ih _ _ hwords) fun _ _ hfound => hfound

/-! ### Lists of names -/

/-- Is a quote mark left in a name? -/
def IsMarked (name : String) : Prop := ∃ c ∈ name.toList, isQuoteMark c = true

instance (name : String) : Decidable (IsMarked name) :=
  inferInstanceAs (Decidable (∃ c ∈ name.toList, isQuoteMark c = true))

/-- Are two names the same, or is a quote mark left in both? -/
def NamesSame (name name' : String) : Prop := name = name' ∨ IsMarked name ∧ IsMarked name'

/-- Does a quote mark stand in a text, neither first nor last? -/
def HasInnerMark (cs : List Char) : Prop :=
  ∃ before m after, cs = before ++ m :: after ∧ isQuoteMark m = true ∧ before ≠ [] ∧ after ≠ []

/-- A quote mark inside a text outlasts the removal of one layer of quotes. -/
theorem HasInnerMark.exists_mem_normalName (h : HasInnerMark (trim cs)) :
    ∃ m ∈ normalName cs, isQuoteMark m = true := by
  obtain ⟨before, m, after, hsplit, hm, hbefore, hafter⟩ := h
  have hsettled : ∀ c ∈ ['"', '\x60', '[', ']'], IsSettled c := by simp only [IsSettled]; decide
  refine ⟨m, mem_lower_of_mem (hsettled m (mem_of_isQuoteMark hm)) ?_, hm⟩
  obtain ⟨b, before, rfl⟩ := List.exists_cons_of_ne_nil hbefore
  simp only [unquote, hsplit]
  split
  · rw [List.cons_append, List.drop_succ_cons, List.drop_zero,
      List.dropLast_append_of_ne_nil (List.cons_ne_nil _ _), List.dropLast_cons_of_ne_nil hafter]
    simp
  · simp

/-- Texts that differ have an opening quote in them, and something after it. -/
theorem Requoted.eq_or_opening (h : Requoted rule cs ds) : cs = ds ∨
    (∃ before m after, cs = before ++ m :: after ∧ isQuoteMark m = true ∧ after ≠ []) ∧
      ∃ before m after, ds = before ++ m :: after ∧ isQuoteMark m = true ∧ after ≠ [] := by
  induction h with
  | nil => exact .inl rfl
  | @plain c _ _ _ _ ih =>
    rcases ih with rfl | ⟨⟨before, m, after, rfl, hm, hafter⟩, before', m', after', rfl,
        hm', hafter'⟩
    · exact .inl rfl
    · exact .inr ⟨⟨c :: before, m, after, rfl, hm, hafter⟩, c :: before', m', after', rfl,
        hm', hafter'⟩
  | name hquotes hquotes' _ _ _ _ _ =>
    exact .inr ⟨⟨[], _, _, rfl, (isQuoteMark_quotePairs _ hquotes).1, by simp⟩,
      [], _, _, rfl, (isQuoteMark_quotePairs _ hquotes').1, by simp⟩

/-- Texts that are the same but for the quotes are equal, or write one name, or hold more than a
name. -/
theorem Requoted.eq_or_writesSame_or_innerMark (h : Requoted rule cs ds) :
    cs = ds ∨ WritesSame cs ds ∨ HasInnerMark cs ∧ HasInnerMark ds := by
  cases h with
  | nil => exact .inl rfl
  | @plain c _ _ _ hrest =>
    rcases hrest.eq_or_opening with rfl | ⟨⟨before, m, after, rfl, hm, hafter⟩, before', m', after',
        rfl, hm', hafter'⟩
    · exact .inl rfl
    · exact .inr (.inr ⟨⟨c :: before, m, after, rfl, hm, by simp, hafter⟩,
        c :: before', m', after', rfl, hm', by simp, hafter'⟩)
  | @name quotes quotes' name cs ds hquotes hquotes' hname _ _ hrest =>
    obtain ⟨_, hclose⟩ := isQuoteMark_quotePairs quotes hquotes
    obtain ⟨_, hclose'⟩ := isQuoteMark_quotePairs quotes' hquotes'
    have hnot : ∀ m, isQuoteMark m = true → m ∉ name := fun m hm hmem =>
      absurd ((hname.marks m hmem).symm.trans hm) (by decide)
    by_cases hcs : cs = []
    · obtain rfl := hcs
      obtain rfl : ds = [] := hrest.eq_nil_iff.mp rfl
      exact .inr (.inl ⟨name, .quoted hquotes hname.ne_nil (hnot _ hclose),
        .quoted hquotes' hname.ne_nil (hnot _ hclose')⟩)
    · exact .inr (.inr ⟨⟨quotes.1 :: name, quotes.2, cs, rfl, hclose, by simp, hcs⟩,
        quotes'.1 :: name, quotes'.2, ds, rfl, hclose', by simp,
        fun hds => hcs (hrest.eq_nil_iff.mpr hds)⟩)

theorem namesSame_normalName (h : Requoted rule cs ds) :
    NamesSame (String.ofList (normalName cs)) (String.ofList (normalName ds)) := by
  have htrim : ∀ {a b : List Char}, trim a = trim b → normalName a = normalName b := by
    intro a b hab
    simp only [normalName, unquote, hab]
  rcases h.trim.eq_or_writesSame_or_innerMark with heq | hwrites | ⟨hmark, hmark'⟩
  · exact .inl (congrArg _ (htrim heq))
  · obtain ⟨name, hcs, hds⟩ := id hwrites
    have hsame := hwrites.normalName_eq
    rw [htrim (trim_eq_self hcs.isTrimmed), htrim (trim_eq_self hds.isTrimmed)] at hsame
    exact .inl (congrArg _ hsame)
  · refine .inr ⟨?_, ?_⟩
    · simpa only [IsMarked, String.toList_ofList] using hmark.exists_mem_normalName
    · simpa only [IsMarked, String.toList_ofList] using hmark'.exists_mem_normalName

theorem namesSame_columnNameStrings (h : Requoted rule cs ds) :
    List.Forall₂ NamesSame (columnNameStrings cs) (columnNameStrings ds) := by
  simp only [columnNameStrings, columnNames, List.forall₂_map_left_iff, List.forall₂_map_right_iff]
  exact (splitCommas_requoted h).imp fun _ _ => namesSame_normalName

end SchemaDraft.Script
