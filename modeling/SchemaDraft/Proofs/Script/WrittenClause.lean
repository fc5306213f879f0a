import SchemaDraft.Proofs.Script.WrittenName
import SchemaDraft.Script.Clause

/-!
Key clauses, as they are written and as they are read. A key clause may have a name (`WritesLabel`);
its keywords stand in any letter case with blanks between them, and blanks may stand around its
lists. However it is written, it is read as the clause it is, since each of the readers before its
own fails at the first keyword that differs.
-/

namespace SchemaDraft.Script

open Reader Text

variable {cs rest gap list : List Char}

/-- Is this text the name of a constraint with its keyword and the blanks after it, or nothing? -/
inductive WritesLabel : List Char → Prop
  | none : WritesLabel []
  | name {keyword space text name after : List Char} : Spells "CONSTRAINT" keyword →
      IsSpace space → Writes text name → IsSpace after →
      WritesLabel (keyword ++ (space ++ (text ++ after)))

/-- A list of columns in parentheses, as the text between them. -/
structure IsList (list : List Char) : Prop where
  ne_nil : list ≠ []
  open_end : ')' ∉ list

section Words

variable {word text : List Char} {space : List Char}

theorem starts_isBreak_of_space (h : IsSpace space) : Starts isBreak (space ++ cs) := by
  obtain ⟨hne, hblank⟩ := h
  cases space with
  | nil => exact absurd rfl hne
  | cons c space => exact starts_cons.mpr (isBreak_of_isBlank (hblank c (by simp)))

theorem Spells.starts_ink {word : String} (h : Spells word text) (hword : word ∈ keywords) :
    Starts isInk (text ++ cs) := fun c hc => isInk_of_isWordChar (h.starts hword c hc)

/-- A gap before a list is passed over. -/
theorem gap_list (hgap : AllBlank gap) : Reader.gap (gap ++ '(' :: cs) = some (gap, '(' :: cs) :=
  gap_append hgap (starts_cons.mpr (by decide))

theorem parenthesised_list (h : IsList list) :
    parenthesised ('(' :: (list ++ ')' :: rest)) = some (list, rest) :=
  parenthesised_append h.ne_nil h.open_end

/-- The name of a constraint is passed over before any other keyword. -/
theorem constraintName_append {label : List Char} (hlabel : WritesLabel label) {word : String}
    (hword : word ∈ keywords) (hclash : clash "CONSTRAINT" word = true) (htext : Spells word text) :
    constraintName (label ++ (text ++ rest)) = some ((), text ++ rest) := by
  cases hlabel with
  | none =>
    exact optional_of_none (bind_of_none (keyword_of_clash (by decide) hword htext hclash) _)
  | @name keyword space written name after hkeyword hspace hname hafter =>
    refine optional_of_some ?_
    simp only [List.append_assoc]
    rw [bind_of_eq (keyword_append hkeyword), bind_of_eq (blanks_append hspace hname.starts),
      bind_of_eq (identifier_append hname (starts_isBreak_of_space hafter)),
      bind_of_eq (blanks_append hafter (htext.starts_ink hword))]
    rfl

end Words

/-! ### References -/

section Reference

variable {keyword space path target : List Char}

theorem starts_isBreak_list (hgap : AllBlank gap) : Starts isBreak (gap ++ '(' :: cs) :=
  Starts.append (fun c hc => isBreak_of_isBlank (hgap c hc)) (starts_cons.mpr (by decide))

theorem noDotNext_list (hgap : AllBlank gap) : NoDotNext (gap ++ '(' :: cs) :=
  noDotNext_append hgap (starts_cons.mpr (by decide)) (starts_cons.mpr (by decide))

theorem WritesPath.starts (h : WritesPath path target) : Starts isInk (path ++ cs) := by
  cases h with
  | last hname => exact hname.starts
  | dotted hpart _ _ _ =>
    rw [List.append_assoc]
    exact hpart.starts

theorem references_append (hkeyword : Spells "REFERENCES" keyword) (hspace : IsSpace space)
    (hpath : WritesPath path target) (hgap : AllBlank gap) (hlist : IsList list) :
    references (keyword ++ (space ++ (path ++ (gap ++ '(' :: (list ++ ')' :: rest))))) =
      some (⟨path, list⟩, rest) := by
  rw [references, bind_of_eq (keyword_append hkeyword),
    bind_of_eq (blanks_append hspace hpath.starts),
    bind_of_eq (qualifiedName_append hpath (starts_isBreak_list hgap) (noDotNext_list hgap)),
    bind_of_eq (gap_list hgap), bind_of_eq (parenthesised_list hlist)]
  rfl

/-- Nothing refers to a table without a parenthesis. -/
theorem opening_mem_of_references {r : Reference} (h : references cs = some (r, rest)) :
    '(' ∈ cs := by
  obtain ⟨_, left₁, hkeyword, h⟩ := bind_eq_some h
  obtain ⟨space, left₂, hblanks, h⟩ := bind_eq_some h
  obtain ⟨path, left₃, hpath, h⟩ := bind_eq_some h
  obtain ⟨gap, left₄, hgap, h⟩ := bind_eq_some h
  obtain ⟨list, left₅, hlist, _⟩ := bind_eq_some h
  obtain ⟨word, rfl, _⟩ := keyword_eq_some hkeyword
  obtain ⟨rfl, _, _⟩ := blanks_eq_some hblanks
  obtain ⟨rfl, _⟩ := qualifiedName_eq_some hpath
  obtain ⟨rfl, _⟩ := gap_eq_some hgap
  obtain ⟨rfl, _, _⟩ := parenthesised_eq_some hlist
  simp

/-- No list of a reference holds a closing parenthesis. -/
theorem closing_notMem_of_references {cs : List Char} {r : Reference}
    (h : references cs = some (r, rest)) : ')' ∉ r.columns := by
  obtain ⟨_, _, _, h⟩ := bind_eq_some h
  obtain ⟨_, _, _, h⟩ := bind_eq_some h
  obtain ⟨_, _, _, h⟩ := bind_eq_some h
  obtain ⟨_, _, _, h⟩ := bind_eq_some h
  obtain ⟨list, left, hlist, h⟩ := bind_eq_some h
  obtain ⟨rfl, _⟩ := Prod.mk.inj (Option.some.inj h)
  exact (parenthesised_eq_some hlist).2.2

theorem closing_notMem_of_foreignKeyWords {cs columns : List Char} {r : Reference}
    (h : foreignKeyWords cs = some ((columns, r), rest)) : ')' ∉ columns ∧ ')' ∉ r.columns := by
  obtain ⟨_, _, _, h⟩ := bind_eq_some h
  obtain ⟨_, _, _, h⟩ := bind_eq_some h
  obtain ⟨list, _, hlist, h⟩ := bind_eq_some h
  obtain ⟨_, _, _, h⟩ := bind_eq_some h
  obtain ⟨reference, _, hreference, h⟩ := bind_eq_some h
  obtain ⟨hread, _⟩ := Prod.mk.inj (Option.some.inj h)
  obtain ⟨rfl, rfl⟩ := Prod.mk.inj hread
  exact ⟨(parenthesised_eq_some hlist).2.2, closing_notMem_of_references hreference⟩

end Reference

/-! ### Key clauses -/

section Keys

variable {label word space key : List Char}

theorem phrase_key {first : String} (hword : Spells first word) (hspace : IsSpace space)
    (hkey : Spells "KEY" key) :
    phrase [first, "KEY"] (word ++ (space ++ (key ++ rest))) = some ((), rest) := by
  rw [phrase_cons hword hspace (hkey.starts_ink (by decide))]
  exact phrase_singleton hkey

theorem primaryKeyClause_append (hlabel : WritesLabel label) (hword : Spells "PRIMARY" word)
    (hspace : IsSpace space) (hkey : Spells "KEY" key) (hgap : AllBlank gap) (hlist : IsList list) :
    primaryKeyClause
        (label ++ (word ++ (space ++ (key ++ (gap ++ '(' :: (list ++ ')' :: rest)))))) =
      some (list, rest) := by
  rw [primaryKeyClause,
    bind_of_eq (constraintName_append hlabel (by decide) (by decide) hword),
    bind_of_eq (phrase_key hword hspace hkey), bind_of_eq (gap_list hgap)]
  exact parenthesised_list hlist

theorem uniqueClause_append (hlabel : WritesLabel label) (hword : Spells "UNIQUE" word)
    (hgap : AllBlank gap) (hlist : IsList list) :
    uniqueClause (label ++ (word ++ (gap ++ '(' :: (list ++ ')' :: rest)))) =
      some (list, rest) := by
  -- the optional word INDEX or KEY is not there: an opening parenthesis stands in its place
  have hindex : ∀ words : List String, (∀ w ∈ words, w ∈ keywords) →
      anyKeyword words ('(' :: (list ++ ')' :: rest)) = none := by
    intro words hwords
    refine firstOf_eq_none fun r hr => ?_
    obtain ⟨w, hw, rfl⟩ := List.mem_map.mp hr
    exact keyword_eq_none (hwords w hw) (starts_cons.mpr (by decide))
  have hnone : (do let _ ← blanks; indexWords : Reader Unit)
      (gap ++ '(' :: (list ++ ')' :: rest)) = none := by
    by_cases hempty : gap = []
    · rw [hempty]
      exact bind_of_none (blanks_eq_none (starts_cons.mpr (by decide))) _
    · rw [bind_of_eq (blanks_append ⟨hempty, hgap⟩ (starts_cons.mpr (by decide)))]
      exact bind_of_none (hindex _ (by decide)) _
  rw [uniqueClause, bind_of_eq (constraintName_append hlabel (by decide) (by decide) hword),
    bind_of_eq (keyword_append hword), bind_of_eq (optional_of_none hnone),
    bind_of_eq (gap_list hgap)]
  exact parenthesised_list hlist

theorem foreignKeyWords_append (hword : Spells "FOREIGN" word) (hspace : IsSpace space)
    (hkey : Spells "KEY" key) (hgap : AllBlank gap) (hlist : IsList list) {gap' : List Char}
    (hgap' : AllBlank gap') {reference : Reference} (hink : Starts isInk cs)
    (hread : references cs = some (reference, rest)) :
    foreignKeyWords (word ++ (space ++ (key ++ (gap ++ '(' :: (list ++ ')' :: (gap' ++ cs)))))) =
      some ((list, reference), rest) := by
  rw [foreignKeyWords, bind_of_eq (phrase_key hword hspace hkey), bind_of_eq (gap_list hgap),
    bind_of_eq (parenthesised_list hlist), bind_of_eq (gap_append hgap' hink), bind_of_eq hread]
  rfl

/-- After the name of a constraint a phrase is not read where another keyword stands. -/
theorem phrase_of_clash {first next other : String} {more : List String} (hfirst : first ∈ keywords)
    (hother : other ∈ keywords) (hword : Spells other word) (hclash : clash first other = true) :
    phrase (first :: next :: more) (word ++ rest) = none := by
  rw [phrase_eq_bind]
  exact bind_of_none (keyword_of_clash hfirst hother hword hclash) _

theorem primaryKeyClause_of_clash (hlabel : WritesLabel label) {other : String}
    (hother : other ∈ keywords) (hlabelled : clash "CONSTRAINT" other = true)
    (hword : Spells other word) (hclash : clash "PRIMARY" other = true) :
    primaryKeyClause (label ++ (word ++ rest)) = none := by
  rw [primaryKeyClause, bind_of_eq (constraintName_append hlabel hother hlabelled hword)]
  exact bind_of_none (phrase_of_clash (by decide) hother hword hclash) _

theorem uniqueClause_of_clash (hlabel : WritesLabel label) {other : String}
    (hother : other ∈ keywords) (hlabelled : clash "CONSTRAINT" other = true)
    (hword : Spells other word) (hclash : clash "UNIQUE" other = true) :
    uniqueClause (label ++ (word ++ rest)) = none := by
  rw [uniqueClause, bind_of_eq (constraintName_append hlabel hother hlabelled hword)]
  exact bind_of_none (keyword_of_clash (by decide) hother hword hclash) _

end Keys

/-! ### Columns -/

theorem isWordChar_of_startsPlainName {c : Char} (h : startsPlainName c = true) :
    isWordChar c = true := by
  have htable : ∀ n < 128, startsPlainName (Char.ofNat n) = true →
      isWordChar (Char.ofNat n) = true := by
    decide
  -- the letters that start a plain name are all ASCII, so a table of 128 settles it
  have hascii : c.toNat < 128 := by
    simp only [startsPlainName, Bool.or_eq_true, Bool.and_eq_true, decide_eq_true_eq,
      beq_iff_eq] at h
    rcases h with (⟨_, hle⟩ | ⟨_, hle⟩) | rfl
    · exact Nat.lt_of_le_of_lt hle (by decide)
    · exact Nat.lt_of_le_of_lt hle (by decide)
    · decide
  have hword := htable c.toNat hascii
  rw [Char.ofNat_toNat] at hword
  exact hword h

theorem isBare_of_isPlainNameRest {c : Char} (h : isPlainNameRest c = true) : isBare c = true := by
  rw [isPlainNameRest, Bool.or_eq_true, beq_iff_eq] at h
  rcases h with hword | rfl
  · exact isBare_of_isWordChar hword
  · decide +kernel

/-- The name of a column as it is read at the start of a definition. -/
def columnName : Reader (List Char) := firstOf [anyQuotedName, plainName]

/-- A plain name ends at blanks. -/
theorem columnName_plain {c : Char} {cs space : List Char} (hstarts : startsPlainName c = true)
    (hchars : ∀ d ∈ cs, isPlainNameRest d = true) (hspace : IsSpace space) (rest : List Char) :
    columnName (c :: cs ++ (space ++ rest)) = some (c :: cs, space ++ rest) := by
  have hquotes : ∀ quotes ∈ quotePairs, startsPlainName quotes.1 = false := by decide
  have hunquoted : anyQuotedName (c :: cs ++ (space ++ rest)) = none := by
    refine anyQuotedName_eq_none fun quotes hq => starts_cons.mpr (decide_eq_true ?_)
    rintro rfl
    rw [hquotes quotes hq] at hstarts
    exact absurd hstarts (by decide)
  have hstops : Starts (fun d => !isPlainNameRest d) (space ++ rest) := by
    obtain ⟨b, more, rfl⟩ := List.exists_cons_of_ne_nil hspace.ne_nil
    refine starts_cons.mpr ?_
    cases hplain : isPlainNameRest b with
    | false => rfl
    | true =>
      have hink := isInk_of_isBare (isBare_of_isPlainNameRest hplain)
      rw [isInk, hspace.blank b (by simp)] at hink
      exact absurd hink (by decide)
  have hplain : plainName (c :: cs ++ (space ++ rest)) = some (c :: cs, space ++ rest) := by
    rw [List.cons_append, plainName, if_pos hstarts, takeWhile_append_of_stop hchars hstops,
      dropWhile_append_of_stop hchars hstops]
  rw [columnName, firstOf_of_none hunquoted]
  exact firstOf_of_some hplain

theorem columnParts_append {text space remainder : List Char}
    (hname : columnName (text ++ (space ++ remainder)) = some (text, space ++ remainder))
    (hspace : IsSpace space) (hne : remainder ≠ []) (hink : Starts isInk remainder)
    (htrimmed : IsTrimmed (text ++ (space ++ remainder))) :
    columnParts (text ++ (space ++ remainder)) = some (text, remainder) := by
  have hparts : (do
      let name ← firstOf [anyQuotedName, plainName]
      let _ ← blanks
      return name : Reader (List Char)) (text ++ (space ++ remainder)) =
        some (text, remainder) := by
    rw [bind_of_eq (r := firstOf [anyQuotedName, plainName]) hname,
      bind_of_eq (blanks_append hspace hink)]
    rfl
  simp only [columnParts, trim_eq_self htrimmed, hparts]
  cases remainder with
  | nil => exact absurd rfl hne
  | cons c remainder => rfl

/-- A name without blanks after it, or no name, makes no column. -/
theorem columnParts_eq_none {definition : List Char} (htrimmed : IsTrimmed definition)
    (h : ∀ text rest, columnName definition = some (text, rest) → Starts isInk rest) :
    columnParts definition = none := by
  have hparts : (do
      let name ← firstOf [anyQuotedName, plainName]
      let _ ← blanks
      return name : Reader (List Char)) definition = none := by
    cases hname : columnName definition with
    | none => exact bind_of_none hname _
    | some found =>
      rw [bind_of_eq (r := firstOf [anyQuotedName, plainName]) hname]
      exact bind_of_none (blanks_eq_none (h _ _ hname)) _
  simp only [columnParts, trim_eq_self htrimmed, hparts]

/-- What a definition says that is none of the clauses: it is a column or unreadable. -/
def Clause.readColumnLine (table : String) (definition : List Char) : Clause :=
  match readColumn definition with
  | none => .unreadable (.unreadableDefinition table (String.ofList definition))
  | some spec => .column spec ((searchWord references definition).map fun found =>
      found.value.key table [spec.name])

theorem read_eq_readColumnLine {definition : List Char} (table : String)
    (hprimary : primaryKeyClause definition = none) (hunique : uniqueClause definition = none)
    (hforeign : foreignKeyClause definition = none) (hother : otherClause definition = none) :
    Clause.read table definition = Clause.readColumnLine table definition := by
  simp only [Clause.read, hprimary, hunique, hforeign, hother]
  rfl

/-- Does no keyword open a text as a whole word? One that is read there leaves a letter of a longer
word. -/
def OpensNoClause (cs : List Char) : Prop :=
  ∀ word ∈ keywords, ∀ left, keyword word cs = some ((), left) →
    ∃ c more, left = c :: more ∧ isWordChar c = true

theorem opensNoClause_of_starts (h : Starts isMark cs) : OpensNoClause cs := by
  intro word hword left hread
  rw [keyword_eq_none hword h] at hread
  exact absurd hread (by simp)

theorem opensNoClause_of_word {v : List Char} (hv : ∀ c ∈ v, isWordChar c = true)
    (hnot : ∀ word ∈ keywords, ¬Spells word v) (hrest : Starts isMark rest) :
    OpensNoClause (v ++ rest) := by
  intro word hword left hread
  rcases keyword_of_word hword hv hrest hread with ⟨hspells, _⟩ | hletter
  · exact absurd hspells (hnot word hword)
  · exact hletter

section OpensNoClause

variable {α : Type} {word : String}

/-- What fails inside a word fails after a keyword. -/
theorem OpensNoClause.bind_eq_none (h : OpensNoClause cs) (hword : word ∈ keywords)
    {f : Unit → Reader α} (hf : ∀ c more, isWordChar c = true → f () (c :: more) = none) :
    (keyword word >>= f) cs = none := by
  cases hread : keyword word cs with
  | none => exact bind_of_none hread f
  | some found =>
    obtain ⟨c, more, hleft, hc⟩ := h word hword found.2 hread
    rw [bind_of_eq hread, hleft]
    exact hf c more hc

theorem OpensNoClause.any_eq_some (h : OpensNoClause cs) {words : List String}
    (hwords : ∀ word ∈ words, word ∈ keywords) {left : List Char}
    (hread : anyKeyword words cs = some ((), left)) :
    ∃ c more, left = c :: more ∧ isWordChar c = true := by
  obtain ⟨r, hr, hkeyword⟩ := exists_of_firstOf hread
  obtain ⟨word, hword, rfl⟩ := List.mem_map.mp hr
  exact h word (hwords word hword) left hkeyword

theorem blanks_bind_eq_none {f : List Char → Reader α} {c : Char} {more : List Char}
    (hc : isWordChar c = true) : (blanks >>= f) (c :: more) = none :=
  bind_of_none (blanks_eq_none (starts_cons.mpr (isInk_of_isWordChar hc))) f

theorem OpensNoClause.phrase_eq_none (h : OpensNoClause cs) (hword : word ∈ keywords)
    (next : String) (words : List String) : phrase (word :: next :: words) cs = none := by
  rw [phrase_eq_bind]
  exact h.bind_eq_none hword fun c more hc => blanks_bind_eq_none hc

theorem OpensNoClause.constraintName (h : OpensNoClause cs) : constraintName cs = some ((), cs) :=
  optional_of_none (h.bind_eq_none (by decide) fun c more hc => blanks_bind_eq_none hc)

/-- No parenthesis is found inside a word. -/
theorem gap_bind_eq_none {f : List Char → Reader α} {c : Char} {more : List Char}
    (hc : isWordChar c = true) (hf : ∀ taken, f taken (c :: more) = none) :
    (Reader.gap >>= f) (c :: more) = none := by
  have hgap : Reader.gap (c :: more) = some ([], c :: more) :=
    gap_of_starts (starts_cons.mpr (isInk_of_isWordChar hc))
  rw [bind_of_eq hgap]
  exact hf []

theorem ne_opening_of_isWordChar {c : Char} (hc : isWordChar c = true) : c ≠ '(' := by
  rintro rfl
  exact absurd hc (by decide)

end OpensNoClause

/-- A definition that no keyword opens is no clause. -/
theorem read_of_opensNoClause (table : String) {definition : List Char}
    (h : OpensNoClause definition) :
    Clause.read table definition = Clause.readColumnLine table definition := by
  have hopening : ∀ (c : Char) (more : List Char), isWordChar c = true →
      Starts (· ≠ '(') (c :: more) :=
    fun c more hc => starts_cons.mpr (decide_eq_true (ne_opening_of_isWordChar hc))
  -- each clause reader needs a word here, or an opening parenthesis behind its word
  have hprimary : primaryKeyClause definition = none := by
    rw [primaryKeyClause, bind_of_eq h.constraintName]
    exact bind_of_none (h.phrase_eq_none (by decide) _ _) _
  have hunique : uniqueClause definition = none := by
    rw [uniqueClause, bind_of_eq h.constraintName]
    refine h.bind_eq_none (by decide) fun c more hc => ?_
    rw [bind_of_eq (optional_of_none (blanks_bind_eq_none hc))]
    exact gap_bind_eq_none hc fun _ => parenthesised_eq_none (hopening c more hc)
  have hforeign : foreignKeyClause definition = none := by
    rw [foreignKeyClause, bind_of_eq h.constraintName, foreignKeyWords]
    exact bind_of_none (h.phrase_eq_none (by decide) _ _) _
  have hother : otherClause definition = none := by
    refine firstOf_eq_none fun r hr => ?_
    simp only [List.mem_cons, List.not_mem_nil, or_false] at hr
    rcases hr with rfl | rfl | rfl | rfl
    · rw [checkClause, bind_of_eq h.constraintName]
      refine h.bind_eq_none (by decide) fun c more hc => ?_
      exact gap_bind_eq_none hc fun _ => char_eq_none (hopening c more hc)
    · rw [excludeClause, bind_of_eq h.constraintName]
      exact bind_of_none (h.phrase_eq_none (by decide) _ _) _
    · cases hread : anyKeyword ["FULLTEXT", "SPATIAL"] definition with
      | none => exact bind_of_none hread _
      | some found =>
        obtain ⟨c, more, hleft, hc⟩ := h.any_eq_some (by decide) hread
        rw [specialIndexClause, bind_of_eq hread, hleft]
        exact blanks_bind_eq_none hc
    · cases hread : anyKeyword ["KEY", "INDEX"] definition with
      | none => exact bind_of_none (bind_of_none hread _) _
      | some found =>
        obtain ⟨c, more, hleft, hc⟩ := h.any_eq_some (by decide) hread
        have hwords : indexWords definition = some ((), c :: more) := by
          rw [indexWords, bind_of_eq hread, hleft]
          exact optional_of_none (blanks_bind_eq_none hc)
        rw [indexClause, bind_of_eq hwords]
        exact gap_bind_eq_none hc fun _ => bind_of_none (char_eq_none (hopening c more hc)) _
  exact read_eq_readColumnLine table hprimary hunique hforeign hother

end SchemaDraft.Script
