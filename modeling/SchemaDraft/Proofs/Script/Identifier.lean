import SchemaDraft.Proofs.Script.Search
import SchemaDraft.Proofs.Script.Split
import SchemaDraft.Proofs.Script.WrittenClause

/-!
Identifiers, in all the ways to write them. An identifier is a word of Latin letters, digits and
underscores that is no keyword; it may be written in any letter case, bare or in one of the three
styles of quotes (`WritesName`), and as the name of a table with a path before it
(`WritesTableName`). Nothing that is written so hides a keyword (`WritesName.freeOf`), a comma or a
parenthesis (`WritesName.isPiece`).
-/

namespace SchemaDraft.Script

open Reader Text

variable {rest : List Char}

/-- A character of an identifier. -/
def isIdentifierChar (c : Char) : Bool :=
  startsPlainName c || (decide ('0' ≤ c) && decide (c ≤ '9'))

/-- Is this a word of Latin letters, digits and underscores that starts with no digit and is no
keyword? -/
structure IsIdentifier (name : List Char) : Prop where
  starts : name.head?.any startsPlainName = true
  chars : ∀ c ∈ name, isIdentifierChar c = true
  not_keyword : ∀ word ∈ keywords, ¬Spells word name

instance (name : List Char) : Decidable (IsIdentifier name) :=
  decidable_of_iff
    (name.head?.any startsPlainName = true ∧ (∀ c ∈ name, isIdentifierChar c = true) ∧
    ∀ word ∈ keywords, ¬Spells word name)
    ⟨fun h => ⟨h.1, h.2.1, h.2.2⟩, fun h => ⟨h.starts, h.chars, h.not_keyword⟩⟩

/-- Is this text a way to write an identifier with this lower case? -/
inductive WritesName : List Char → String → Prop
  | intro {text name : List Char} : Writes text name → IsIdentifier name →
      WritesName text (String.ofList (lower name))

/-- Is this text a way to write the name of a table, perhaps after a path? -/
inductive WritesTableName : List Char → String → Prop
  | last {text : List Char} {name : String} : WritesName text name → WritesTableName text name
  | dotted {part before after tail : List Char} {first name : String} : WritesName part first →
      AllBlank before → AllBlank after → WritesTableName tail name →
      WritesTableName (part ++ (before ++ '.' :: (after ++ tail))) name

/-! ### Identifiers -/

theorem isWordChar_of_isIdentifierChar {c : Char} (h : isIdentifierChar c = true) :
    isWordChar c = true := by
  have hdigits : ∀ n < 58, 48 ≤ n → isWordChar (Char.ofNat n) = true := by decide +kernel
  rw [isIdentifierChar, Bool.or_eq_true, Bool.and_eq_true, decide_eq_true_eq,
    decide_eq_true_eq] at h
  rcases h with hstarts | ⟨hlow, hhigh⟩
  · exact isWordChar_of_startsPlainName hstarts
  · have hword := hdigits c.toNat (Nat.lt_succ_of_le hhigh) hlow
    rwa [Char.ofNat_toNat] at hword

section IsIdentifier

variable {name : List Char}

theorem IsIdentifier.wordChars (h : IsIdentifier name) : ∀ c ∈ name, isWordChar c = true :=
  fun c hc => isWordChar_of_isIdentifierChar (h.chars c hc)

theorem IsIdentifier.exists_cons (h : IsIdentifier name) :
    ∃ c cs, name = c :: cs ∧ startsPlainName c = true := by
  cases name with
  | nil => exact absurd h.starts (by simp)
  | cons c cs => exact ⟨c, cs, rfl, by simpa using h.starts⟩

theorem IsIdentifier.ne_nil (h : IsIdentifier name) : name ≠ [] := by
  obtain ⟨c, cs, rfl, _⟩ := h.exists_cons
  simp

theorem IsIdentifier.freeOf (h : IsIdentifier name) {word : String} (hword : word ∈ keywords) :
    FreeOf word name := freeOf_of_wordChars h.wordChars (h.not_keyword word hword)

end IsIdentifier

/-! ### Names -/

theorem quotePairs_isMark : ∀ quotes ∈ quotePairs,
    isMark quotes.1 = true ∧ isMark quotes.2 = true ∧ quotes.1 ≠ ')' ∧ quotes.2 ≠ ')' := by
  decide +kernel

section WritesName

variable {text : List Char} {name : String}

theorem WritesName.exists_writes (h : WritesName text name) :
    ∃ spelled, Writes text spelled ∧ String.ofList (lower spelled) = name := by
  cases h with
  | intro hwrites _ => exact ⟨_, hwrites, rfl⟩

/-- Every identifier can be written as it is. -/
theorem IsIdentifier.writesName {spelled : List Char} (h : IsIdentifier spelled) :
    WritesName spelled (String.ofList (lower spelled)) :=
  .intro (.bare h.ne_nil fun c hc => isBare_of_isWordChar (h.wordChars c hc)) h

theorem WritesName.ne_nil (h : WritesName text name) : text ≠ [] := by
  obtain ⟨_, hwrites, _⟩ := h.exists_writes
  exact hwrites.ne_nil

/-- An identifier is written as it is, or between two quotes. -/
theorem WritesName.exists_spelled (h : WritesName text name) :
    ∃ spelled, IsIdentifier spelled ∧ String.ofList (lower spelled) = name ∧
      (text = spelled ∨ ∃ quotes ∈ quotePairs, text = quotes.1 :: (spelled ++ [quotes.2])) := by
  obtain ⟨hwrites, hname⟩ := h
  cases hwrites with
  | bare _ _ => exact ⟨_, hname, rfl, .inl rfl⟩
  | quoted hquotes _ _ => exact ⟨_, hname, rfl, .inr ⟨_, hquotes, rfl⟩⟩

/-- No keyword is a word of a written name. -/
theorem WritesName.freeOf (h : WritesName text name) {word : String} (hword : word ∈ keywords) :
    FreeOf word text := by
  obtain ⟨spelled, hspelled, _, rfl | ⟨quotes, hquotes, rfl⟩⟩ := h.exists_spelled
  · exact hspelled.freeOf hword
  · obtain ⟨hopening, hclosing, _⟩ := quotePairs_isMark _ hquotes
    show FreeOf word ([] ++ quotes.1 :: (spelled ++ quotes.2 :: []))
    rw [freeOf_append_cons hopening, freeOf_append_cons hclosing]
    exact ⟨freeOf_nil hword, hspelled.freeOf hword, freeOf_nil hword⟩

theorem WritesName.closing_notMem (h : WritesName text name) : ')' ∉ text := by
  have hinner : ∀ cs, IsIdentifier cs → ')' ∉ cs := by
    intro cs hcs hmem
    have hword := hcs.wordChars ')' hmem
    exact absurd hword (by decide)
  obtain ⟨spelled, hspelled, _, rfl | ⟨quotes, hquotes, rfl⟩⟩ := h.exists_spelled
  · exact hinner _ hspelled
  · obtain ⟨_, _, hopening, hclosing⟩ := quotePairs_isMark _ hquotes
    intro hmem
    rcases List.mem_cons.mp hmem with heq | hmem
    · exact hopening heq.symm
    rcases List.mem_append.mp hmem with hmem | hmem
    · exact hinner _ hspelled hmem
    · exact hclosing (List.mem_singleton.mp hmem).symm

theorem WritesName.isTrimmed (h : WritesName text name) : IsTrimmed text := by
  obtain ⟨spelled, hspelled, _, rfl | ⟨quotes, hquotes, rfl⟩⟩ := h.exists_spelled
  · have hink : ∀ c ∈ text, isBlank c = false :=
      fun c hc => not_isBlank_of_isWordChar (hspelled.wordChars c hc)
    exact ⟨fun c hc => hink c (List.mem_of_mem_head? hc),
      fun c hc => hink c (List.mem_of_getLast? hc)⟩
  · exact isTrimmed_quoted hquotes

theorem WritesName.nested (h : WritesName text name) : Nested false text := by
  have hinner : ∀ cs, IsIdentifier cs → ∀ c ∈ cs, Cursor.isPlain c = true ∧ c ≠ ',' :=
    fun cs hcs c hc => plain_of_isWordChar (hcs.wordChars c hc)
  obtain ⟨spelled, hspelled, _, rfl | ⟨quotes, hquotes, rfl⟩⟩ := h.exists_spelled
  · exact .of_plain (hinner _ hspelled)
  · -- the scanner knows double quotes only: other marks are plain characters to it
    have hplain : quotes ≠ ('"', '"') → ∀ c ∈ quotes.1 :: (spelled ++ [quotes.2]),
        Cursor.isPlain c = true ∧ c ≠ ',' := by
      intro hne c hc
      have hmarks : ∀ q ∈ quotePairs, q ≠ ('"', '"') →
          (Cursor.isPlain q.1 = true ∧ q.1 ≠ ',') ∧ (Cursor.isPlain q.2 = true ∧ q.2 ≠ ',') := by
        decide
      obtain ⟨hopening, hclosing⟩ := hmarks quotes hquotes hne
      rcases List.mem_cons.mp hc with rfl | hc
      · exact hopening
      rcases List.mem_append.mp hc with hc | hc
      · exact hinner _ hspelled c hc
      · obtain rfl := List.mem_singleton.mp hc
        exact hclosing
    -- a double-quoted name is a quoted span, and the name holds no such quote
    by_cases hdouble : quotes = ('"', '"')
    · subst hdouble
      refine .quoted (fun hmem => ?_) (fun hlast => ?_) .nil
      · exact absurd (hspelled.wordChars _ hmem) (by decide)
      · exact absurd (hspelled.wordChars _ (List.mem_of_getLast? hlast)) (by decide)
    · exact .of_plain (hplain hdouble)

theorem WritesName.isPiece (h : WritesName text name) : IsPiece text :=
  ⟨h.nested, h.isTrimmed, h.ne_nil⟩

/-- No clause starts with a written name. -/
theorem WritesName.opensNoClause (h : WritesName text name) (hrest : Starts isMark rest) :
    OpensNoClause (text ++ rest) := by
  obtain ⟨spelled, hspelled, _, rfl | ⟨quotes, hquotes, rfl⟩⟩ := h.exists_spelled
  · exact opensNoClause_of_word hspelled.wordChars hspelled.not_keyword hrest
  · exact opensNoClause_of_starts (starts_cons.mpr (quotePairs_isMark _ hquotes).1)

/-- The name at the start of a column definition is read. -/
theorem WritesName.columnName_append (h : WritesName text name) {space : List Char}
    (hspace : IsSpace space) :
    columnName (text ++ (space ++ rest)) = some (text, space ++ rest) := by
  obtain ⟨spelled, hspelled, _, rfl | ⟨quotes, hquotes, rfl⟩⟩ := h.exists_spelled
  · obtain ⟨c, cs, rfl, hstarts⟩ := hspelled.exists_cons
    refine columnName_plain hstarts (fun d hd => ?_) hspace rest
    rw [isPlainNameRest, hspelled.wordChars d (List.mem_cons_of_mem _ hd)]
    rfl
  · refine firstOf_of_some (anyQuotedName_append hquotes hspelled.ne_nil fun hmem => ?_)
    have hmark := (quotePairs_isMark _ hquotes).2.1
    rw [isMark, hspelled.wordChars _ hmem] at hmark
    exact absurd hmark (by decide)

end WritesName

/-! ### Names of tables -/

section WritesTableName

variable {path : List Char} {name : String}

theorem WritesTableName.exists_writesPath (h : WritesTableName path name) :
    ∃ spelled, WritesPath path spelled ∧ String.ofList (lower spelled) = name := by
  induction h with
  | last hname =>
    obtain ⟨spelled, hwrites, rfl⟩ := hname.exists_writes
    exact ⟨spelled, .last hwrites, rfl⟩
  | dotted hfirst hbefore hafter _ ih =>
    obtain ⟨_, hwrites, _⟩ := hfirst.exists_writes
    obtain ⟨spelled, htail, rfl⟩ := ih
    exact ⟨spelled, .dotted hwrites hbefore hafter htail, rfl⟩

theorem WritesTableName.freeOf (h : WritesTableName path name) {word : String}
    (hword : word ∈ keywords) : FreeOf word path := by
  induction h with
  | last hname => exact hname.freeOf hword
  | @dotted part before after tail first name hfirst hbefore hafter _ ih =>
    -- the dot is a mark, so a keyword lies before it or after it
    have hdot : isMark '.' = true := by decide
    have hfront : FreeOf word (part ++ before) := by
      refine (hfirst.freeOf hword).append (freeOf_of_blank hword hbefore) (.inr fun c hc => ?_)
      exact isMark_of_isBlank (hbefore c (List.mem_of_mem_head? hc))
    have hback : FreeOf word (after ++ tail) := (freeOf_of_blank hword hafter).append ih
      (.inl (ends_of_forall fun c hc => isMark_of_isBlank (hafter c hc)))
    rw [← List.append_assoc, freeOf_append_cons hdot]
    exact ⟨hfront, hback⟩

/-- No clause and no condition starts with the written name of a table. -/
theorem WritesTableName.opensNoClause (h : WritesTableName path name) (hrest : Starts isMark rest) :
    OpensNoClause (path ++ rest) := by
  cases h with
  | last hname => exact hname.opensNoClause hrest
  | dotted hfirst hbefore _ _ =>
    have hdot : isMark '.' = true := by decide
    rw [List.append_assoc, List.append_assoc]
    exact hfirst.opensNoClause
      (Starts.append (fun c hc => isMark_of_isBlank (hbefore c hc)) (starts_cons.mpr hdot))

theorem WritesTableName.nested (h : WritesTableName path name) : Nested false path := by
  induction h with
  | last hname => exact hname.nested
  | dotted hfirst hbefore hafter _ ih =>
    exact hfirst.nested.append ((Nested.of_blank hbefore).append
      (.plain (by decide) (by decide) ((Nested.of_blank hafter).append ih)))

end WritesTableName

/-! ### Lists of names -/

section List

variable {list : List Char} {names : List String}

theorem isList_of_separated (h : Separated WritesName list names) : IsList list :=
  ⟨h.ne_nil fun _ _ hname => hname.ne_nil,
    h.notMem (by decide) (by decide) fun _ _ hname => hname.closing_notMem⟩

/-- A written list of columns is read as their names. -/
theorem columnNameStrings_of_separated (h : Separated WritesName list names) :
    columnNameStrings list = names := by
  have hpieces := h.splitCommas fun _ _ hname => hname.isPiece
  rw [columnNameStrings, columnNames, List.map_map]
  generalize splitCommas list = pieces at hpieces
  clear h
  induction hpieces with
  | nil => rfl
  | cons hname _ ih =>
    obtain ⟨spelled, hwrites, rfl⟩ := hname.exists_writes
    rw [List.map_cons, ih, Function.comp_apply, normalName_of_writes hwrites]

/-- A keyword is no word of a written list of names. -/
theorem freeOf_of_separated (h : Separated WritesName list names) {word : String}
    (hword : word ∈ keywords) : FreeOf word list := by
  -- commas and blanks are marks: a keyword would lie inside one of the names
  have hcomma : isMark ',' = true := by decide
  have hgap : ∀ {gap : List Char}, AllBlank gap → ∀ c ∈ gap, isMark c = true :=
    fun hgap c hc => isMark_of_isBlank (hgap c hc)
  have hitem : ∀ {before text after : List Char} {name : String}, AllBlank before →
      WritesName text name → AllBlank after → FreeOf word (before ++ (text ++ after)) := by
    intro before text after name hbefore hname hafter
    exact (freeOf_of_blank hword hbefore).append ((hname.freeOf hword).append
      (freeOf_of_blank hword hafter) (.inr fun c hc => hgap hafter c (List.mem_of_mem_head? hc)))
      (.inl (ends_of_forall (hgap hbefore)))
  induction h with
  | last hbefore hname hafter => exact hitem hbefore hname hafter
  | @cons before text after rest name names hbefore hname hafter _ ih =>
    have hsplit : before ++ (text ++ (after ++ ',' :: rest)) =
        (before ++ (text ++ after)) ++ ',' :: rest := by simp only [List.append_assoc]
    rw [hsplit, freeOf_append_cons hcomma]
    exact ⟨hitem hbefore hname hafter, ih⟩

end List

end SchemaDraft.Script
