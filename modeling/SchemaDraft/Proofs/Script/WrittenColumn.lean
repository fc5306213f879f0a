import SchemaDraft.Proofs.Script.Identifier
import SchemaDraft.Proofs.Script.TypeSpelling

/-!
Column definitions, as they are written and as they are read. A column is an identifier, a type and
constraints in any order (`WritesColumn`); between them stand blanks, of which there may be none
after a closing parenthesis. However it is written it is read as the column it is
(`read_of_writesColumn`): no keyword stands in a name or in a type, so a phrase is found exactly if
its constraint was written.
-/

namespace SchemaDraft.Script

open Reader Text

variable {text rest : List Char}

/-! ### Phrases and references -/

/-- Is this text some keywords with blanks between them? -/
inductive WritesPhrase : List String → List Char → Prop
  | last {word : String} {text : List Char} : Spells word text → WritesPhrase [word] text
  | cons {word next : String} {words : List String} {text space rest : List Char} :
      Spells word text → IsSpace space → WritesPhrase (next :: words) rest →
      WritesPhrase (word :: next :: words) (text ++ (space ++ rest))

/-- Is this text a reference to some columns of a table? -/
inductive WritesReference : List Char → String → List String → Prop
  | intro {keyword space path gap list : List Char} {table : String} {columns : List String} :
      Spells "REFERENCES" keyword → IsSpace space → WritesTableName path table → AllBlank gap →
      Separated WritesName list columns →
      WritesReference (keyword ++ (space ++ (path ++ (gap ++ '(' :: (list ++ [')'])))))
        table columns

theorem Starts.of_append {p : Char → Bool} {before after : List Char}
    (h : Starts p (before ++ after)) : Starts p before := by
  cases before with
  | nil => exact starts_nil
  | cons c before => exact starts_cons.mpr (starts_cons.mp h)

theorem isInk_closing : isInk ')' = true := by decide

theorem isMark_opening : isMark '(' = true := by decide

theorem isMark_closing : isMark ')' = true := by decide

section WritesPhrase

variable {words : List String}

theorem WritesPhrase.starts (h : WritesPhrase words text)
    (hwords : ∀ word ∈ words, word ∈ keywords) : Starts isWordChar (text ++ rest) := by
  cases h with
  | last htext => exact htext.starts (hwords _ (by simp))
  | cons htext _ _ =>
    rw [List.append_assoc]
    exact htext.starts (hwords _ (by simp))

theorem WritesPhrase.ne_nil (h : WritesPhrase words text)
    (hwords : ∀ word ∈ words, word ∈ keywords) : text ≠ [] := by
  cases h with
  | last htext => exact (htext.wordChars (hwords _ (by simp))).1
  | cons htext _ _ => simp [(htext.wordChars (hwords _ (by simp))).1]

theorem starts_isInk_of_isWordChar {cs : List Char} (h : Starts isWordChar cs) : Starts isInk cs :=
  fun c hc => isInk_of_isWordChar (h c hc)

theorem WritesPhrase.exists_pair {first second : String} (h : WritesPhrase [first, second] text) :
    ∃ word space word', text = word ++ (space ++ word') ∧ Spells first word ∧ IsSpace space ∧
      Spells second word' := by
  cases h with
  | cons hword hspace hrest =>
    cases hrest with
    | last hword' => exact ⟨_, _, _, rfl, hword, hspace, hword'⟩

/-- A written phrase is read. -/
theorem WritesPhrase.phrase_append (h : WritesPhrase words text)
    (hwords : ∀ word ∈ words, word ∈ keywords) : phrase words (text ++ rest) = some ((), rest) := by
  induction h with
  | last htext => exact phrase_singleton htext
  | cons htext hspace hrest ih =>
    have htail := fun word hword => hwords word (List.mem_cons_of_mem _ hword)
    have hink : Starts isInk (_ ++ rest) := starts_isInk_of_isWordChar (hrest.starts htail)
    rw [List.append_assoc, List.append_assoc, phrase_cons htext hspace hink]
    exact ih htail

/-- No other keyword is a word of a written phrase. -/
theorem WritesPhrase.freeOf (h : WritesPhrase words text) (hwords : ∀ word ∈ words, word ∈ keywords)
    {word : String} (hword : word ∈ keywords) (hnot : word ∉ words) : FreeOf word text := by
  induction h with
  | last htext =>
    exact htext.freeOf (hwords _ (by simp)) hword fun heq => hnot (by simp [heq])
  | @cons first next words text space rest htext hspace _ ih =>
    have hfirst : FreeOf word text :=
      htext.freeOf (hwords _ (by simp)) hword fun heq => hnot (by simp [heq])
    have hrest := ih (fun w hw => hwords w (List.mem_cons_of_mem _ hw))
      fun hmem => hnot (List.mem_cons_of_mem _ hmem)
    have hmarks : ∀ c ∈ space, isMark c = true := fun c hc => isMark_of_isBlank (hspace.blank c hc)
    have hback : FreeOf word (space ++ rest) :=
      (freeOf_of_blank hword hspace.blank).append hrest (.inl (ends_of_forall hmarks))
    exact hfirst.append hback (.inr hspace.starts_isMark)

/-- A written phrase ends in a letter. -/
theorem WritesPhrase.ends (h : WritesPhrase words text) (hwords : ∀ word ∈ words, word ∈ keywords) :
    Ends isInk text := by
  induction h with
  | last htext =>
    exact ends_of_forall fun c hc =>
      isInk_of_isWordChar ((htext.wordChars (hwords _ (by simp))).2 c hc)
  | cons _ _ hrest ih =>
    have htail := fun word hword => hwords word (List.mem_cons_of_mem _ hword)
    rw [← List.append_assoc]
    exact ends_append_of_ne_nil (hrest.ne_nil htail) (ih htail)

theorem WritesPhrase.nested (h : WritesPhrase words text)
    (hwords : ∀ word ∈ words, word ∈ keywords) : Nested false text := by
  have hspelled : ∀ {word : String} {text : List Char}, Spells word text → word ∈ keywords →
      Nested false text :=
    fun htext hword => .of_plain fun c hc => plain_of_isWordChar ((htext.wordChars hword).2 c hc)
  induction h with
  | last htext => exact hspelled htext (hwords _ (by simp))
  | cons htext hspace _ ih =>
    exact (hspelled htext (hwords _ (by simp))).append ((Nested.of_blank hspace.blank).append
      (ih fun word hword => hwords word (List.mem_cons_of_mem _ hword)))

end WritesPhrase

section WritesReference

variable {table : String} {columns : List String}

/-- A list in parentheses with blanks before it is nested. -/
theorem nested_list {gap list : List Char} (hgap : AllBlank gap)
    (hlist : Separated WritesName list columns) : Nested false (gap ++ '(' :: (list ++ [')'])) :=
  (Nested.of_blank hgap).append (.group (hlist.nested fun _ _ hname => hname.isPiece) .nil)

theorem starts_isMark_list {gap : List Char} (hgap : AllBlank gap) :
    Starts isMark (gap ++ '(' :: rest) :=
  Starts.append (fun c hc => isMark_of_isBlank (hgap c hc)) (starts_cons.mpr isMark_opening)

/-- A keyword is no word of a list in parentheses. -/
theorem freeOf_list {gap list : List Char} (hgap : AllBlank gap)
    (hlist : Separated WritesName list columns) {word : String} (hword : word ∈ keywords) :
    FreeOf word (gap ++ '(' :: (list ++ [')'])) := by
  rw [freeOf_append_cons isMark_opening, freeOf_append_cons isMark_closing]
  exact ⟨freeOf_of_blank hword hgap, freeOf_of_separated hlist hword, freeOf_nil hword⟩

theorem ends_list {p : Char → Bool} (hp : p ')' = true) (front gap list : List Char) :
    Ends p (front ++ (gap ++ '(' :: (list ++ [')']))) := by
  intro c hc
  have hlast : (front ++ (gap ++ '(' :: (list ++ [')']))).getLast? = some ')' := by
    rw [List.getLast?_append, List.getLast?_append, ← List.cons_append, List.getLast?_append]
    rfl
  rw [hlast] at hc
  obtain rfl := Option.some.inj hc
  exact hp

theorem WritesReference.starts (h : WritesReference text table columns) :
    Starts isWordChar (text ++ rest) := by
  obtain ⟨hkeyword, _, _, _, _⟩ := h
  rw [List.append_assoc]
  exact hkeyword.starts (by decide)

theorem WritesReference.ne_nil (h : WritesReference text table columns) : text ≠ [] := by
  obtain ⟨_, _, _, _, _⟩ := h
  simp

theorem WritesReference.ends {p : Char → Bool} (h : WritesReference text table columns)
    (hp : p ')' = true) : Ends p text := by
  cases h with
  | @intro keyword space path gap list _ _ _ _ _ _ _ =>
    have hends := ends_list hp (keyword ++ (space ++ path)) gap list
    simpa only [List.append_assoc] using hends

/-- A written reference is read with its table and its columns. -/
theorem WritesReference.read (h : WritesReference text table columns) :
    ∃ reference, (∀ rest, references (text ++ rest) = some (reference, rest)) ∧
      ∀ fromTable fromColumns, reference.key fromTable fromColumns =
        ForeignKey.ofColumns fromTable fromColumns table columns := by
  cases h with
  | @intro keyword space path gap list _ _ hkeyword hspace hpath hgap hlist =>
    obtain ⟨target, hwrites, htable⟩ := hpath.exists_writesPath
    refine ⟨⟨path, list⟩, fun rest => ?_, fun fromTable fromColumns => ?_⟩
    · have hread : references _ = some (_, rest) :=
        references_append hkeyword hspace hwrites hgap (isList_of_separated hlist)
      simpa only [List.append_assoc, List.cons_append, List.nil_append] using hread
    · rw [Reference.key, normalTableName_of_writesPath hwrites, htable,
        columnNameStrings_of_separated hlist]

theorem WritesReference.freeOf (h : WritesReference text table columns) {word : String}
    (hword : word ∈ keywords) (hne : word ≠ "REFERENCES") : FreeOf word text := by
  cases h with
  | @intro keyword space path gap list _ _ hkeyword hspace hpath hgap hlist =>
    have hmarks : ∀ c ∈ space, isMark c = true := fun c hc => isMark_of_isBlank (hspace.blank c hc)
    have hpart : FreeOf word (path ++ (gap ++ '(' :: (list ++ [')']))) :=
      (hpath.freeOf hword).append (freeOf_list hgap hlist hword) (.inr (starts_isMark_list hgap))
    have hback : FreeOf word (space ++ (path ++ (gap ++ '(' :: (list ++ [')'])))) :=
      (freeOf_of_blank hword hspace.blank).append hpart (.inl (ends_of_forall hmarks))
    exact (hkeyword.freeOf (by decide) hword hne).append hback (.inr hspace.starts_isMark)

theorem WritesReference.nested (h : WritesReference text table columns) : Nested false text := by
  obtain ⟨hkeyword, hspace, hpath, hgap, hlist⟩ := h
  have hword : Nested false _ := (WritesPhrase.last hkeyword).nested (by decide)
  exact hword.append ((Nested.of_blank hspace.blank).append
    (hpath.nested.append (nested_list hgap hlist)))

end WritesReference

/-! ### Constraints -/

/-- A flag that a column may raise. -/
inductive Flag where
  | primaryKey
  | notNull
  | unique
  deriving Repr, DecidableEq

/-- The keywords of a flag. -/
def Flag.words : Flag → List String
  | primaryKey => ["PRIMARY", "KEY"]
  | notNull => ["NOT", "NULL"]
  | unique => ["UNIQUE"]

/-- What a column may say after its type. -/
inductive Constraint where
  | flag (raised : Flag)
  | reference (table column : String)
  deriving Repr, DecidableEq

namespace Constraint

/-- The keywords of a constraint. -/
def words : Constraint → List String
  | flag raised => raised.words
  | reference _ _ => ["REFERENCES"]

/-- Does a constraint end in a parenthesis? -/
def isClosed : Constraint → Bool
  | flag _ => false
  | reference _ _ => true

/-- The table and the column that a constraint refers to. -/
def target? : Constraint → Option (String × String)
  | flag _ => none
  | reference table column => some (table, column)

theorem words_keywords (c : Constraint) : ∀ word ∈ c.words, word ∈ keywords := by
  cases c with
  | flag raised => cases raised <;> decide
  | reference table column => simp [words, keywords]

theorem words_mem_typeEnds (c : Constraint) : c.words ∈ typeEnds := by
  cases c with
  | flag raised => cases raised <;> simp [words, Flag.words, typeEnds]
  | reference table column => simp [words, typeEnds]

end Constraint

/-- Is this text a way to write a constraint? -/
inductive WritesConstraint : List Char → Constraint → Prop
  | flag {text : List Char} {raised : Flag} : WritesPhrase raised.words text →
      WritesConstraint text (.flag raised)
  | reference {text : List Char} {table column : String} : WritesReference text table [column] →
      WritesConstraint text (.reference table column)

/-- Is this text a way to write some constraints? Blanks stand before each of them; there may be
none after a closing parenthesis, which the flag tells of. -/
inductive WritesConstraints : Bool → List Char → List Constraint → Prop
  | nil {closed : Bool} : WritesConstraints closed [] []
  | cons {closed : Bool} {gap text rest : List Char} {c : Constraint} {cs : List Constraint} :
      AllBlank gap → (closed = false → gap ≠ []) → WritesConstraint text c →
      WritesConstraints c.isClosed rest cs →
        WritesConstraints closed (gap ++ (text ++ rest)) (c :: cs)

section WritesConstraint

variable {c : Constraint}

theorem WritesConstraint.starts (h : WritesConstraint text c) :
    Starts isWordChar (text ++ rest) := by
  cases h with
  | @flag raised hphrase => exact hphrase.starts (Constraint.flag raised).words_keywords
  | reference hreference => exact hreference.starts

theorem WritesConstraint.ne_nil (h : WritesConstraint text c) : text ≠ [] := by
  cases h with
  | @flag raised hphrase => exact hphrase.ne_nil (Constraint.flag raised).words_keywords
  | reference hreference => exact hreference.ne_nil

theorem WritesConstraint.ends_isInk (h : WritesConstraint text c) : Ends isInk text := by
  cases h with
  | @flag raised hphrase => exact hphrase.ends (Constraint.flag raised).words_keywords
  | reference hreference => exact hreference.ends isInk_closing

theorem WritesConstraint.ends_isMark (h : WritesConstraint text c) (hclosed : c.isClosed = true) :
    Ends isMark text := by
  cases h with
  | flag _ => exact absurd hclosed (by simp [Constraint.isClosed])
  | reference hreference => exact hreference.ends isMark_closing

theorem WritesConstraint.freeOf (h : WritesConstraint text c) {word : String}
    (hword : word ∈ keywords) (hnot : word ∉ c.words) : FreeOf word text := by
  cases h with
  | @flag raised hphrase => exact hphrase.freeOf (Constraint.flag raised).words_keywords hword hnot
  | reference hreference =>
    exact hreference.freeOf hword fun heq => hnot (by simp [Constraint.words, heq])

theorem WritesConstraint.nested (h : WritesConstraint text c) : Nested false text := by
  cases h with
  | @flag raised hphrase => exact hphrase.nested (Constraint.flag raised).words_keywords
  | reference hreference => exact hreference.nested

/-- The phrase of a written constraint is read. -/
theorem WritesConstraint.wholePhrase (h : WritesConstraint text c)
    (hrest : c.isClosed = false → Starts isMark rest) :
    ∃ left, wholePhrase c.words (text ++ rest) = some ((), left) := by
  cases h with
  | @flag raised hphrase =>
    refine ⟨rest, ?_⟩
    have hread : phrase raised.words (text ++ rest) = some ((), rest) :=
      hphrase.phrase_append (Constraint.flag raised).words_keywords
    exact (bind_of_eq hread _).trans (wordEnd_of_starts (hrest rfl))
  | reference hreference =>
    cases hreference with
    | @intro keyword space path gap list _ _ hkeyword hspace _ _ _ =>
      refine ⟨space ++ (path ++ (gap ++ '(' :: (list ++ [')'])) ++ rest), ?_⟩
      rw [List.append_assoc, List.append_assoc]
      exact (bind_of_eq (phrase_singleton hkeyword) _).trans
        (wordEnd_of_starts hspace.starts_isMark)

end WritesConstraint

section WritesConstraints

variable {closed : Bool} {cs : List Constraint}

theorem WritesConstraints.starts (h : WritesConstraints closed text cs) (hclosed : closed = false) :
    Starts isMark text := by
  cases h with
  | nil => exact starts_nil
  | cons hgap hne _ _ => exact IsSpace.starts_isMark ⟨hne hclosed, hgap⟩

/-- A constraint ends in a parenthesis, or a blank comes after it. -/
theorem WritesConstraint.seam {c : Constraint} (h : WritesConstraint text c)
    (hrest : WritesConstraints c.isClosed rest cs) : Ends isMark text ∨ Starts isMark rest := by
  cases hclosed : c.isClosed with
  | true => exact .inl (h.ends_isMark hclosed)
  | false => exact .inr (hrest.starts hclosed)

theorem WritesConstraints.freeOf (h : WritesConstraints closed text cs) {word : String}
    (hword : word ∈ keywords) (hnot : ∀ c ∈ cs, word ∉ c.words) : FreeOf word text := by
  induction h with
  | nil => exact freeOf_nil hword
  | cons hgap _ htext hrest ih =>
    have hback := (htext.freeOf hword (hnot _ (by simp))).append
      (ih fun c hc => hnot c (List.mem_cons_of_mem _ hc)) (htext.seam hrest)
    exact (freeOf_of_blank hword hgap).append hback
      (.inl (ends_of_forall fun c hc => isMark_of_isBlank (hgap c hc)))

theorem WritesConstraints.ends (h : WritesConstraints closed text cs) {front : List Char}
    (hfront : Ends isInk front) : Ends isInk (front ++ text) := by
  induction h generalizing front with
  | nil => rwa [List.append_nil]
  | @cons closed gap text rest c cs _ _ htext _ ih =>
    have hhere : Ends isInk (front ++ gap ++ text) :=
      ends_append_of_ne_nil htext.ne_nil htext.ends_isInk
    simpa only [List.append_assoc] using ih hhere

theorem WritesConstraints.nested (h : WritesConstraints closed text cs) : Nested false text := by
  induction h with
  | nil => exact .nil
  | cons hgap _ htext _ ih => exact (Nested.of_blank hgap).append (htext.nested.append ih)

/-- A constraint stands as whole words, and no word before it is of another kind than the
constraints there. -/
theorem WritesConstraints.split {before after : List Constraint} {c : Constraint}
    (h : WritesConstraints closed text (before ++ c :: after)) {front : List Char}
    (hfront : closed = true → Ends isMark front) :
    ∃ lead here rest, text = lead ++ (here ++ rest) ∧ WritesConstraint here c ∧
      Ends isMark (front ++ lead) ∧ (c.isClosed = false → Starts isMark rest) ∧
      ∀ word ∈ keywords, (∀ d ∈ before, word ∉ d.words) → FreeOf word lead := by
  induction before generalizing closed text front with
  | nil =>
    cases h with
    | @cons _ gap here rest _ _ hgap hne hhere hrest =>
      refine ⟨gap, here, rest, rfl, hhere, ?_, hrest.starts,
        fun word hword _ => freeOf_of_blank hword hgap⟩
      by_cases hempty : gap = []
      · cases closed with
        | true => rw [hempty, List.append_nil]; exact hfront rfl
        | false => exact absurd hempty (hne rfl)
      · exact ends_append_of_ne_nil hempty
          (ends_of_forall fun d hd => isMark_of_isBlank (hgap d hd))
  | cons d before ih =>
    cases h with
    | @cons _ gap written rest _ _ hgap _ hwritten hrest =>
      have hseam := hwritten.seam hrest
      obtain ⟨lead, here, rest', rfl, hhere, hends, hstarts, hfree⟩ := ih hrest hwritten.ends_isMark
      refine ⟨gap ++ (written ++ lead), here, rest', by simp only [List.append_assoc], hhere,
        ?_, hstarts, fun word hword hnot => ?_⟩
      · rw [← List.append_assoc]
        exact ends_append_of_ne_nil (by simp [hwritten.ne_nil]) hends
      · have hback := (hwritten.freeOf hword (hnot d (by simp))).append
          (hfree word hword fun e he => hnot e (List.mem_cons_of_mem _ he))
          (hseam.imp_right Starts.of_append)
        exact (freeOf_of_blank hword hgap).append hback
          (.inl (ends_of_forall fun e he => isMark_of_isBlank (hgap e he)))

end WritesConstraints

/-! ### Types -/

/-- Is this a type: a text that closes its parentheses and has none of the words that end a type? -/
structure IsTypeText (type : List Char) : Prop where
  ne_nil : type ≠ []
  trimmed : IsTrimmed type
  nested : Nested false type
  free : ∀ word ∈ typeEndWords, FreeOf word type

/-- Does a text end in a parenthesis, so that no blank is needed after it? -/
def endsClosed (cs : List Char) : Bool := cs.getLast? == some ')'

/-- A text that closes its parentheses and ends in one has one that opens. -/
theorem Nested.opening_mem {commas : Bool} (h : Nested commas text)
    (hlast : text.getLast? = some ')') : '(' ∈ text := by
  -- any other last character leaves the closing parenthesis to the rest
  have hrest : ∀ (front : List Char) {rest : List Char} {c : Char}, c ≠ ')' →
      (front ++ c :: rest).getLast? = some ')' → rest.getLast? = some ')' := by
    intro front rest c hc hlast
    rw [List.getLast?_append] at hlast
    cases rest with
    | nil => exact absurd (Option.some.inj hlast) hc
    | cons d rest => rwa [List.getLast?_cons_cons] at hlast
  induction h with
  | nil => exact absurd hlast (by simp)
  | @plain _ c _ hc _ _ ih =>
    have hne : c ≠ ')' := by
      rintro rfl
      exact absurd hc (by decide)
    exact List.mem_cons_of_mem _ (ih (hrest [] hne hlast))
  | @quoted _ inner _ _ _ _ ih =>
    have hmem := ih (hrest ('"' :: inner) (by decide) hlast)
    simp [hmem]
  | group _ _ _ _ => simp

section Types

variable {type tail : List Char} {cs : List Constraint}

theorem ends_of_endsClosed (h : endsClosed type = true) : Ends isMark type := by
  intro c hc
  rw [endsClosed, beq_iff_eq] at h
  rw [h] at hc
  obtain rfl := Option.some.inj hc
  exact isMark_closing

theorem IsTypeText.ends (h : IsTypeText type) : Ends isInk type := by
  intro c hc
  rw [isInk, h.trimmed.2 c hc]
  rfl

theorem IsTypeText.starts (h : IsTypeText type) : Starts isInk (type ++ tail) := by
  obtain ⟨c, type', rfl⟩ := List.exists_cons_of_ne_nil h.ne_nil
  refine starts_cons.mpr ?_
  rw [isInk, h.trimmed.1 c (by simp)]
  rfl

/-- A type ends in a parenthesis, or a blank comes after it. -/
theorem WritesConstraints.seam (htail : WritesConstraints (endsClosed type) tail cs) :
    Ends isMark type ∨ Starts isMark tail := by
  cases hclosed : endsClosed type with
  | true => exact .inl (ends_of_endsClosed hclosed)
  | false => exact .inr (htail.starts hclosed)

/-- The type that is read is the written one, or differs from it only after a parenthesis. -/
theorem ofText_typeText (htype : IsTypeText type)
    (htail : WritesConstraints (endsClosed type) tail cs) :
    ColumnType.ofText (typeText (type ++ tail)) = ColumnType.ofText type := by
  cases htail with
  | nil =>
    rw [typeText_append htype.free htype.ends (.inr starts_nil), typeText_nil, List.append_nil]
  | @cons _ gap text rest c _ hgap hne htext hrest =>
    by_cases hempty : gap = []
    · -- without a gap the type ends in a parenthesis, and its arguments do not count
      have hclosed : endsClosed type = true := by
        by_contra hopen
        exact hne (by simpa using hopen) hempty
      obtain ⟨before, after, rfl⟩ :=
        List.append_of_mem (htype.nested.opening_mem (beq_iff_eq.mp hclosed))
      rw [typeText_append htype.free htype.ends (.inl (ends_of_endsClosed hclosed)),
        List.append_assoc, List.cons_append, ColumnType.ofText_append_mark (by decide),
        ColumnType.ofText_append_mark (by decide)]
    · have hink : Starts isInk (text ++ rest) := starts_isInk_of_isWordChar htext.starts
      obtain ⟨left, hphrase⟩ := htext.wholePhrase hrest.starts
      obtain ⟨_, left', hread⟩ := exists_firstOf (List.mem_map_of_mem c.words_mem_typeEnds) hphrase
      have hend : typeEnd (gap ++ (text ++ rest)) = some ((), left') :=
        (bind_of_eq (blanks_append ⟨hempty, hgap⟩ hink) _).trans hread
      rw [typeText_append htype.free htype.ends (.inr (IsSpace.starts_isMark ⟨hempty, hgap⟩)),
        typeText_of_typeEnd hend, List.append_nil]

end Types

/-! ### Columns -/

/-- A column as it is meant: its name, its type and what it says after that. -/
structure ColumnDraft where
  name : String
  type : List Char
  constraints : List Constraint
  deriving Repr, DecidableEq

namespace ColumnDraft

/-- Does a column raise a flag? -/
def raises (c : ColumnDraft) (f : Flag) : Bool := c.constraints.contains (.flag f)

/-- The first table and column that a column refers to. -/
def target? (c : ColumnDraft) : Option (String × String) :=
  c.constraints.findSome? Constraint.target?

/-- The column that is meant, with the flags that it raises itself. -/
def spec (c : ColumnDraft) : ColumnSpec :=
  .make c.name (ColumnType.ofText c.type).name (c.raises .primaryKey) (c.raises .notNull)
    (c.raises .unique)

/-- The foreign key of a column in a table. -/
def key? (table : String) (c : ColumnDraft) : Option ForeignKey :=
  c.target?.map fun target => ⟨table, c.name, target.1, target.2⟩

end ColumnDraft

/-- Is this text a way to write a column? -/
inductive WritesColumn : List Char → ColumnDraft → Prop
  | intro {text space type tail : List Char} {name : String} {constraints : List Constraint} :
      WritesName text name → IsSpace space → IsTypeText type →
      WritesConstraints (endsClosed type) tail constraints →
      WritesColumn (text ++ (space ++ (type ++ tail))) ⟨name, type, constraints⟩

section Columns

variable {text type tail : List Char} {cs : List Constraint}

theorem freeOf_remainder (htype : IsTypeText type)
    (htail : WritesConstraints (endsClosed type) tail cs) {word : String}
    (hword : word ∈ typeEndWords) (hnot : ∀ c ∈ cs, word ∉ c.words) : FreeOf word (type ++ tail) :=
  (htype.free word hword).append (htail.freeOf (typeEndWords_keywords word hword) hnot) htail.seam

/-- The first keyword of a flag ends types and belongs to no other constraint. -/
theorem Flag.exists_words (f : Flag) : ∃ word more, f.words = word :: more ∧ word ∈ typeEndWords ∧
    ∀ c : Constraint, c ≠ .flag f → word ∉ c.words := by
  have hflags : ∀ g : Flag, g ≠ f → ∀ word ∈ f.words.head?, word ∉ g.words := by
    intro g hne
    cases f <;> cases g <;> first | exact absurd rfl hne | decide
  have hreferences : ∀ word ∈ f.words.head?, word ∈ typeEndWords ∧ word ≠ "REFERENCES" := by
    cases f <;> decide
  obtain ⟨word, more, hwords⟩ : ∃ word more, f.words = word :: more := by
    cases f <;> exact ⟨_, _, rfl⟩
  rw [hwords, List.head?_cons] at hflags hreferences
  obtain ⟨hword, hne⟩ := hreferences word rfl
  refine ⟨word, more, hwords, hword, fun c hc => ?_⟩
  cases c with
  | flag g => exact hflags g (fun heq => hc (by rw [heq])) word rfl
  | reference table column => simpa [Constraint.words] using hne

/-- The phrase of a flag is found in a column exactly if the column raises the flag. -/
theorem hasPhrase_remainder (htype : IsTypeText type)
    (htail : WritesConstraints (endsClosed type) tail cs) (f : Flag) :
    hasPhrase f.words (type ++ tail) = cs.contains (.flag f) := by
  by_cases hmem : Constraint.flag f ∈ cs
  · obtain ⟨before, after, rfl⟩ := List.append_of_mem hmem
    obtain ⟨lead, here, rest, rfl, hhere, hends, hstarts, _⟩ := htail.split ends_of_endsClosed
    obtain ⟨left, hread⟩ := hhere.wholePhrase hstarts
    rw [List.contains_iff_mem.mpr hmem, ← List.append_assoc]
    exact hasPhrase_eq_true hends hread
  · obtain ⟨word, more, hwords, hword, hother⟩ := f.exists_words
    have hfree := freeOf_remainder htype htail hword fun c hc =>
      hother c fun heq => hmem (heq ▸ hc)
    rw [hwords, hasPhrase_eq_false (typeEndWords_keywords word hword) hfree]
    exact (by simpa using hmem : cs.contains (.flag f) = false).symm

variable {c : ColumnDraft}

theorem WritesColumn.isPiece (h : WritesColumn text c) : IsPiece text := by
  cases h with
  | @intro written space type tail name constraints hname hspace htype htail =>
    refine ⟨?_, ⟨fun d hd => ?_, fun d hd => ?_⟩, by simp [hname.ne_nil]⟩
    · exact hname.nested.append ((Nested.of_blank hspace.blank).append
        (htype.nested.append htail.nested))
    · obtain ⟨_, hwrites, _⟩ := hname.exists_writes
      simpa [isInk] using hwrites.starts d hd
    · have hne : type ++ tail ≠ [] := List.append_ne_nil_of_left_ne_nil htype.ne_nil tail
      have hends : Ends isInk (written ++ space ++ (type ++ tail)) :=
        ends_append_of_ne_nil hne (htail.ends htype.ends)
      rw [List.append_assoc] at hends
      simpa [isInk] using hends d hd

theorem Constraint.references_notMem {d : Constraint} (h : d.target? = none) :
    "REFERENCES" ∉ d.words := by
  cases d with
  | flag f => cases f <;> decide
  | reference table column => exact absurd h (by simp [target?])

/-- The first reference of a written column is found, and no other. -/
theorem WritesColumn.references (h : WritesColumn text c) (table : String) :
    ((searchWord references text).map fun found => found.value.key table [c.name]) =
      (c.key? table).map Except.ok := by
  cases h with
  | @intro written space type tail name constraints hname hspace htype htail =>
    have hword : "REFERENCES" ∈ keywords := by decide
    have hmarks : ∀ d ∈ space, isMark d = true := fun d hd => isMark_of_isBlank (hspace.blank d hd)
    have hfront : ∀ cs, FreeOf "REFERENCES" cs → FreeOf "REFERENCES" (written ++ (space ++ cs)) :=
      fun cs hcs => (hname.freeOf hword).append
        ((freeOf_of_blank hword hspace.blank).append hcs (.inl (ends_of_forall hmarks)))
        (.inr hspace.starts_isMark)
    simp only [ColumnDraft.key?, ColumnDraft.target?]
    cases htarget : constraints.findSome? Constraint.target? with
    | none =>
      have hfree : FreeOf "REFERENCES" (type ++ tail) :=
        freeOf_remainder htype htail (by decide) fun d hd =>
          Constraint.references_notMem (List.findSome?_eq_none_iff.mp htarget d hd)
      rw [searchWord_eq_none opensWith_references hword (hfront _ hfree)]
      rfl
    | some target =>
      obtain ⟨before, d, after, rfl, hd, hbefore⟩ := List.findSome?_eq_some_iff.mp htarget
      have hseam := htail.seam
      obtain ⟨lead, here, rest, rfl, hhere, hends, _, hlead⟩ := htail.split ends_of_endsClosed
      have hfree := hfront _ ((htype.free _ (by decide)).append
        (hlead _ hword fun e he => Constraint.references_notMem (hbefore e he))
        (hseam.imp_right Starts.of_append))
      have hends' : Ends isMark (written ++ (space ++ (type ++ lead))) := by
        rw [← List.append_assoc]
        exact ends_append_of_ne_nil (List.append_ne_nil_of_left_ne_nil htype.ne_nil lead) hends
      cases hhere with
      | flag _ => exact absurd hd (by simp [Constraint.target?])
      | reference hreference =>
        obtain rfl := Option.some.inj hd
        obtain ⟨reference, hread, hkey⟩ := hreference.read
        have hfound := searchWord_append opensWith_references hword hfree hends' (hread rest)
        simp only [List.append_assoc] at hfound
        rw [hfound, Option.map_some, Option.map_some, hkey]
        rfl

/-- A written column is read as the column it is. -/
theorem read_of_writesColumn (h : WritesColumn text c) (table : String) :
    Clause.read table text = .column c.spec ((c.key? table).map Except.ok) := by
  have hreferences := h.references table
  have htrimmed := h.isPiece.trimmed
  cases h with
  | @intro written space type tail name constraints hname hspace htype htail =>
    have hne : type ++ tail ≠ [] := List.append_ne_nil_of_left_ne_nil htype.ne_nil tail
    have hparts :=
      columnParts_append (hname.columnName_append hspace) hspace hne htype.starts htrimmed
    have hspec : readColumn (written ++ (space ++ (type ++ tail))) =
        some (ColumnDraft.spec ⟨name, type, constraints⟩) := by
      obtain ⟨spelled, hwrites, hspelled⟩ := hname.exists_writes
      simp only [readColumn, hparts, Option.map_some, normalName_of_writes hwrites, hspelled,
        ofText_typeText htype htail, ColumnDraft.spec, ColumnDraft.raises,
        ← hasPhrase_remainder htype htail, Flag.words]
    rw [read_of_opensNoClause table (hname.opensNoClause hspace.starts_isMark), ← hreferences]
    simp only [Clause.readColumnLine, hspec]
    rfl

end Columns

end SchemaDraft.Script
