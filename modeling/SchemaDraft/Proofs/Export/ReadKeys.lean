import SchemaDraft.Proofs.Export.Statements
import SchemaDraft.Proofs.Script.WrittenKey
import SchemaDraft.Proofs.Script.WrittenTable

/-!
The statement of a foreign key, read back. It creates no table, although the names in it may hold
any words: `CREATE TABLE` needs a name right before a parenthesis, and what stands before the two
parentheses of the statement are `KEY` after `FOREIGN` and a name after `REFERENCES`
(`readTable_keyText`). If no name holds a double quote and the columns hold no closing parenthesis,
the key is read as it was (`readForeignKey_keyText`).
-/

namespace SchemaDraft.Export

open Text Script Reader

variable {before cs : List Char}

/-! ### Names before a parenthesis -/

/-- There are no blanks at the end of a text that ends in something else. -/
theorem eq_nil_of_getLast? {front gap : List Char} {c : Char}
    (hlast : (front ++ gap).getLast? = some c)
    (hink : isBlank c = false) (hgap : AllBlank gap) : gap = [] := by
  by_contra hne
  obtain ⟨more, d, rfl⟩ := (List.eq_nil_or_concat' gap).resolve_left hne
  rw [← List.append_assoc, List.getLast?_append] at hlast
  obtain rfl : d = c := by simpa using hlast
  exact absurd (hgap d (by simp)) (by simp [hink])

theorem not_opensName_of_last {c : Char} (hlast : cs.getLast? = some c) (hink : isBlank c = false)
    (hdot : c ≠ '.') : ¬OpensName cs := by
  rintro ⟨opening, blanks, rfl, hblanks, hopening⟩
  have hempty : blanks = [] := eq_nil_of_getLast? hlast hink hblanks
  rcases hopening with hopening | ⟨hne, _⟩
  · rw [hempty, List.append_nil, hopening] at hlast
    exact hdot (Option.some.inj hlast).symm
  · exact hne hempty

/-- Is this a word after which no name of a created table stands? -/
structure IsInert (word : List Char) : Prop where
  last : ∃ c, word.getLast? = some c ∧ isBlank c = false ∧ c ≠ '.'
  apart : ∀ keyword ∈ ["TABLE", "EXISTS"], keyword.toList.length ≤ word.length ∧
    ¬Spells keyword (word.drop (word.length - keyword.toList.length))

theorem not_opensName_of_inert {word : List Char} (h : IsInert word) :
    ¬OpensName (before ++ (word ++ [' '])) := by
  obtain ⟨c, hlast, hink, hdot⟩ := h.last
  rintro ⟨opening, blanks, hsplit, hblanks, hopening⟩
  rw [← List.append_assoc] at hsplit
  by_cases hempty : blanks = []
  · rcases hopening with hopening | ⟨hne, _⟩
    · rw [hempty, List.append_nil] at hsplit
      rw [← hsplit, List.getLast?_append] at hopening
      exact absurd hopening (by simp)
    · exact hne hempty
  · obtain ⟨start, d, rfl⟩ := (List.eq_nil_or_concat' _).resolve_left hempty
    rw [← List.append_assoc] at hsplit
    obtain ⟨hfront, _⟩ := List.append_inj' hsplit rfl
    have hend : (opening ++ start).getLast? = some c := by
      rw [← hfront, List.getLast?_append, hlast]
      rfl
    have hstart : start = [] :=
      eq_nil_of_getLast? hend hink fun d hd => hblanks d (List.mem_append_left _ hd)
    rw [hstart, List.append_nil] at hfront
    rcases hopening with hopening | ⟨_, keyword, hkeyword, text, htext, hspells⟩
    · rw [← hfront, List.getLast?_append, hlast] at hopening
      exact hdot (by simpa using hopening)
    · obtain ⟨hlength, hapart⟩ := h.apart keyword hkeyword
      have htextLength : text.length = keyword.toList.length :=
        (List.Forall₂.length_eq hspells).symm
      rw [← hfront] at htext
      -- a keyword that ends there is as long as the end of the word, which is no keyword
      have hsuffix : text <:+ word :=
        List.suffix_of_suffix_length_le htext (List.suffix_append before word) (by omega)
      rw [List.suffix_iff_eq_drop, htextLength] at hsuffix
      rw [hsuffix] at hspells
      exact hapart hspells

/-- A written name ends in no blank. -/
theorem exists_last_of_writes {part name : List Char} (h : Writes part name) :
    ∃ start c, part = start ++ [c] ∧ isBlank c = false ∧
      (isBare c = true ∧ (∀ d ∈ part, isBare d = true) ∨
        ∃ opening, (opening, c) ∈ quotePairs ∧ part = opening :: (name ++ [c]) ∧ c ∉ name) := by
  cases h with
  | bare hne hbare =>
    obtain ⟨start, c, rfl⟩ := (List.eq_nil_or_concat' _).resolve_left hne
    have hc := hbare c (by simp)
    exact ⟨start, c, rfl, by simpa [isInk] using isInk_of_isBare hc, .inl ⟨hc, hbare⟩⟩
  | @quoted opening closing name hquotes hne hnot =>
    have hink := (quotePairs_isInk _ hquotes).2.1
    exact ⟨opening :: name, closing, by simp, by simpa [isInk] using hink,
      .inr ⟨opening, hquotes, rfl, hnot⟩⟩

/-- Before one blank, a name ends where the text does. -/
theorem endsInName_space {c : Char} (hlast : cs.getLast? = some c) (hink : isBlank c = false)
    (h : EndsInName (cs ++ [' '])) :
    ∃ lead part name, cs = lead ++ part ∧ OpensName lead ∧ Writes part name := by
  obtain ⟨lead, part, name, gap, hsplit, hopens, hpart, hgap⟩ := h
  obtain ⟨start, d, rfl, hd, _⟩ := exists_last_of_writes hpart
  by_cases hempty : gap = []
  · rw [hempty, List.append_nil, ← List.append_assoc] at hsplit
    obtain ⟨_, hspace⟩ := List.append_inj' hsplit rfl
    obtain rfl : ' ' = d := by simpa using hspace
    exact absurd hd (by decide)
  · -- the blank is all of the gap, since ink comes before it
    obtain ⟨more, e, rfl⟩ := (List.eq_nil_or_concat' _).resolve_left hempty
    rw [← List.append_assoc, ← List.append_assoc] at hsplit
    obtain ⟨hfront, _⟩ := List.append_inj' hsplit rfl
    rw [hfront, ← List.append_assoc] at hlast
    have hmore : more = [] :=
      eq_nil_of_getLast? hlast hink fun f hf => hgap f (List.mem_append_left _ hf)
    rw [hmore, List.append_nil] at hfront
    exact ⟨lead, start ++ [d], name, hfront, hopens, hpart⟩

/-- `KEY` after an inert word is no name of a created table. -/
theorem not_endsInName_key {word : List Char} (h : IsInert word) :
    ¬EndsInName (before ++ (word ++ " KEY ".toList)) := by
  intro hends
  have hsplit : before ++ (word ++ " KEY ".toList) =
      ((before ++ (word ++ [' '])) ++ "KEY".toList) ++ [' '] := by
    simp only [List.append_assoc]
    rfl
  rw [hsplit] at hends
  have hlast : ((before ++ (word ++ [' '])) ++ "KEY".toList).getLast? = some 'Y' := by
    rw [List.getLast?_append]
    rfl
  obtain ⟨lead, part, name, hcs, hopens, hpart⟩ := endsInName_space hlast (by decide) hends
  obtain ⟨start, c, rfl, _, hkind⟩ := exists_last_of_writes hpart
  have hc : c = 'Y' := by
    rw [hcs, ← List.append_assoc, List.getLast?_append] at hlast
    simpa using hlast
  -- a name that ends in the letter is not in quotes
  have hbare : ∀ d ∈ start ++ [c], isBare d = true := by
    rcases hkind with ⟨_, hbare⟩ | ⟨opening, hquotes, _⟩
    · exact hbare
    · rw [hc] at hquotes
      exact absurd hquotes (by simp [quotePairs])
  rcases List.append_eq_append_iff.mp hcs with ⟨more, hlead, hmore⟩ | ⟨more, hfront, hmore⟩
  · -- the name starts inside `KEY`
    have hinside : ∀ d ∈ more, isBlank d = false ∧ d ≠ '.' := by
      have hletters : ∀ d ∈ "KEY".toList, isBlank d = false ∧ d ≠ '.' := by decide
      exact fun d hd => hletters d (by rw [hmore]; exact List.mem_append_left _ hd)
    by_cases hempty : more = []
    · rw [hlead, hempty, List.append_nil] at hopens
      exact not_opensName_of_inert h hopens
    · obtain ⟨more', d, rfl⟩ := (List.eq_nil_or_concat' _).resolve_left hempty
      obtain ⟨hink, hdot⟩ := hinside d (by simp)
      refine not_opensName_of_last ?_ hink hdot hopens
      rw [hlead, ← List.append_assoc, List.getLast?_append]
      rfl
  · -- or it would hold the blank before
    by_cases hempty : more = []
    · rw [hempty, List.append_nil] at hfront
      rw [← hfront] at hopens
      exact not_opensName_of_inert h hopens
    · obtain ⟨more', d, rfl⟩ := (List.eq_nil_or_concat' _).resolve_left hempty
      rw [← List.append_assoc, ← List.append_assoc] at hfront
      obtain ⟨_, hd⟩ := List.append_inj' hfront rfl
      obtain rfl : ' ' = d := by simpa using hd
      have hblank := hbare ' ' (by rw [hmore]; simp)
      exact absurd hblank (by decide)

/-- The last quote of a text tells where the text before it ends. -/
theorem eq_of_append_cons {a : Char} {bs cs ds es : List Char} (h : bs ++ a :: cs = ds ++ a :: es)
    (hcs : a ∉ cs) (hes : a ∉ es) : bs = ds := by
  rcases List.append_eq_append_iff.mp h with ⟨more, rfl, hmore⟩ | ⟨more, rfl, hmore⟩
  · cases more with
    | nil => simp
    | cons b more =>
      obtain ⟨rfl, hcs'⟩ := List.cons.inj hmore
      exact absurd (by rw [hcs']; simp) hcs
  · cases more with
    | nil => simp
    | cons b more =>
      obtain ⟨rfl, hes'⟩ := List.cons.inj hmore
      exact absurd (by rw [hes']; simp) hes

theorem exists_last_quote {name : List Char} (h : '"' ∈ name) :
    ∃ front back, doubleQuotes name = front ++ '"' :: '"' :: back ∧ '"' ∉ back := by
  induction name with
  | nil => exact absurd h (by simp)
  | cons c name ih =>
    by_cases hmem : '"' ∈ name
    · obtain ⟨front, back, heq, hback⟩ := ih hmem
      by_cases hc : c = '"'
      · exact ⟨'"' :: '"' :: front, back, by rw [hc, doubleQuotes_cons_quote, heq]; rfl, hback⟩
      · exact ⟨c :: front, back, by rw [doubleQuotes_cons hc, heq]; rfl, hback⟩
    · obtain rfl : '"' = c := by simpa [hmem] using h
      exact ⟨[], name, by rw [doubleQuotes_cons_quote, doubleQuotes_of_notMem hmem]; rfl, hmem⟩

/-- A name in double quotes that is read at the end of a text starts at the last quote but one. -/
theorem exists_quoted_end {front inner : List Char}
    (hends : EndsInName ((front ++ '"' :: (inner ++ ['"'])) ++ [' '])) (hinner : '"' ∉ inner) :
    OpensName front := by
  have hlast : (front ++ '"' :: (inner ++ ['"'])).getLast? = some '"' := by
    rw [← List.cons_append, ← List.append_assoc, List.getLast?_append]
    rfl
  obtain ⟨lead, part, name, hcs, hopens, hpart⟩ := endsInName_space hlast (by decide) hends
  obtain ⟨start, c, rfl, _, hkind⟩ := exists_last_of_writes hpart
  have hc : c = '"' := by
    rw [hcs, ← List.append_assoc, List.getLast?_append] at hlast
    simpa using hlast
  rw [hc] at hkind hcs
  rcases hkind with ⟨hbare, _⟩ | ⟨opening, hquotes, hpart', hname⟩
  · exact absurd hbare (by decide)
  · -- the closing quote has its opening one at the start of the name that was written
    obtain rfl : opening = '"' := by simpa [quotePairs] using hquotes
    rw [← hc] at hpart'
    rw [← hc, hpart', hc, ← List.cons_append, ← List.append_assoc, ← List.cons_append,
      ← List.append_assoc] at hcs
    obtain ⟨hfront, _⟩ := List.append_inj' hcs rfl
    rw [eq_of_append_cons hfront hinner hname]
    exact hopens

/-- A name that holds a double quote is written in a way that names no created table. -/
theorem not_endsInName_quote {name : List Char} (h : '"' ∈ name) :
    ¬EndsInName (before ++ (quoteName name ++ [' '])) := by
  intro hends
  obtain ⟨front, back, hdouble, hback⟩ := exists_last_quote h
  have hsplit : before ++ (quoteName name ++ [' ']) =
      ((before ++ '"' :: (front ++ ['"'])) ++ '"' :: (back ++ ['"'])) ++ [' '] := by
    rw [quoteName, hdouble]
    simp
  rw [hsplit] at hends
  have hlast : (before ++ '"' :: (front ++ ['"'])).getLast? = some '"' := by
    rw [← List.cons_append, ← List.append_assoc, List.getLast?_append]
    rfl
  exact not_opensName_of_last hlast (by decide) (by decide) (exists_quoted_end hends hback)

/-- A name in quotes after an inert word is no name of a created table. -/
theorem not_endsInName_name {word name : List Char} (h : IsInert word) :
    ¬EndsInName (before ++ (word ++ ' ' :: (quoteName name ++ [' ']))) := by
  intro hends
  by_cases hquote : '"' ∈ name
  · have hsplit : before ++ (word ++ ' ' :: (quoteName name ++ [' '])) =
        (before ++ (word ++ [' '])) ++ (quoteName name ++ [' ']) := by simp
    rw [hsplit] at hends
    exact not_endsInName_quote hquote hends
  · have hsplit : before ++ (word ++ ' ' :: (quoteName name ++ [' '])) =
        ((before ++ (word ++ [' '])) ++ '"' :: (name ++ ['"'])) ++ [' '] := by
      rw [quoteName, doubleQuotes_of_notMem hquote]
      simp
    rw [hsplit] at hends
    exact not_opensName_of_inert h (exists_quoted_end hends hquote)

/-! ### No table -/

/-- Where a character stands in a text is the first place of it or comes after that. -/
theorem append_cons_cases {a : Char} {front tail start rest : List Char} (hfront : a ∉ front)
    (h : front ++ a :: tail = start ++ a :: rest) :
    start = front ∨ ∃ more, start = front ++ a :: more ∧ tail = more ++ a :: rest := by
  rcases List.append_eq_append_iff.mp h with ⟨more, rfl, hmore⟩ | ⟨more, rfl, hmore⟩
  · cases more with
    | nil => exact .inl (by simp)
    | cons c more =>
      obtain ⟨rfl, htail⟩ := List.cons.inj hmore
      exact .inr ⟨more, rfl, htail⟩
  · cases more with
    | nil => exact .inl (by simp)
    | cons c more =>
      obtain ⟨rfl, _⟩ := List.cons.inj hmore
      exact absurd (by simp) hfront

theorem isInert_foreign : IsInert "FOREIGN".toList :=
  ⟨⟨'N', rfl, by decide, by decide⟩, by decide⟩

theorem isInert_primary : IsInert "PRIMARY".toList :=
  ⟨⟨'Y', rfl, by decide, by decide⟩, by decide⟩

theorem isInert_references : IsInert "REFERENCES".toList :=
  ⟨⟨'S', rfl, by decide, by decide⟩, by decide⟩

theorem notMem_quoteName {c : Char} (hc : c ≠ '"') {name : List Char} (h : c ∉ name) :
    c ∉ quoteName name := fun hmem => (mem_quoteName.mp hmem).elim hc h

theorem opening_notMem_constraintName {k : ForeignKey} (h : IsCalmKey k) {name : List Char}
    (hname : IsConstraintName k name) : '(' ∉ name := fun hmem =>
  (mem_constraintName hname hmem).elim (fun hjoint => absurd hjoint (by decide))
    fun ⟨n, hn, hmem⟩ => (h n hn).opening hmem

/-- The statement of a foreign key up to its first parenthesis. -/
def keyFront (k : ForeignKey) (name : List Char) : List Char :=
  ("ALTER TABLE ".toList ++ (quoteName k.fromTable.toList ++ (" ADD CONSTRAINT ".toList ++
    (quoteName name ++ [' '])))) ++ ("FOREIGN".toList ++ " KEY ".toList)

/-- The statement of a foreign key between its two parentheses. -/
def keyMiddle (k : ForeignKey) : List Char :=
  (quoteName k.fromColumn.toList ++ ") ".toList) ++
    ("REFERENCES".toList ++ ' ' :: (quoteName k.toTable.toList ++ [' ']))

theorem keyText_eq (k : ForeignKey) (name : List Char) : keyText k name =
    keyFront k name ++ '(' :: (keyMiddle k ++ '(' :: (quoteName k.toColumn.toList ++ [')'])) := by
  have hforeign :
      " FOREIGN KEY (".toList = [' '] ++ ("FOREIGN".toList ++ (" KEY ".toList ++ ['('])) :=
    rfl
  have hreferences : ") REFERENCES ".toList = ") ".toList ++ ("REFERENCES".toList ++ [' ']) := rfl
  have hopen : " (".toList = [' '] ++ ['('] := rfl
  unfold keyText keyFront keyMiddle
  rw [hforeign, hreferences, hopen]
  simp only [List.append_assoc, List.cons_append, List.nil_append]

/-- The statement of a foreign key creates no table. -/
theorem readTable_keyText {k : ForeignKey} (h : IsCalmKey k) {name : List Char}
    (hname : IsConstraintName k name) : readTable (keyText k name) = ⟨none, []⟩ := by
  have hquote : ∀ n ∈ keyNames k, '(' ∉ quoteName n :=
    fun n hn => notMem_quoteName (by decide) (h n hn).opening
  have hfront : '(' ∉ keyFront k name := by
    have halter : '(' ∉ "ALTER TABLE ".toList := by decide
    have hadd : '(' ∉ " ADD CONSTRAINT ".toList := by decide
    have hspace : '(' ∉ [' '] := by decide
    have hforeign : '(' ∉ "FOREIGN".toList ++ " KEY ".toList := by decide
    have htable := hquote k.fromTable.toList (by simp [keyNames])
    have hquoted := notMem_quoteName (by decide) (opening_notMem_constraintName h hname)
    exact List.not_mem_append (List.not_mem_append halter (List.not_mem_append htable
      (List.not_mem_append hadd (List.not_mem_append hquoted hspace)))) hforeign
  have hmiddle : '(' ∉ keyMiddle k := by
    have hclose : '(' ∉ ") ".toList := by decide
    have hreferences : '(' ∉ "REFERENCES".toList := by decide
    have hspace : '(' ∉ [' '] := by decide
    have hcolumn := hquote k.fromColumn.toList (by simp [keyNames])
    have htable := hquote k.toTable.toList (by simp [keyNames])
    exact List.not_mem_append (List.not_mem_append hcolumn hclose)
      (List.not_mem_append hreferences (List.not_mem_cons_of_ne_of_not_mem (by decide)
        (List.not_mem_append htable hspace)))
  have hback : '(' ∉ quoteName k.toColumn.toList ++ [')'] :=
    List.not_mem_append (hquote k.toColumn.toList (by simp [keyNames])) (by decide)
  -- no name stands before any of the three parentheses
  refine readTable_eq_none fun before rest hsplit => ?_
  rw [keyText_eq] at hsplit
  rcases append_cons_cases hfront hsplit with rfl | ⟨more, rfl, hmore⟩
  · exact not_endsInName_key isInert_foreign
  · rcases append_cons_cases hmiddle hmore with rfl | ⟨last, _, hlast⟩
    · have hassoc : keyFront k name ++ '(' :: keyMiddle k =
          (keyFront k name ++ '(' :: (quoteName k.fromColumn.toList ++ ") ".toList)) ++
            ("REFERENCES".toList ++ ' ' :: (quoteName k.toTable.toList ++ [' '])) := by
        rw [keyMiddle, ← List.cons_append, List.append_assoc]
      rw [hassoc]
      exact not_endsInName_name isInert_references
    · exact absurd (by rw [hlast]; simp) hback

/-! ### The key -/

theorem writes_quoteName {name : List Char} (hne : name ≠ []) (hquote : '"' ∉ name) :
    Writes (quoteName name) name := by
  rw [quoteName, doubleQuotes_of_notMem hquote]
  exact .quoted (by simp [quotePairs]) hne hquote

theorem starts_isMark_quoteName (name rest : List Char) : Starts isMark (quoteName name ++ rest) :=
  starts_cons.mpr (by decide)

/-- No opening but the empty one is read before a name in quotes. -/
theorem firstOf_openings_of_isMark {α : Type} (r : Reader α) (hmark : Starts isMark cs) :
    firstOf (alterOpenings.map fun opening => opening >>= fun _ => r) cs = r cs := by
  have hif : ifExists cs = none :=
    bind_of_none (by rw [phrase_eq_bind]; exact bind_of_none (keyword_eq_none (by decide) hmark) _)
      _
  have honly : onlyWord cs = none := bind_of_none (keyword_eq_none (by decide) hmark) _
  show firstOf [(ifExists >>= fun _ => onlyWord) >>= fun _ => r, ifExists >>= fun _ => r,
    onlyWord >>= fun _ => r, pure () >>= fun _ => r] _ = _
  rw [firstOf_of_none (bind_of_none (bind_of_none hif _) _), firstOf_of_none (bind_of_none hif _),
    firstOf_of_none (bind_of_none honly _)]
  cases hread : r cs with
  | none => exact firstOf_of_none hread
  | some found => exact firstOf_of_some hread

/-- A foreign key whose names are read as they are written. -/
structure IsReadableKey (k : ForeignKey) : Prop where
  calm : IsCalmKey k
  unquoted : ∀ n ∈ keyNames k, '"' ∉ n
  from_column : ')' ∉ k.fromColumn.toList ∧ k.fromColumn.toList.getLast? ≠ some '\\'
  to_column : ')' ∉ k.toColumn.toList ∧ k.toColumn.toList.getLast? ≠ some '\\'

theorem IsReadableKey.writes {k : ForeignKey} (h : IsReadableKey k) {n : List Char}
    (hn : n ∈ keyNames k) : Writes (quoteName n) n :=
  writes_quoteName (h.calm n hn).ne_nil (h.unquoted n hn)

theorem isList_quoteName {name : List Char} (h : ')' ∉ name) : IsList (quoteName name) :=
  ⟨by simp [quoteName], notMem_quoteName (by decide) h⟩

/-- The words before a foreign key in its statement, which name its constraint. -/
def keyLabel (name : List Char) : List Char :=
  "ADD".toList ++ ([' '] ++ ("CONSTRAINT".toList ++ ([' '] ++ (quoteName name ++ [' ']))))

/-- The statement of a foreign key after the word `FOREIGN`. -/
def keyClause (k : ForeignKey) : List Char :=
  [' '] ++ ("KEY".toList ++ ([' '] ++ '(' :: (quoteName k.fromColumn.toList ++ ')' :: ([' '] ++
    ("REFERENCES".toList ++ ([' '] ++ (quoteName k.toTable.toList ++ ([' '] ++
      '(' :: (quoteName k.toColumn.toList ++ [')'])))))))))

theorem keyText_eq_words (k : ForeignKey) (name : List Char) : keyText k name =
    "ALTER".toList ++ ([' '] ++ ("TABLE".toList ++ ([' '] ++ (quoteName k.fromTable.toList ++
      ([' '] ++ (keyLabel name ++ ("FOREIGN".toList ++ keyClause k))))))) := by
  have halter : "ALTER TABLE ".toList = "ALTER".toList ++ ([' '] ++ ("TABLE".toList ++ [' '])) :=
    rfl
  have hadd : " ADD CONSTRAINT ".toList =
      [' '] ++ ("ADD".toList ++ ([' '] ++ ("CONSTRAINT".toList ++ [' ']))) := rfl
  have hforeign : " FOREIGN KEY (".toList =
      [' '] ++ ("FOREIGN".toList ++ ([' '] ++ ("KEY".toList ++ ([' '] ++ ['('])))) := rfl
  have hreferences : ") REFERENCES ".toList = ')' :: ([' '] ++ ("REFERENCES".toList ++ [' '])) :=
    rfl
  have hopen : " (".toList = [' '] ++ ['('] := rfl
  unfold keyText keyLabel keyClause
  rw [halter, hadd, hforeign, hreferences, hopen]
  simp only [List.append_assoc, List.cons_append, List.nil_append]

theorem writesAdd_keyLabel {k : ForeignKey} (h : IsReadableKey k) {name : List Char}
    (hname : IsConstraintName k name) : WritesAdd (keyLabel name) := by
  have hquote : '"' ∉ name := fun hmem => (mem_constraintName hname hmem).elim
    (fun hjoint => absurd hjoint (by decide)) fun ⟨n, hn, hmem⟩ => h.unquoted n hn hmem
  exact .word (by decide) isSpace_single (.name (by decide) isSpace_single
    (writes_quoteName (constraintName_ne_nil hname) hquote) isSpace_single)

theorem foreignKeyWords_keyClause {k : ForeignKey} (h : IsReadableKey k) :
    foreignKeyWords ("FOREIGN".toList ++ keyClause k) = some ((quoteName k.fromColumn.toList,
      ⟨quoteName k.toTable.toList, quoteName k.toColumn.toList⟩), []) := by
  have hreferences : Spells "REFERENCES" "REFERENCES".toList := by decide
  have hto : Writes (quoteName k.toTable.toList) k.toTable.toList := h.writes (by simp [keyNames])
  have hblank : AllBlank [' '] := by decide
  exact foreignKeyWords_append (by decide) isSpace_single (by decide) hblank
    (isList_quoteName h.from_column.1) hblank (hreferences.starts_ink (by decide))
    (references_append hreferences isSpace_single (.last hto) hblank
      (isList_quoteName h.to_column.1))

/-- The statement of a foreign key is read with the names that it has in quotes. -/
theorem search_keyText {k : ForeignKey} (h : IsReadableKey k) {name : List Char}
    (hname : IsConstraintName k name) :
    search alterTable (keyText k name) = some ⟨[], (quoteName k.fromTable.toList,
      quoteName k.fromColumn.toList, ⟨quoteName k.toTable.toList, quoteName k.toColumn.toList⟩),
        []⟩ := by
  have hfrom : Writes (quoteName k.fromTable.toList) k.fromTable.toList :=
    h.writes (by simp [keyNames])
  have hkey : NoDotNext _ ∧ keyOf (quoteName k.fromTable.toList) _ = _ :=
    keyOf_append isSpace_single (writesAdd_keyLabel h hname) (by decide)
      (foreignKeyWords_keyClause h)
  have hread := (bind_of_eq (qualifiedName_append (.last hfrom)
    (starts_isBreak_of_space isSpace_single) hkey.1) keyOf).trans hkey.2
  rw [keyText_eq_words]
  refine search_of_read ?_
  rw [alterTable_append (by decide) isSpace_single (by decide) isSpace_single hfrom.starts,
    firstOf_openings_of_isMark _ (starts_isMark_quoteName _ _)]
  exact hread

/-- A column in quotes is a list of one. -/
theorem columnNameStrings_quoteName {name : String} (hcalm : IsCalm name.toList)
    (hquote : '"' ∉ name.toList) (hlast : name.toList.getLast? ≠ some '\\') :
    columnNameStrings (quoteName name.toList) = [name] := by
  have hwrites := writes_quoteName hcalm.ne_nil hquote
  have hnested : Nested false (quoteName name.toList) :=
    nested_quoteName (avoids_of_notMem_right hquote) hlast
  have htrimmed : IsTrimmed (quoteName name.toList) := isTrimmed_frame (by decide) (by decide) _
  have htidy : tidy [quoteName name.toList] = [quoteName name.toList] := by
    rw [tidy, List.map_singleton, trim_eq_self htrimmed]
    simp [quoteName]
  rw [columnNameStrings, columnNames, splitCommas_of_nested hnested, htidy, List.map_singleton,
    List.map_singleton, normalName_of_writes hwrites, hcalm.lower_eq, String.ofList_toList]

theorem normalTableName_quoteName {name : String} (hcalm : IsCalm name.toList)
    (hquote : '"' ∉ name.toList) :
    String.ofList (normalTableName (quoteName name.toList)) = name := by
  rw [normalTableName_of_writesPath (.last (writes_quoteName hcalm.ne_nil hquote)), hcalm.lower_eq,
    String.ofList_toList]

/-- The statement of a foreign key is read as that key. -/
theorem readForeignKey_keyText {k : ForeignKey} (h : IsReadableKey k) {name : List Char}
    (hname : IsConstraintName k name) : readForeignKey (keyText k name) = ⟨some k, []⟩ := by
  have hnames : ∀ n ∈ keyNames k, IsCalm n ∧ '"' ∉ n := fun n hn => ⟨h.calm n hn, h.unquoted n hn⟩
  obtain ⟨hfrom, hfromQuote⟩ := hnames k.fromTable.toList (by simp [keyNames])
  obtain ⟨hfromColumn, hfromColumnQuote⟩ := hnames k.fromColumn.toList (by simp [keyNames])
  obtain ⟨hto, htoQuote⟩ := hnames k.toTable.toList (by simp [keyNames])
  obtain ⟨htoColumn, htoColumnQuote⟩ := hnames k.toColumn.toList (by simp [keyNames])
  have hkey : Reference.key ⟨quoteName k.toTable.toList, quoteName k.toColumn.toList⟩ k.fromTable
      [k.fromColumn] = .ok k := by
    rw [Reference.key, columnNameStrings_quoteName htoColumn htoColumnQuote h.to_column.2,
      normalTableName_quoteName hto htoQuote]
    rfl
  simp only [readForeignKey, search_keyText h hname, normalTableName_quoteName hfrom hfromQuote,
    columnNameStrings_quoteName hfromColumn hfromColumnQuote h.from_column.2, hkey]

theorem readStatement_keyText {k : ForeignKey} (h : IsReadableKey k) {name : List Char}
    (hname : IsConstraintName k name) : readStatement (keyText k name) = ⟨.key k, []⟩ := by
  simp only [readStatement, readTable_keyText h.calm hname, readForeignKey_keyText h hname,
    List.append_nil]

end SchemaDraft.Export
