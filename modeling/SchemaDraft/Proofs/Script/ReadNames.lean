import SchemaDraft.Proofs.Script.ReadColumns
import SchemaDraft.Proofs.Script.WrittenTable

/-!
What the names in a drawing of a script are like: every name is written somewhere in a statement,
and read without its quotes and in lower case (`IsReadName`). So it is not empty, and it holds no
semicolon and no mark of a line comment, which never get into a statement
(`isScriptName_of_mem_ofScript`).
-/

namespace SchemaDraft.Script

open Text Reader

variable {text name rest statement : List Char}

/-- Is this the lower case of something written in a text? -/
def IsReadName (statement name : List Char) : Prop :=
  ∃ part, part ≠ [] ∧ part <:+: statement ∧ name = lower part

theorem IsReadName.of_isInfix {whole : List Char} (h : IsReadName text name)
    (hin : text <:+: whole) : IsReadName whole name := by
  obtain ⟨part, hne, hpart, rfl⟩ := h
  exact ⟨part, hne, hpart.trans hin, rfl⟩

/-! ### Names as they are written -/

theorem isInfix_of_writes (h : Writes text name) : name <:+: text := by
  cases h with
  | bare _ _ => exact List.infix_refl _
  | @quoted opening closing _ _ _ _ => exact ⟨[opening], [closing], by simp⟩

theorem isReadName_of_writes (h : Writes text name) : IsReadName text (normalName text) :=
  ⟨name, h.name_ne_nil, isInfix_of_writes h, normalName_of_writes h⟩

/-- A name is found where one is written, whatever follows. -/
theorem identifier_ne_none (h : Writes text name) : identifier (text ++ rest) ≠ none := by
  cases h with
  | quoted hquotes hne hnot =>
    rw [identifier, firstOf_of_some (anyQuotedName_append hquotes hne hnot)]
    simp
  | bare hne hbare =>
    cases hquoted : anyQuotedName (text ++ rest) with
    | some found => rw [identifier, firstOf_of_some hquoted]; simp
    | none =>
      obtain ⟨c, cs, rfl⟩ := List.exists_cons_of_ne_nil hne
      rw [identifier, firstOf_of_none hquoted]
      simp [firstOf, run1, hbare c (by simp)]

/-- The names found in a text are written in it. -/
theorem of_mem_identifiersIn {fuel : Nat} {cs part : List Char} (h : part ∈ identifiersIn fuel cs) :
    (∃ name, Writes part name) ∧ part <:+: cs := by
  fun_induction identifiersIn fuel cs with
  | case1 cs => exact absurd h (by simp)
  | case2 fuel => exact absurd h (by simp)
  | case3 fuel c cs found rest hread ih =>
    obtain ⟨hsplit, name, hwrites⟩ := identifier_eq_some hread
    rcases List.mem_cons.mp h with rfl | h
    · exact ⟨⟨name, hwrites⟩, hsplit ▸ (List.prefix_append part rest).isInfix⟩
    · obtain ⟨hname, hin⟩ := ih h
      exact ⟨hname, hin.trans (hsplit ▸ (List.suffix_append found rest).isInfix)⟩
  | case4 fuel c cs hread ih =>
    obtain ⟨hname, hin⟩ := ih h
    exact ⟨hname, hin.trans (List.suffix_cons c cs).isInfix⟩

/-- The name of a table is the last that is written where it is read. -/
theorem isReadName_of_qualifiedName {cs : List Char} (h : qualifiedName cs = some (text, rest)) :
    IsReadName cs (normalTableName text) := by
  obtain ⟨hsplit, _⟩ := qualifiedName_eq_some h
  obtain ⟨first, afterFirst, hfirst, h⟩ := bind_eq_some h
  obtain ⟨parts, afterParts, _, h⟩ := bind_eq_some h
  obtain ⟨rfl, rfl⟩ := Prod.mk.inj (Option.some.inj h)
  obtain ⟨_, name, hwrites⟩ := identifier_eq_some hfirst
  -- the part that was read first is found again, so the last part exists
  have hfound : identifiersIn (first ++ parts).length (first ++ parts) ≠ [] := by
    have hread : identifier (first ++ parts) ≠ none := identifier_ne_none hwrites
    obtain ⟨c, tail, hcons⟩ := List.exists_cons_of_ne_nil
      (List.append_ne_nil_of_left_ne_nil hwrites.ne_nil parts)
    rw [hcons] at hread ⊢
    rw [List.length_cons, identifiersIn]
    split
    · simp
    · rename_i hnone
      exact absurd hnone hread
  obtain ⟨before, part, hlast⟩ := (List.eq_nil_or_concat' _).resolve_left hfound
  have hmem : part ∈ identifiersIn (first ++ parts).length (first ++ parts) := by
    rw [hlast]
    simp
  obtain ⟨⟨name', hwrites'⟩, hin⟩ := of_mem_identifiersIn hmem
  rw [normalTableName, hlast, List.getLast?_append]
  exact (isReadName_of_writes hwrites').of_isInfix
    (hin.trans (hsplit ▸ (List.prefix_append _ _).isInfix))

/-- A plain column name has only characters of bare names. -/
theorem plainName_eq_some {cs : List Char} (h : plainName cs = some (text, rest)) :
    cs = text ++ rest ∧ text ≠ [] ∧ ∀ c ∈ text, isBare c = true := by
  cases cs with
  | nil => exact absurd h (by simp [plainName])
  | cons c cs =>
    rw [plainName] at h
    split at h
    · rename_i hstarts
      obtain ⟨rfl, rfl⟩ := Prod.mk.inj (Option.some.inj h)
      refine ⟨by rw [List.cons_append, List.takeWhile_append_dropWhile], by simp, ?_⟩
      intro d hd
      rcases List.mem_cons.mp hd with rfl | hd
      · exact isBare_of_isWordChar (isWordChar_of_startsPlainName hstarts)
      · exact isBare_of_isPlainNameRest (List.mem_takeWhile_imp hd)
    · exact absurd h (by simp)

/-- A plain column name is a bare name. -/
theorem writes_of_plainName {cs : List Char} (h : plainName cs = some (text, rest)) :
    cs = text ++ rest ∧ Writes text text := by
  obtain ⟨hsplit, hne, hbare⟩ := plainName_eq_some h
  exact ⟨hsplit, .bare hne hbare⟩

/-- What is read as the name of a column is a way to write one. -/
theorem writes_of_columnName {cs : List Char} (h : columnName cs = some (text, rest)) :
    cs = text ++ rest ∧ ∃ name, Writes text name := by
  obtain ⟨r, hr, hread⟩ := exists_of_firstOf h
  rcases List.mem_cons.mp hr with rfl | hr
  · obtain ⟨s, hs, hquoted⟩ := exists_of_firstOf hread
    obtain ⟨⟨opening, closing⟩, hquotes, rfl⟩ := List.mem_map.mp hs
    obtain ⟨name, rfl, hsplit, hne, hnot⟩ := quotedName_eq_some hquoted
    exact ⟨hsplit, name, .quoted hquotes hne hnot⟩
  · obtain rfl := List.mem_singleton.mp hr
    obtain ⟨hsplit, hwrites⟩ := writes_of_plainName hread
    exact ⟨hsplit, text, hwrites⟩

theorem exists_of_columnParts {definition remainder : List Char}
    (h : columnParts definition = some (text, remainder)) :
    ∃ rest, columnName (trim definition) = some (text, rest) := by
  unfold columnParts at h
  simp only at h
  split at h
  · rename_i name c rest hparts
    obtain ⟨rfl, rfl⟩ := Prod.mk.inj (Option.some.inj h)
    obtain ⟨name', left, hname, hparts⟩ := bind_eq_some hparts
    obtain ⟨_, _, _, hparts⟩ := bind_eq_some hparts
    obtain ⟨rfl, _⟩ := Prod.mk.inj (Option.some.inj hparts)
    exact ⟨left, hname⟩
  · exact absurd h (by simp)

/-- The name of a column is written in its definition. -/
theorem isReadName_of_readColumn {definition : List Char} {c : ColumnSpec}
    (h : readColumn definition = some c) : IsReadName definition c.name.toList := by
  obtain ⟨⟨text, remainder⟩, hparts, rfl⟩ := Option.map_eq_some_iff.mp h
  obtain ⟨rest, hread⟩ := exists_of_columnParts hparts
  obtain ⟨hsplit, name, hwrites⟩ := writes_of_columnName hread
  have hin : text <:+: definition :=
    (hsplit ▸ (List.prefix_append text rest).isInfix).trans (isInfix_trim definition)
  show IsReadName definition (String.ofList (normalName text)).toList
  rw [String.toList_ofList]
  exact (isReadName_of_writes hwrites).of_isInfix hin

/-! ### Tables -/

/-- The names of a table and of its columns are written in its statement. -/
theorem isReadName_of_readTable {reading : TableReading}
    (h : (readTable statement).value = some reading) :
    IsReadName statement reading.table.name.toList ∧
      ∀ c ∈ reading.table.columns, IsReadName statement c.name.toList := by
  unfold readTable at h
  split at h
  · exact absurd h (by simp)
  · rename_i found hfound
    obtain ⟨_, start, hstart, hread⟩ := exists_of_searchFrom hfound
    obtain ⟨lead, gap, rfl, _, _, hname, _⟩ := createTable_eq_some hread
    split at h
    · exact absurd h (by simp)
    · rename_i index hindex
      obtain rfl := Option.some.inj h
      constructor
      · show IsReadName statement (String.ofList (normalTableName found.value)).toList
        rw [String.toList_ofList]
        refine (isReadName_of_qualifiedName hname).of_isInfix ?_
        exact (List.suffix_append lead _).isInfix.trans hstart.isInfix
      · intro c hc
        obtain ⟨d, hd, rfl⟩ := List.mem_map.mp hc
        obtain ⟨clause, hclause, hcolumn⟩ := List.mem_filterMap.mp hd
        obtain ⟨definition, hdefinition, rfl⟩ := List.mem_map.mp hclause
        rw [raiseFlags_name]
        refine (isReadName_of_readColumn (column?_read hcolumn)).of_isInfix ?_
        have hbody : (found.after.take index).drop 1 <:+: found.after :=
          (List.drop_suffix 1 _).isInfix.trans (List.take_prefix index _).isInfix
        have hafter : found.after <:+ lead ++ (found.value ++ (gap ++ found.after)) :=
          (List.suffix_append gap _).trans
            ((List.suffix_append found.value _).trans (List.suffix_append lead _))
        exact (isInfix_of_mem_splitCommas hdefinition).trans
          (hbody.trans (hafter.isInfix.trans hstart.isInfix))

/-! ### Scripts -/

/-- Is a name as scripts give it: not empty, in lower case, without semicolons and `--`? -/
structure IsScriptName (name : List Char) : Prop where
  ne_nil : name ≠ []
  lower_eq : lower name = name
  semicolon : ';' ∉ name
  dashes : Avoids '-' '-' name

theorem isScriptName_of_isReadName (h : IsReadName statement name) (hsemicolon : ';' ∉ statement)
    (hdashes : Avoids '-' '-' statement) : IsScriptName name := by
  obtain ⟨part, hne, hin, rfl⟩ := h
  exact ⟨lower_ne_nil hne, lower_lower part,
    fun hmem => hsemicolon (hin.subset (mem_of_mem_lower (by decide) hmem)),
    avoids_lower (by decide) (by decide) (hdashes.of_isInfix hin)⟩

/-- No semicolon and no mark of a line comment gets into a statement. -/
theorem of_mem_statementsOf {script : List Char} (h : statement ∈ statementsOf script) :
    ';' ∉ statement ∧ Avoids '-' '-' statement := by
  obtain ⟨hsemicolon, hin⟩ := of_mem_splitStatements h
  have hdashes : Avoids '-' '-' (dropComments script) := avoids_dropLineComments _
  exact ⟨hsemicolon, hdashes.of_isInfix (hin.trans (isInfix_trim _))⟩

/-- All names in a script are as scripts give them. -/
theorem isScriptName_of_mem_ofScript {script : List Char} {t : TableSpec}
    (h : t ∈ (Contents.ofScript script).tables) :
    IsScriptName t.name.toList ∧ ∀ c ∈ t.columns, IsScriptName c.name.toList := by
  obtain ⟨reading, hreading, ht⟩ := List.mem_filterMap.mp h
  obtain ⟨statement, hstatement, rfl⟩ := List.mem_map.mp hreading
  obtain ⟨read, hread, rfl⟩ := table?_readStatement ht
  obtain ⟨hsemicolon, hdashes⟩ := of_mem_statementsOf hstatement
  obtain ⟨hname, hcolumns⟩ := isReadName_of_readTable hread
  exact ⟨isScriptName_of_isReadName hname hsemicolon hdashes,
    fun c hc => isScriptName_of_isReadName (hcolumns c hc) hsemicolon hdashes⟩

end SchemaDraft.Script
