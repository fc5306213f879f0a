import SchemaDraft.Proofs.Script.Search
import SchemaDraft.Proofs.Script.Split
import SchemaDraft.Proofs.Script.WrittenClause
import SchemaDraft.Script.Statement

/-!
The frame of `CREATE TABLE`, as it is written and as it is read. The words before the name may stand
in any letter case, a schema may come before the name, and the body is what stands between the
parenthesis after the name and its partner; whatever follows that does not count
(`readTable_append`).
-/

namespace SchemaDraft.Script

open Reader Text

variable {rest : List Char}

/-- Is this text one of the words for tables that do not last, with blanks after it, or nothing? -/
inductive WritesLifetime : List Char → Prop
  | none : WritesLifetime []
  | word {word : String} {text space : List Char} : word ∈ ["TEMPORARY", "TEMP", "UNLOGGED"] →
      Spells word text → IsSpace space → WritesLifetime (text ++ space)

/-- Is this text `IF NOT EXISTS` with blanks after each word, or nothing? -/
inductive WritesCondition : List Char → Prop
  | none : WritesCondition []
  | words {first space second space' third space'' : List Char} : Spells "IF" first →
      IsSpace space → Spells "NOT" second → IsSpace space' → Spells "EXISTS" third →
      IsSpace space'' →
      WritesCondition (first ++ (space ++ (second ++ (space' ++ (third ++ space'')))))

/-- `IF NOT EXISTS` and blanks. -/
def condition : Reader Unit := do
  phrase ["IF", "NOT", "EXISTS"]
  let _ ← blanks
  return ()

/-- One of some keywords and blanks. -/
def wordAndBlanks (words : List String) : Reader Unit := do
  anyKeyword words
  let _ ← blanks
  return ()

theorem wordAndBlanks_eq_none {words : List String} (hwords : ∀ word ∈ words, word ∈ keywords)
    {other : String} {text : List Char} (hother : other ∈ keywords) (htext : Spells other text)
    (hclash : ∀ word ∈ words, clash word other = true) :
    wordAndBlanks words (text ++ rest) = none := by
  refine bind_of_none (firstOf_eq_none fun r hr => ?_) _
  obtain ⟨word, hword, rfl⟩ := List.mem_map.mp hr
  exact keyword_of_clash (hwords word hword) hother htext (hclash word hword)

/-- A lifetime is passed over before `TABLE`. -/
theorem optional_lifetime {lifetime table : List Char} (h : WritesLifetime lifetime)
    (htable : Spells "TABLE" table) :
    Reader.optional (wordAndBlanks ["TEMPORARY", "TEMP", "UNLOGGED"])
      (lifetime ++ (table ++ rest)) = some ((), table ++ rest) := by
  cases h with
  | none =>
    have hother : "TABLE" ∈ keywords := by decide
    rw [List.nil_append]
    exact optional_of_none (wordAndBlanks_eq_none (by decide) hother htable (by decide))
  | @word word text space hword htext hspace =>
    have hblanks : blanks (space ++ (table ++ rest)) = some (space, table ++ rest) :=
      blanks_append hspace (htable.starts_ink (by decide))
    have hread : anyKeyword ["TEMPORARY", "TEMP", "UNLOGGED"] (text ++ (space ++ (table ++ rest))) =
        some ((), space ++ (table ++ rest)) := by
      simp only [List.mem_cons, List.not_mem_nil, or_false] at hword
      show firstOf [keyword "TEMPORARY", keyword "TEMP", keyword "UNLOGGED"] _ = _
      -- TEMP begins TEMPORARY, so the longer word is tried first and must fail on the shorter one
      rcases hword with rfl | rfl | rfl
      · exact firstOf_of_some (keyword_append htext)
      · rw [firstOf_of_none (keyword_of_shorter (by decide) htext (by decide) hspace.starts_isMark)]
        exact firstOf_of_some (keyword_append htext)
      · rw [firstOf_of_none (keyword_of_clash (by decide) (by decide) htext (by decide)),
          firstOf_of_none (keyword_of_clash (by decide) (by decide) htext (by decide))]
        exact firstOf_of_some (keyword_append htext)
    refine optional_of_some ?_
    rw [List.append_assoc, wordAndBlanks, bind_of_eq hread, bind_of_eq hblanks]
    rfl

/-- The words that come before a lifetime in other scripts are not there. -/
theorem optional_scope {lifetime table : List Char} (h : WritesLifetime lifetime)
    (htable : Spells "TABLE" table) :
    Reader.optional (wordAndBlanks ["GLOBAL", "LOCAL"]) (lifetime ++ (table ++ rest)) =
      some ((), lifetime ++ (table ++ rest)) := by
  refine optional_of_none ?_
  cases h with
  | none =>
    have hother : "TABLE" ∈ keywords := by decide
    rw [List.nil_append]
    exact wordAndBlanks_eq_none (by decide) hother htable (by decide)
  | @word word text space hword htext _ =>
    rw [List.append_assoc]
    have hlifetime : ∀ w ∈ ["TEMPORARY", "TEMP", "UNLOGGED"],
        w ∈ keywords ∧ ∀ v ∈ ["GLOBAL", "LOCAL"], clash v w = true := by decide
    obtain ⟨hmem, hclash⟩ := hlifetime word hword
    exact wordAndBlanks_eq_none (by decide) hmem htext hclash

/-- `IF NOT EXISTS` is passed over, and no other name is taken for it. -/
theorem optional_condition {written path target : List Char} (h : WritesCondition written)
    (hpath : WritesPath path target) (hif : condition (path ++ rest) = none) :
    Reader.optional condition (written ++ (path ++ rest)) = some ((), path ++ rest) := by
  cases h with
  | none => exact optional_of_none hif
  | words hfirst hspace hsecond hspace' hthird hspace'' =>
    refine optional_of_some ?_
    simp only [List.append_assoc]
    rw [condition, bind_apply, phrase_cons hfirst hspace (hsecond.starts_ink (by decide)),
      phrase_cons hsecond hspace' (hthird.starts_ink (by decide)), phrase_singleton hthird,
      Option.bind_some, bind_of_eq (blanks_append hspace'' hpath.starts)]
    rfl

section Table

variable {create space lifetime table space' written path target gap : List Char}

/-- The reader of the words before the body, part by part. -/
theorem createTable_eq : createTable =
    (keyword "CREATE" >>= fun _ => blanks >>= fun _ =>
      Reader.optional (wordAndBlanks ["GLOBAL", "LOCAL"]) >>= fun _ =>
      Reader.optional (wordAndBlanks ["TEMPORARY", "TEMP", "UNLOGGED"]) >>= fun _ =>
      keyword "TABLE" >>= fun _ => blanks >>= fun _ => Reader.optional condition >>= fun _ =>
      qualifiedName >>= fun name => Reader.gap >>= fun _ =>
      fun cs => if cs.head? = some '(' then some (name, cs) else none) := rfl

/-- The words before the body are read up to the parenthesis that opens it. -/
theorem createTable_append (hcreate : Spells "CREATE" create) (hspace : IsSpace space)
    (hlifetime : WritesLifetime lifetime) (htable : Spells "TABLE" table) (hspace' : IsSpace space')
    (hwritten : WritesCondition written) (hpath : WritesPath path target)
    (hif : condition (path ++ (gap ++ '(' :: rest)) = none) (hgap : AllBlank gap) :
    createTable (create ++ (space ++ (lifetime ++ (table ++ (space' ++ (written ++
        (path ++ (gap ++ '(' :: rest)))))))) = some (path, '(' :: rest) := by
  -- whatever comes next begins with ink, so each run of blanks is read to its end
  have hink : Starts isInk (lifetime ++ (table ++ (space' ++ (written ++
      (path ++ (gap ++ '(' :: rest)))))) := by
    cases hlifetime with
    | none => exact htable.starts_ink (by decide)
    | @word word text after hword htext _ =>
      rw [List.append_assoc]
      have hkeyword : ∀ w ∈ ["TEMPORARY", "TEMP", "UNLOGGED"], w ∈ keywords := by decide
      exact htext.starts_ink (hkeyword word hword)
  have hink' : Starts isInk (written ++ (path ++ (gap ++ '(' :: rest))) := by
    cases hwritten with
    | none => exact hpath.starts
    | words hfirst _ _ _ _ _ =>
      rw [List.append_assoc]
      exact hfirst.starts_ink (by decide)
  rw [createTable_eq, bind_of_eq (keyword_append hcreate), bind_of_eq (blanks_append hspace hink),
    bind_of_eq (optional_scope hlifetime htable), bind_of_eq (optional_lifetime hlifetime htable),
    bind_of_eq (keyword_append htable), bind_of_eq (blanks_append hspace' hink'),
    bind_of_eq (optional_condition hwritten hpath hif),
    bind_of_eq (qualifiedName_append hpath (starts_isBreak_list hgap) (noDotNext_list hgap))]
  exact (bind_of_eq (gap_list hgap) _).trans (if_pos rfl)

/-- The table of a written statement has the name after the schema and the clauses of the body. -/
theorem readTable_append (hcreate : Spells "CREATE" create) (hspace : IsSpace space)
    (hlifetime : WritesLifetime lifetime) (htable : Spells "TABLE" table) (hspace' : IsSpace space')
    (hwritten : WritesCondition written) (hpath : WritesPath path target) {body : List Char}
    (hif : condition (path ++ (gap ++ '(' :: (body ++ ')' :: rest))) = none) (hgap : AllBlank gap)
    (hbody : Nested true body) :
    readTable (create ++ (space ++ (lifetime ++ (table ++ (space' ++ (written ++
        (path ++ (gap ++ '(' :: (body ++ ')' :: rest))))))))) =
      let name := String.ofList (lower target)
      ⟨some (.ofClauses name (readBody name body)),
        (readBody name body).filterMap Clause.notice?⟩ := by
  have hfound := search_of_read
    (createTable_append hcreate hspace hlifetime htable hspace' hwritten hpath hif hgap)
  have hinner : (('(' :: (body ++ ')' :: rest)).take (body.length + 1)).drop 1 = body := by simp
  simp only [readTable, hfound, closingIndex_group hbody, hinner,
    normalTableName_of_writesPath hpath]

end Table

/-! ### What every reading looks like -/

/-- Is this a text after which the name of a created table may stand: one that ends in `TABLE`
or `EXISTS` and blanks, or in a dot and perhaps blanks? -/
def OpensName (cs : List Char) : Prop :=
  ∃ lead blanks, cs = lead ++ blanks ∧ AllBlank blanks ∧
    (lead.getLast? = some '.' ∨
      blanks ≠ [] ∧ ∃ word ∈ ["TABLE", "EXISTS"], ∃ text, text <:+ lead ∧ Spells word text)

/-- Is this a text that ends in the name of a created table, given what stands before a parenthesis?
-/
def EndsInName (cs : List Char) : Prop :=
  ∃ lead part name gap, cs = lead ++ (part ++ gap) ∧ OpensName lead ∧ Writes part name ∧
    AllBlank gap

theorem keyword_suffix {word : String} {cs : List Char} (h : keyword word cs = some ((), rest)) :
    rest <:+ cs := by
  obtain ⟨text, rfl, _⟩ := keyword_eq_some h
  exact List.suffix_append text rest

theorem wordAndBlanks_suffix {words : List String} {cs : List Char}
    (h : wordAndBlanks words cs = some ((), rest)) : rest <:+ cs := by
  obtain ⟨_, mid, hword, h⟩ := bind_eq_some h
  obtain ⟨taken, left, hblanks, h⟩ := bind_eq_some h
  obtain rfl : left = rest := congrArg Prod.snd (Option.some.inj h)
  obtain ⟨r, hr, hread⟩ := exists_of_firstOf hword
  obtain ⟨word, _, rfl⟩ := List.mem_map.mp hr
  obtain ⟨rfl, _, _⟩ := blanks_eq_some hblanks
  exact (List.suffix_append taken left).trans (keyword_suffix hread)

theorem optional_eq_some {r : Reader Unit} {cs : List Char}
    (h : Reader.optional r cs = some ((), rest)) : rest = cs ∨ r cs = some ((), rest) := by
  cases hr : r cs with
  | none =>
    rw [optional_of_none hr] at h
    exact .inl (congrArg Prod.snd (Option.some.inj h)).symm
  | some found =>
    have hread : Reader.optional r cs = some ((), found.2) := optional_of_some hr
    rw [hread] at h
    exact .inr h

theorem condition_eq_some {cs : List Char} (h : condition cs = some ((), rest)) :
    ∃ lead space text, cs = lead ++ (text ++ (space ++ rest)) ∧ IsSpace space ∧
      Spells "EXISTS" text := by
  obtain ⟨_, mid, hphrase, h⟩ := bind_eq_some h
  obtain ⟨space, left, hblanks, h⟩ := bind_eq_some h
  obtain rfl : left = rest := congrArg Prod.snd (Option.some.inj h)
  obtain ⟨_, left₁, hif, hphrase⟩ := bind_eq_some hphrase
  obtain ⟨space₁, left₂, hblanks₁, hphrase⟩ := bind_eq_some hphrase
  obtain ⟨_, left₃, hnot, hphrase⟩ := bind_eq_some hphrase
  obtain ⟨space₂, left₄, hblanks₂, hexists⟩ := bind_eq_some hphrase
  obtain ⟨first, hfirst, _⟩ := keyword_eq_some hif
  obtain ⟨second, hsecond, _⟩ := keyword_eq_some hnot
  obtain ⟨third, hthird, hspells⟩ := keyword_eq_some hexists
  obtain ⟨hsplit, hspace, _⟩ := blanks_eq_some hblanks
  obtain ⟨hsplit₁, _, _⟩ := blanks_eq_some hblanks₁
  obtain ⟨hsplit₂, _, _⟩ := blanks_eq_some hblanks₂
  refine ⟨first ++ (space₁ ++ (second ++ space₂)), space, third, ?_, hspace, hspells⟩
  rw [hfirst, hsplit₁, hsecond, hsplit₂, hthird, hsplit]
  simp only [List.append_assoc]

theorem opensName_of_word {word : String} (hword : word ∈ ["TABLE", "EXISTS"])
    {lead text space : List Char} (htext : Spells word text) (hspace : IsSpace space) :
    OpensName (lead ++ (text ++ space)) :=
  ⟨lead ++ text, space, by simp, hspace.blank,
    .inr ⟨hspace.ne_nil, word, hword, text, List.suffix_append lead text, htext⟩⟩

theorem opensName_of_dot {lead blanks : List Char} (hblanks : AllBlank blanks) :
    OpensName (lead ++ '.' :: blanks) :=
  ⟨lead ++ ['.'], blanks, by simp, hblanks, .inl (by simp)⟩

/-- The name of a created table is read after words that open one and before a parenthesis. -/
theorem createTable_eq_some {cs name : List Char} (h : createTable cs = some (name, rest)) :
    ∃ lead gap, cs = lead ++ (name ++ (gap ++ rest)) ∧ OpensName lead ∧ AllBlank gap ∧
      qualifiedName (name ++ (gap ++ rest)) = some (name, gap ++ rest) ∧ rest.head? = some '(' := by
  rw [createTable_eq] at h
  obtain ⟨_, left₁, hcreate, h⟩ := bind_eq_some h
  obtain ⟨space₁, left₂, hblanks₁, h⟩ := bind_eq_some h
  obtain ⟨_, left₃, hscope, h⟩ := bind_eq_some h
  obtain ⟨_, left₄, hlifetime, h⟩ := bind_eq_some h
  obtain ⟨_, left₅, htable, h⟩ := bind_eq_some h
  obtain ⟨space, left₆, hblanks, h⟩ := bind_eq_some h
  obtain ⟨_, left₇, hcondition, h⟩ := bind_eq_some h
  obtain ⟨path, left₈, hpath, h⟩ := bind_eq_some h
  obtain ⟨gap, left₉, hgap, h⟩ := bind_eq_some h
  -- the lookahead: the name counts only when a parenthesis follows it
  have hopen : left₉.head? = some '(' ∧ path = name ∧ left₉ = rest := by
    by_cases hhead : left₉.head? = some '('
    · have hend := Prod.mk.inj (Option.some.inj ((if_pos hhead).symm.trans h))
      exact ⟨hhead, hend⟩
    · exact absurd ((if_neg hhead).symm.trans h) (by simp)
  obtain ⟨hhead, rfl, rfl⟩ := hopen
  have hsuffix : left₄ <:+ cs := by
    obtain ⟨rfl, _, _⟩ := blanks_eq_some hblanks₁
    have hcreate' := (List.suffix_append space₁ left₂).trans (keyword_suffix hcreate)
    have hscope' : left₃ <:+ left₂ := (optional_eq_some hscope).elim
      (fun heq => heq ▸ List.suffix_refl _) wordAndBlanks_suffix
    have hlifetime' : left₄ <:+ left₃ := (optional_eq_some hlifetime).elim
      (fun heq => heq ▸ List.suffix_refl _) wordAndBlanks_suffix
    exact hlifetime'.trans (hscope'.trans hcreate')
  obtain ⟨pre, rfl⟩ := hsuffix
  obtain ⟨text, rfl, htext⟩ := keyword_eq_some htable
  obtain ⟨rfl, hspace, _⟩ := blanks_eq_some hblanks
  -- either the word for a table comes before the name, or the condition does
  obtain ⟨lead, hlead, hopens⟩ : ∃ lead, pre ++ (text ++ (space ++ left₆)) = lead ++ left₇ ∧
      OpensName lead := by
    rcases optional_eq_some hcondition with rfl | hread
    · exact ⟨pre ++ (text ++ space), by simp, opensName_of_word (by simp) htext hspace⟩
    · obtain ⟨before, space', word, rfl, hspace', hword⟩ := condition_eq_some hread
      exact ⟨(pre ++ (text ++ (space ++ before))) ++ (word ++ space'), by simp,
        opensName_of_word (by simp) hword hspace'⟩
  obtain ⟨hpathSplit, _⟩ := qualifiedName_eq_some hpath
  obtain ⟨hgapSplit, hblank⟩ := gap_eq_some hgap
  rw [hgapSplit] at hpathSplit
  rw [hpathSplit] at hpath hlead
  rw [hgapSplit] at hpath
  exact ⟨lead, gap, hlead, hopens, hblank, hpath, hhead⟩

/-- Whatever is read as the start of a created table ends in its name before a parenthesis. -/
theorem endsInName_of_createTable {cs name : List Char} (h : createTable cs = some (name, rest)) :
    ∃ before, cs = before ++ rest ∧ EndsInName before ∧ rest.head? = some '(' := by
  obtain ⟨lead, gap, rfl, hopens, hblank, hpath, hhead⟩ := createTable_eq_some h
  obtain ⟨_, before, part, name', rfl, hpart, hbefore⟩ := qualifiedName_eq_some hpath
  refine ⟨lead ++ (before ++ (part ++ gap)), by simp only [List.append_assoc], ?_, hhead⟩
  rcases hbefore with rfl | ⟨start, after, rfl, hafter⟩
  · exact ⟨lead, part, name', gap, by simp, hopens, hpart, hblank⟩
  · exact ⟨(lead ++ start) ++ '.' :: after, part, name', gap, by simp,
      opensName_of_dot hafter, hpart, hblank⟩

theorem EndsInName.append_left {cs : List Char} (h : EndsInName cs) (start : List Char) :
    EndsInName (start ++ cs) := by
  obtain ⟨_, part, name, gap, rfl, ⟨opening, blanks, rfl, hblanks, hopening⟩, hpart, hgap⟩ := h
  refine ⟨start ++ (opening ++ blanks), part, name, gap, by simp, ?_, hpart, hgap⟩
  refine ⟨start ++ opening, blanks, by simp, hblanks, ?_⟩
  rcases hopening with hdot | ⟨hne, word, hword, text, htext, hspells⟩
  · exact .inl (by rw [List.getLast?_append, hdot]; rfl)
  · exact .inr ⟨hne, word, hword, text, htext.trans (List.suffix_append start opening), hspells⟩

/-- No table is created in a text none of whose parentheses comes after a name of one. -/
theorem readTable_eq_none {cs : List Char}
    (h : ∀ before rest, cs = before ++ '(' :: rest → ¬EndsInName before) :
    readTable cs = ⟨none, []⟩ := by
  have hsearch : search createTable cs = none := by
    refine search_eq_none_iff.mpr fun start after hsplit => ?_
    -- a readable head would end in a name right before an opening parenthesis
    cases hread : createTable after with
    | none => rfl
    | some found =>
      obtain ⟨before, hbefore, hends, hhead⟩ := endsInName_of_createTable hread
      obtain ⟨rest, hrest⟩ := List.head?_eq_some_iff.mp hhead
      have hcs : cs = (start ++ before) ++ '(' :: rest := by
        rw [hsplit, hbefore, hrest, List.append_assoc]
      exact absurd (hends.append_left start) (h _ _ hcs)
  rw [readTable, hsearch]

end SchemaDraft.Script
