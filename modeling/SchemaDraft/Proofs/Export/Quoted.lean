import SchemaDraft.Export.Statements
import SchemaDraft.Proofs.Script.Split
import SchemaDraft.Proofs.Text.LetterCase

/-!
What is written around names. Text that a script is put together from makes no mark of a comment
where two pieces meet (`Quiet`), a name in quotes is nested whatever it holds, as long as no
backslash hides one of its quotes (`nested_quoteName`), and the name of a constraint is made of the
characters of the names it joins, of underscores and of digits (`mem_fitName`).
-/

namespace SchemaDraft.Export

open Text Script

variable {cs ds : List Char}

/-! ### No comments -/

/-- Does a text hold no mark of a comment, nor end one that is begun before it, and semicolons only
where they are allowed? -/
structure Quiet (semicolons : Bool) (cs : List Char) : Prop where
  dashes : Avoids '-' '-' cs
  stars : Avoids '/' '*' cs
  head : ∀ c ∈ cs.head?, c ≠ '-' ∧ c ≠ '*'
  semicolon : ';' ∈ cs → semicolons = true

instance (semicolons : Bool) (cs : List Char) : Decidable (Quiet semicolons cs) :=
  decidable_of_iff (Avoids '-' '-' cs ∧ Avoids '/' '*' cs ∧ (∀ c ∈ cs.head?, c ≠ '-' ∧ c ≠ '*') ∧
      (';' ∈ cs → semicolons = true))
    ⟨fun h => ⟨h.1, h.2.1, h.2.2.1, h.2.2.2⟩, fun h => ⟨h.dashes, h.stars, h.head, h.semicolon⟩⟩

variable {semicolons : Bool}

theorem quiet_nil : Quiet semicolons [] := by cases semicolons <;> decide

theorem Quiet.weaken (h : Quiet semicolons cs) : Quiet true cs :=
  ⟨h.dashes, h.stars, h.head, fun _ => rfl⟩

theorem Quiet.append (hcs : Quiet semicolons cs) (hds : Quiet semicolons ds) :
    Quiet semicolons (cs ++ ds) where
  dashes := hcs.dashes.append_right hds.dashes fun d hd => (hds.head d hd).1
  stars := hcs.stars.append_right hds.stars fun d hd => (hds.head d hd).2
  head := by
    intro c hc
    cases cs with
    | nil => exact hds.head c hc
    | cons d cs => exact hcs.head c hc
  semicolon := fun hmem => (List.mem_append.mp hmem).elim hcs.semicolon hds.semicolon

theorem quiet_intercalate {separator : List Char} (hseparator : Quiet semicolons separator)
    {pieces : List (List Char)} (h : ∀ piece ∈ pieces, Quiet semicolons piece) :
    Quiet semicolons (separator.intercalate pieces) := by
  induction pieces with
  | nil => exact quiet_nil
  | cons piece pieces ih =>
    have hrest := ih fun p hp => h p (List.mem_cons_of_mem _ hp)
    cases pieces with
    | nil => simpa [List.intercalate] using h piece (by simp)
    | cons next pieces =>
      rw [List.intercalate_cons_cons]
      exact ((h piece (by simp)).append hseparator).append hrest

/-- Without comments a script stays as it is. -/
theorem dropComments_of_quiet (h : Quiet semicolons cs) : dropComments cs = cs := by
  rw [dropComments, dropBlockComments_of_avoids h.stars, dropLineComments_of_avoids h.dashes]

/-! ### Quotes -/

theorem mem_doubleQuotes {c : Char} : c ∈ doubleQuotes cs ↔ c ∈ cs := by
  rw [doubleQuotes, List.mem_flatMap]
  constructor
  · rintro ⟨d, hd, hc⟩
    split at hc
    · rename_i hquote
      obtain rfl : c = '"' := by simpa using hc
      rwa [← hquote]
    · obtain rfl : c = d := by simpa using hc
      exact hd
  · intro hc
    refine ⟨c, hc, ?_⟩
    split
    · rename_i hquote; simp [hquote]
    · simp

theorem doubleQuotes_cons_quote (cs : List Char) :
    doubleQuotes ('"' :: cs) = '"' :: '"' :: doubleQuotes cs := by simp [doubleQuotes]

theorem doubleQuotes_cons {c : Char} (hc : c ≠ '"') (cs : List Char) :
    doubleQuotes (c :: cs) = c :: doubleQuotes cs := by simp [doubleQuotes, hc]

theorem doubleQuotes_append (cs ds : List Char) :
    doubleQuotes (cs ++ ds) = doubleQuotes cs ++ doubleQuotes ds := by simp [doubleQuotes]

/-- A name without quotes is written as it is. -/
theorem doubleQuotes_of_notMem (h : '"' ∉ cs) : doubleQuotes cs = cs := by
  induction cs with
  | nil => rfl
  | cons c cs ih =>
    have hc : c ≠ '"' := fun heq => h (by simp [heq])
    rw [doubleQuotes_cons hc, ih fun hmem => h (List.mem_cons_of_mem _ hmem)]

theorem head?_doubleQuotes (cs : List Char) : (doubleQuotes cs).head? = cs.head? := by
  cases cs with
  | nil => rfl
  | cons c cs =>
    by_cases hc : c = '"'
    · rw [hc, doubleQuotes_cons_quote]; rfl
    · rw [doubleQuotes_cons hc]; rfl

/-- Doubled quotes make no pair of other marks. -/
theorem avoids_doubleQuotes {a b : Char} (ha : a ≠ '"') (h : Avoids a b cs) :
    Avoids a b (doubleQuotes cs) := by
  induction cs with
  | nil => exact avoids_nil
  | cons c cs ih =>
    have hrest := ih (h.of_isInfix (List.suffix_cons c cs).isInfix)
    -- the doubling puts nothing but quotes next to other characters
    by_cases hc : c = '"'
    · have hquotes : Avoids a b ['"', '"'] := avoids_of_notMem_left (by simp [ha])
      have hlast : ∀ d ∈ ['"', '"'].getLast?, d ≠ a := by simpa using ha.symm
      rw [hc, doubleQuotes_cons_quote]
      exact hquotes.append_left hrest hlast
    · rw [doubleQuotes_cons hc]
      show Avoids a b ([c] ++ doubleQuotes cs)
      refine avoids_append.mpr ⟨avoids_singleton c, hrest, ?_⟩
      intro d hd e he
      obtain rfl : c = d := by simpa using hd
      rw [head?_doubleQuotes] at he
      obtain ⟨tail, rfl⟩ := List.head?_eq_some_iff.mp (Option.mem_def.mp he)
      exact (avoids_cons_cons.mp h).1

theorem mem_quoteName {c : Char} : c ∈ quoteName cs ↔ c = '"' ∨ c ∈ cs := by
  simp only [quoteName, List.mem_cons, List.mem_append, mem_doubleQuotes, List.not_mem_nil,
    or_false]
  exact ⟨fun h => h.elim .inl fun h => h.symm, fun h => h.elim .inl fun h => .inr (.inl h)⟩

theorem quiet_quoteName (hdashes : Avoids '-' '-' cs) (hstars : Avoids '/' '*' cs)
    (hsemicolon : ';' ∉ cs) : Quiet semicolons (quoteName cs) := by
  have hinner : ∀ {a b : Char}, a ≠ '"' → b ≠ '"' → Avoids a b cs → Avoids a b (quoteName cs) := by
    intro a b ha hb h
    have hopen : ∀ d ∈ ['"'].getLast?, d ≠ a := by simpa using ha.symm
    have hclose : ∀ d ∈ ['"'].head?, d ≠ b := by simpa using hb.symm
    have hleft : Avoids a b (['"'] ++ doubleQuotes cs) :=
      (avoids_singleton _).append_left (avoids_doubleQuotes ha h) hopen
    exact hleft.append_right (avoids_singleton _) hclose
  refine ⟨hinner (by decide) (by decide) hdashes, hinner (by decide) (by decide) hstars,
    by simp [quoteName], fun hmem => ?_⟩
  rcases mem_quoteName.mp hmem with heq | hmem
  · exact absurd heq (by decide)
  · exact absurd hmem hsemicolon

/-- A name in quotes is nested unless a backslash in it hides a quote. -/
theorem nested_quoteName {commas : Bool} (hinside : Avoids '\\' '"' cs)
    (hlast : cs.getLast? ≠ some '\\') : Nested commas (quoteName cs) := by
  -- what stands since the last quote is kept before the rest of the name
  suffices hfrom : ∀ before : List Char, '"' ∉ before → Avoids '\\' '"' (before ++ cs) →
      (before ++ cs).getLast? ≠ some '\\' →
      Nested commas ('"' :: (before ++ (doubleQuotes cs ++ ['"']))) from
    hfrom [] (by simp) hinside hlast
  clear hinside hlast
  induction cs with
  | nil =>
    intro before hbefore _ hlast
    rw [List.append_nil] at hlast
    exact .quoted hbefore hlast .nil
  | cons c cs ih =>
    intro before hbefore hinside hlast
    by_cases hc : c = '"'
    · -- the first quote of a pair closes the span, the second one opens the next
      rw [hc, doubleQuotes_cons_quote]
      have hend : before.getLast? ≠ some '\\' := fun heq =>
        (avoids_append.mp hinside).2.2 '\\' heq c (by simp) ⟨rfl, hc⟩
      have hrest : Avoids '\\' '"' ([] ++ cs) :=
        hinside.of_isInfix ⟨before ++ [c], [], by simp⟩
      refine .quoted hbefore hend (ih [] (by simp) hrest ?_)
      cases cs with
      | nil => simp
      | cons d cs => simpa [List.getLast?_append] using hlast
    · have hsplit : before ++ c :: cs = (before ++ [c]) ++ cs := by simp
      rw [hsplit] at hinside hlast
      have hnested := ih (before ++ [c]) (by simp [hbefore, Ne.symm hc]) hinside hlast
      rw [doubleQuotes_cons hc]
      simpa using hnested

/-! ### Names of constraints -/

/-- Is this a character that names of constraints have besides those of the names they join? -/
def isJoint (c : Char) : Bool := c == '_' || c.isDigit || (decide ('a' ≤ c) && decide (c ≤ 'z'))

theorem isJoint_hexDigit : ∀ n < 16, isJoint (Json.hexDigit n) = true := by decide

theorem isJoint_of_mem_mark {c : Char} (h : c ∈ mark cs) : isJoint c = true := by
  obtain ⟨shift, _, rfl⟩ := List.mem_map.mp h
  exact isJoint_hexDigit _ (Nat.mod_lt _ (by decide))

/-- A name that fits is a start of the name, and after it at most joints. -/
theorem exists_fitName (cs : List Char) :
    ∃ start joints, fitName cs = start ++ joints ∧ start <+: cs ∧
      ∀ c ∈ joints, isJoint c = true := by
  rw [fitName]
  split
  · exact ⟨cs, [], by simp, List.prefix_refl cs, by simp⟩
  · refine ⟨_, _, rfl, fittingStart_prefix _ cs, fun c hc => ?_⟩
    rcases List.mem_cons.mp hc with rfl | hc
    · decide
    · exact isJoint_of_mem_mark hc

theorem exists_withNumber (base : List Char) (earlier : Nat) :
    ∃ joints, withNumber base earlier = base ++ joints ∧ ∀ c ∈ joints, isJoint c = true := by
  rw [withNumber]
  split
  · exact ⟨[], by simp, by simp⟩
  · refine ⟨_, rfl, fun c hc => ?_⟩
    rcases List.mem_cons.mp hc with rfl | hc
    · decide
    · have hdigit := Nat.isDigit_of_mem_toDigits (by decide) (by decide) hc
      simp [isJoint, hdigit]

/-- The name of a constraint before it is made to fit and after, whatever numbers it. -/
def IsConstraintName (k : ForeignKey) (name : List Char) : Prop :=
  ∃ earlier, name = fitName (withNumber (constraintBase k) earlier)

theorem isConstraintName_of_mem {seen : List (List Char)} {ks : List ForeignKey}
    {p : ForeignKey × List Char} (h : p ∈ nameKeysFrom seen ks) : IsConstraintName p.1 p.2 := by
  induction ks generalizing seen with
  | nil => exact absurd h (by simp [nameKeysFrom])
  | cons k ks ih =>
    rcases List.mem_cons.mp h with rfl | h
    · exact ⟨_, rfl⟩
    · exact ih h

theorem map_fst_nameKeysFrom (seen : List (List Char)) (ks : List ForeignKey) :
    (nameKeysFrom seen ks).map Prod.fst = ks := by
  induction ks generalizing seen with
  | nil => rfl
  | cons k ks ih => rw [nameKeysFrom, List.map_cons, ih]

/-- The four names of a foreign key. -/
def keyNames (k : ForeignKey) : List (List Char) :=
  [k.fromTable.toList, k.fromColumn.toList, k.toTable.toList, k.toColumn.toList]

theorem constraintBase_eq (k : ForeignKey) : constraintBase k =
    "fk_".toList ++ (k.fromTable.toList ++ '_' :: (k.fromColumn.toList ++ '_' ::
      (k.toTable.toList ++ '_' :: k.toColumn.toList))) := by
  simp [constraintBase, List.intercalate]

/-- The name of a constraint is a start of the joined names, and after it at most joints. -/
theorem exists_constraintName {k : ForeignKey} {name : List Char} (h : IsConstraintName k name) :
    ∃ start joints, name = start ++ joints ∧ start <+: constraintBase k ∧
      ∀ c ∈ joints, isJoint c = true := by
  obtain ⟨earlier, rfl⟩ := h
  obtain ⟨number, hnumber, hnumberJoint⟩ := exists_withNumber (constraintBase k) earlier
  obtain ⟨start, joints, hfit, hstart, hjoints⟩ :=
    exists_fitName (withNumber (constraintBase k) earlier)
  rw [hnumber] at hstart hfit ⊢
  rw [hfit]
  obtain ⟨tail, htail⟩ := hstart
  rcases List.append_eq_append_iff.mp htail with ⟨more, hshort, _⟩ | ⟨more, rfl, hmore⟩
  · -- the cut is in the names themselves
    exact ⟨start, joints, rfl, ⟨more, hshort.symm⟩, hjoints⟩
  · -- the cut is in the number, or nothing is cut
    refine ⟨constraintBase k, more ++ joints, by simp, List.prefix_refl _, fun c hc => ?_⟩
    rcases List.mem_append.mp hc with hc | hc
    · exact hnumberJoint c (by rw [hmore]; exact List.mem_append_left _ hc)
    · exact hjoints c hc

theorem constraintName_ne_nil {k : ForeignKey} {name : List Char} (h : IsConstraintName k name) :
    name ≠ [] := by
  obtain ⟨earlier, rfl⟩ := h
  obtain ⟨number, hnumber, _⟩ := exists_withNumber (constraintBase k) earlier
  rw [hnumber, fitName, constraintBase_eq]
  split <;> simp

theorem mem_constraintName {k : ForeignKey} {name : List Char} (h : IsConstraintName k name)
    {c : Char} (hc : c ∈ name) : isJoint c = true ∨ ∃ n ∈ keyNames k, c ∈ n := by
  obtain ⟨start, joints, rfl, hstart, hjoints⟩ := exists_constraintName h
  rcases List.mem_append.mp hc with hc | hc
  · have hbase := hstart.subset hc
    have hopening : ∀ c ∈ "fk_".toList, isJoint c = true := by decide
    have hunderscore : isJoint '_' = true := by decide
    rw [constraintBase_eq] at hbase
    simp only [List.mem_append, List.mem_cons] at hbase
    rcases hbase with hc | hc | rfl | hc | rfl | hc | rfl | hc
    · exact .inl (hopening c hc)
    · exact .inr ⟨_, by simp [keyNames], hc⟩
    · exact .inl hunderscore
    · exact .inr ⟨k.fromColumn.toList, by simp [keyNames], hc⟩
    · exact .inl hunderscore
    · exact .inr ⟨k.toTable.toList, by simp [keyNames], hc⟩
    · exact .inl hunderscore
    · exact .inr ⟨k.toColumn.toList, by simp [keyNames], hc⟩
  · exact .inl (hjoints c hc)

theorem avoids_join {a b j : Char} (ha : j ≠ a) (hb : j ≠ b) (hcs : Avoids a b cs)
    (hds : Avoids a b ds) : Avoids a b (cs ++ j :: ds) := by
  have hright : Avoids a b ([j] ++ ds) :=
    (avoids_singleton j).append_left hds (by simpa using ha)
  exact hcs.append_right hright (by simpa using hb)

/-- Joining names makes no pair of marks. -/
theorem avoids_constraintName {k : ForeignKey} {name : List Char} (h : IsConstraintName k name)
    {a b : Char} (ha : isJoint a = false) (hb : isJoint b = false)
    (hnames : ∀ n ∈ keyNames k, Avoids a b n) : Avoids a b name := by
  obtain ⟨start, joints, rfl, hstart, hjoints⟩ := exists_constraintName h
  have hne : ∀ {c}, isJoint c = true → c ≠ a ∧ c ≠ b := by
    intro c hc
    exact ⟨fun heq => by simp [heq, ha] at hc, fun heq => by simp [heq, hb] at hc⟩
  obtain ⟨hna, hnb⟩ : '_' ≠ a ∧ '_' ≠ b := hne (by decide)
  -- neither mark is a joint, so both would have to be in one name
  have hbase : Avoids a b (constraintBase k) := by
    have hletters : ∀ c ∈ "fk_".toList, isJoint c = true := by decide
    have hopening : Avoids a b "fk_".toList :=
      avoids_of_notMem_left fun hmem => (hne (hletters a hmem)).1 rfl
    have hjoined : Avoids a b ("fk".toList ++ '_' :: (k.fromTable.toList ++ '_' ::
        (k.fromColumn.toList ++ '_' :: (k.toTable.toList ++ '_' :: k.toColumn.toList)))) := by
      refine avoids_join hna hnb (hopening.of_isInfix ⟨[], ['_'], rfl⟩) ?_
      refine avoids_join hna hnb (hnames _ (by simp [keyNames])) ?_
      refine avoids_join hna hnb (hnames _ (by simp [keyNames])) ?_
      exact avoids_join hna hnb (hnames _ (by simp [keyNames])) (hnames _ (by simp [keyNames]))
    rw [constraintBase_eq]
    exact hjoined
  refine (hbase.of_isInfix hstart.isInfix).append_right
    (avoids_of_notMem_left fun hmem => (hne (hjoints a hmem)).1 rfl) fun c hc => ?_
  exact (hne (hjoints c (List.mem_of_mem_head? hc))).2

end SchemaDraft.Export
