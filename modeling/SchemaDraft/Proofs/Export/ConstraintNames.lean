import Mathlib.Data.List.Pairwise
import SchemaDraft.Proofs.Export.Delimited
import SchemaDraft.Proofs.Export.ReadKeys
import SchemaDraft.Proofs.Number.Digits

/-!
When two foreign keys of a table get the same constraint name. Equal joined names are told apart by
a number, and names that are too long by the start of their digest. That leaves two ways to clash,
and there is no other (`pairwise_constraintNames_iff`): the joined names of one key may be those of
another with a number already behind them, and a name that fits may look like a longer one that was
cut. It makes no difference whether the names are looked up among the keys of a drawing or read from
its script (`addedNamesDiffer_iff`).
-/

namespace SchemaDraft.Export

open Text Number

/-! ### Numbered keys -/

/-- Each foreign key with the number of those before it whose names join to the same text, `seen`
being the joined names so far. -/
def numberKeysFrom (seen : List (List Char)) : List ForeignKey → List (ForeignKey × Nat)
  | [] => []
  | k :: ks => (k, seen.count (constraintBase k)) :: numberKeysFrom (constraintBase k :: seen) ks

/-- The foreign keys of a drawing, numbered. -/
def numberedKeys (s : Schema) : List (ForeignKey × Nat) := numberKeysFrom [] (relationKeys s)

/-- The name of a numbered foreign key before it is made to fit. -/
def fullName (p : ForeignKey × Nat) : List Char := withNumber (constraintBase p.1) p.2

theorem nameKeysFrom_eq (seen : List (List Char)) (ks : List ForeignKey) :
    nameKeysFrom seen ks = (numberKeysFrom seen ks).map fun p => (p.1, fitName (fullName p)) := by
  induction ks generalizing seen with
  | nil => rfl
  | cons k ks ih => rw [nameKeysFrom, numberKeysFrom, List.map_cons, ih, fullName]

theorem count_le_of_mem {seen : List (List Char)} {ks : List ForeignKey} {p : ForeignKey × Nat}
    (h : p ∈ numberKeysFrom seen ks) : seen.count (constraintBase p.1) ≤ p.2 := by
  induction ks generalizing seen with
  | nil => exact absurd h (by simp [numberKeysFrom])
  | cons k ks ih =>
    rcases List.mem_cons.mp h with rfl | h
    · exact le_refl _
    · exact (List.count_le_count_cons ..).trans (ih h)

/-- Keys whose names join to the same text have different numbers. -/
theorem pairwise_numberKeysFrom (seen : List (List Char)) (ks : List ForeignKey) :
    (numberKeysFrom seen ks).Pairwise fun p q =>
      ¬(constraintBase p.1 = constraintBase q.1 ∧ p.2 = q.2) := by
  induction ks generalizing seen with
  | nil => exact List.Pairwise.nil
  | cons k ks ih =>
    refine List.Pairwise.cons (fun q hq => ?_) (ih _)
    rintro ⟨hbase, hnumber⟩
    have hcount := count_le_of_mem hq
    simp only at hbase hnumber
    rw [← hbase, List.count_cons_self] at hcount
    omega

/-! ### Names before they are made to fit -/

/-- Is the name of `p` without a number that of `q` with its number? -/
def IsNumberedAs (p q : ForeignKey × Nat) : Prop :=
  p.2 = 0 ∧ q.2 ≠ 0 ∧ constraintBase p.1 = fullName q

theorem withNumber_zero (base : List Char) : withNumber base 0 = base := rfl

theorem withNumber_of_ne_zero {n : Nat} (hn : n ≠ 0) (base : List Char) :
    withNumber base n = base ++ '_' :: natText (n + 1) := if_neg hn

/-- A number that is written after an underscore can be read off. -/
theorem eq_of_withNumber_eq {base base' : List Char} {m n : Nat} (hm : m ≠ 0) (hn : n ≠ 0)
    (h : withNumber base m = withNumber base' n) : base = base' ∧ m = n := by
  rw [withNumber_of_ne_zero hm, withNumber_of_ne_zero hn] at h
  have hbase : base = base' :=
    eq_of_append_cons h (underscore_notMem_natText _) (underscore_notMem_natText _)
  subst hbase
  have hdigits := (List.cons.inj (List.append_cancel_left h)).2
  exact ⟨rfl, Nat.succ.inj (natText_injective hdigits)⟩

theorem IsNumberedAs.fullName_eq {p q : ForeignKey × Nat} (h : IsNumberedAs p q) :
    fullName p = fullName q := by
  obtain ⟨hzero, _, hbase⟩ := h
  rw [← hbase, fullName, hzero, withNumber_zero]

theorem fullName_eq_iff {p q : ForeignKey × Nat}
    (hdiffer : ¬(constraintBase p.1 = constraintBase q.1 ∧ p.2 = q.2)) :
    fullName p = fullName q ↔ IsNumberedAs p q ∨ IsNumberedAs q p := by
  constructor
  · intro h
    -- equal names need one name with a number and one without
    by_cases hp : p.2 = 0
    · by_cases hq : q.2 = 0
      · rw [fullName, fullName, hp, hq, withNumber_zero, withNumber_zero] at h
        exact absurd ⟨h, hp.trans hq.symm⟩ hdiffer
      · refine .inl ⟨hp, hq, ?_⟩
        rwa [fullName, hp, withNumber_zero] at h
    · by_cases hq : q.2 = 0
      · refine .inr ⟨hq, hp, ?_⟩
        rw [fullName.eq_1 q, hq, withNumber_zero] at h
        exact h.symm
      · exact absurd (eq_of_withNumber_eq hp hq h) hdiffer
  · rintro (h | h)
    · exact h.fullName_eq
    · exact h.fullName_eq.symm

/-! ### Names that are made to fit -/

/-- Does a name fit as it is? -/
def Fits (cs : List Char) : Prop := utf8Length cs ≤ maxIdentifierBytes

instance (cs : List Char) : Decidable (Fits cs) :=
  inferInstanceAs (Decidable (utf8Length cs ≤ maxIdentifierBytes))

theorem fitName_of_fits {cs : List Char} (h : Fits cs) : fitName cs = cs := if_pos h

theorem fitName_of_not_fits {cs : List Char} (h : ¬Fits cs) :
    fitName cs = fittingStart (maxIdentifierBytes - markLength - 1) cs ++ '_' :: mark cs := if_neg h

/-- Does a name that fits look like the start and the mark of one that does not? -/
def IsCutTo (cs ds : List Char) : Prop := Fits cs ∧ ¬Fits ds ∧ cs = fitName ds

theorem IsCutTo.fitName_eq {cs ds : List Char} (h : IsCutTo cs ds) : fitName cs = fitName ds :=
  (fitName_of_fits h.1).trans h.2.2

/-- Do the marks tell apart all of some names that do not fit? -/
def MarksDiffer (names : List (List Char)) : Prop :=
  ∀ cs ∈ names, ∀ ds ∈ names, ¬Fits cs → ¬Fits ds → cs ≠ ds → mark cs ≠ mark ds

/-- A cut name ends in its mark. -/
theorem mark_eq_of_fitName_eq {cs ds : List Char} (hcs : ¬Fits cs) (hds : ¬Fits ds)
    (h : fitName cs = fitName ds) : mark cs = mark ds := by
  have hlength : ('_' :: mark cs).length = ('_' :: mark ds).length := by simp [mark]
  rw [fitName_of_not_fits hcs, fitName_of_not_fits hds] at h
  exact (List.cons.inj (List.append_inj' h hlength).2).2

theorem fitName_eq_iff {names : List (List Char)} (hmarks : MarksDiffer names) {cs ds : List Char}
    (hcs : cs ∈ names) (hds : ds ∈ names) :
    fitName cs = fitName ds ↔ cs = ds ∨ IsCutTo cs ds ∨ IsCutTo ds cs := by
  constructor
  · intro h
    -- a name that fits stays, and one that does not ends in its mark
    by_cases hc : Fits cs
    · rw [fitName_of_fits hc] at h
      by_cases hd : Fits ds
      · exact .inl (h.trans (fitName_of_fits hd))
      · exact .inr (.inl ⟨hc, hd, h⟩)
    · by_cases hd : Fits ds
      · rw [fitName_of_fits hd] at h
        exact .inr (.inr ⟨hd, hc, h.symm⟩)
      · refine .inl (Classical.byContradiction fun hne => ?_)
        exact hmarks cs hcs ds hds hc hd hne (mark_eq_of_fitName_eq hc hd h)
  · rintro (rfl | h | h)
    · rfl
    · exact h.fitName_eq
    · exact h.fitName_eq.symm

/-! ### Constraint names of one table -/

/-- Do the foreign keys of one table have different constraint names? -/
def ConstraintNamesDiffer (s : Schema) : Prop :=
  (namedKeys s).Pairwise fun p q => p.1.fromTable = q.1.fromTable → p.2 ≠ q.2

/-- Is there a pair of foreign keys of one table, one of which takes the name of the other? -/
def HasClash (s : Schema) : Prop :=
  ∃ p ∈ numberedKeys s, ∃ q ∈ numberedKeys s, p.1.fromTable = q.1.fromTable ∧
    (IsNumberedAs p q ∨ IsCutTo (fullName p) (fullName q))

instance (p q : ForeignKey × Nat) : Decidable (IsNumberedAs p q) :=
  inferInstanceAs (Decidable (p.2 = 0 ∧ q.2 ≠ 0 ∧ constraintBase p.1 = fullName q))

instance (cs ds : List Char) : Decidable (IsCutTo cs ds) :=
  inferInstanceAs (Decidable (Fits cs ∧ ¬Fits ds ∧ cs = fitName ds))

instance (names : List (List Char)) : Decidable (MarksDiffer names) :=
  inferInstanceAs
    (Decidable (∀ cs ∈ names, ∀ ds ∈ names, ¬Fits cs → ¬Fits ds → cs ≠ ds → mark cs ≠ mark ds))

instance (s : Schema) : Decidable (HasClash s) :=
  inferInstanceAs (Decidable (∃ p ∈ numberedKeys s, ∃ q ∈ numberedKeys s,
    p.1.fromTable = q.1.fromTable ∧ (IsNumberedAs p q ∨ IsCutTo (fullName p) (fullName q))))

variable {s : Schema}

theorem mem_fullNames {p : ForeignKey × Nat} (h : p ∈ numberedKeys s) :
    fullName p ∈ (numberedKeys s).map fullName := List.mem_map.mpr ⟨p, h, rfl⟩

/-- Two different keys get one name exactly if one of them takes the name of the other. -/
theorem fitName_fullName_eq_iff (hmarks : MarksDiffer ((numberedKeys s).map fullName))
    {p q : ForeignKey × Nat} (hp : p ∈ numberedKeys s) (hq : q ∈ numberedKeys s)
    (hdiffer : ¬(constraintBase p.1 = constraintBase q.1 ∧ p.2 = q.2)) :
    fitName (fullName p) = fitName (fullName q) ↔
      (IsNumberedAs p q ∨ IsCutTo (fullName p) (fullName q)) ∨
        (IsNumberedAs q p ∨ IsCutTo (fullName q) (fullName p)) := by
  rw [fitName_eq_iff hmarks (mem_fullNames hp) (mem_fullNames hq), fullName_eq_iff hdiffer]
  tauto

theorem not_same_of_clash {p q : ForeignKey × Nat}
    (h : IsNumberedAs p q ∨ IsCutTo (fullName p) (fullName q)) : p ≠ q := by
  rintro rfl
  rcases h with ⟨hzero, hne, _⟩ | ⟨hfits, hlong, _⟩
  · exact hne hzero
  · exact hlong hfits

/-! ### Names read from a script -/

/-- Do the statements that a script adds keys with carry different constraint names, the second of
their names, if their tables, the first ones, are the same? -/
def AddedNamesDiffer (ls : List Lexeme) : Prop :=
  ((additions ls).map namesOf).Pairwise fun names names' =>
    names[0]? = names'[0]? → names[1]? ≠ names'[1]?

theorem map_namesOf_additions {ls : List Lexeme}
    (h : List.Forall₂ (fun p statement => Follows (keyOutline p.1 p.2) statement) (namedKeys s)
      (additions ls)) :
    (additions ls).map namesOf = (namedKeys s).map fun p => (keyOutline p.1 p.2).names := by
  rw [← List.forall₂_eq_eq_eq, List.forall₂_map_left_iff, List.forall₂_map_right_iff]
  exact (h.imp fun p statement hfollows => hfollows.names).flip

/-- The names that are read are those that the keys were given. -/
theorem addedNamesDiffer_iff {ls : List Lexeme}
    (h : List.Forall₂ (fun p statement => Follows (keyOutline p.1 p.2) statement) (namedKeys s)
      (additions ls)) :
    AddedNamesDiffer ls ↔ ConstraintNamesDiffer s := by
  rw [AddedNamesDiffer, map_namesOf_additions h, List.pairwise_map, ConstraintNamesDiffer]
  simp [keyOutline, String.toList_inj]

/-! ### Clashes -/

/-- To differ in name within a table goes both ways. -/
theorem symm_fitName_ne : Std.Symm fun p q : ForeignKey × Nat =>
    p.1.fromTable = q.1.fromTable → fitName (fullName p) ≠ fitName (fullName q) :=
  ⟨fun _ _ hdiffer htable heq => hdiffer htable.symm heq.symm⟩

theorem constraintNamesDiffer_iff (hmarks : MarksDiffer ((numberedKeys s).map fullName)) :
    ConstraintNamesDiffer s ↔ ¬HasClash s := by
  have hdiffer := pairwise_numberKeysFrom [] (relationKeys s)
  rw [ConstraintNamesDiffer, namedKeys, nameKeysFrom_eq, List.pairwise_map]
  constructor
  · rintro hnames ⟨p, hp, q, hq, htable, hclash⟩
    have hsymm := symm_fitName_ne
    refine hnames.forall hp hq (not_same_of_clash hclash) htable ?_
    rcases hclash with h | h
    · rw [h.fullName_eq]
    · exact h.fitName_eq
  · intro hnone
    refine hdiffer.imp_of_mem fun hp hq hne htable heq => hnone ?_
    -- of two equal names one is taken from the other, whichever key comes first
    rcases (fitName_fullName_eq_iff hmarks hp hq hne).mp heq with hclash | hclash
    · exact ⟨_, hp, _, hq, htable, hclash⟩
    · exact ⟨_, hq, _, hp, htable.symm, hclash⟩

/-- The constraint names of each table differ exactly if no key takes the name of another, provided
that marks tell apart the names that are cut. The same goes for the names in the statements of the
script, which can be read if all types are known. -/
theorem pairwise_constraintNames_iff (hmarks : MarksDiffer ((numberedKeys s).map fullName)) :
    (ConstraintNamesDiffer s ↔ ¬HasClash s) ∧
      ((∀ t ∈ s.tables, HasKnownTypes t.spec.columns) →
        ∃ ls, lexemes (script s) = some ls ∧ (AddedNamesDiffer ls ↔ ¬HasClash s)) := by
  have hiff := constraintNamesDiffer_iff hmarks
  refine ⟨hiff, fun htypes => ?_⟩
  obtain ⟨ls, hls, hadded⟩ := exists_additions_script htypes
  exact ⟨ls, hls, (addedNamesDiffer_iff hadded).trans hiff⟩

/-- A table with relations of the given columns to columns of another table. -/
def referring (names : List (String × String)) : Schema where
  tables :=
    [⟨"t", "t", names.map fun n => ⟨⟨n.1, "integer", false, false, false⟩, n.1⟩, ⟨0, 0⟩⟩,
      ⟨"p", "p", names.map fun n => ⟨⟨n.2, "serial", true, true, true⟩, n.2⟩, ⟨0, 0⟩⟩]
  relations := names.map fun n => ⟨"r", ⟨"t", n.1⟩, ⟨"p", n.2⟩, "1:N"⟩

/-- A repeated key is told apart from its first, and two long names from one another, but not from a
key to a column that is called as if it were numbered. -/
theorem constraintNames_numbered :
    let apart := referring [("a", "id"), ("a", "id"), ("a", "id_3"),
      ("the column with a name that is far too long for a key", "to be kept"),
      ("the column with a name that is far too long for a key", "for all of it to be kept")]
    let clashing := referring [("a", "id"), ("a", "id"), ("a", "id_2")]
    (ConstraintNamesDiffer apart ∧ ∃ ls, lexemes (script apart) = some ls ∧ AddedNamesDiffer ls) ∧
      ¬ConstraintNamesDiffer clashing ∧
        ∃ ls, lexemes (script clashing) = some ls ∧ ¬AddedNamesDiffer ls := by
  intro apart clashing
  constructor
  · -- two long names with one beginning, and a column that already ends in a number
    have hnone : ¬HasClash apart := by decide +kernel
    obtain ⟨hnames, hscript⟩ := pairwise_constraintNames_iff (s := apart) (by decide +kernel)
    obtain ⟨ls, hls, hadded⟩ := hscript (by decide +kernel)
    exact ⟨hnames.mpr hnone, ls, hls, hadded.mpr hnone⟩
  · -- the name that the second relation is given is that of the third
    have hclash : HasClash clashing := by decide +kernel
    obtain ⟨hnames, hscript⟩ := pairwise_constraintNames_iff (s := clashing) (by decide +kernel)
    obtain ⟨ls, hls, hadded⟩ := hscript (by decide +kernel)
    exact ⟨fun h => hnames.mp h hclash, ls, hls, fun h => hadded.mp h hclash⟩

end SchemaDraft.Export
