import Mathlib.Logic.Relation
import SchemaDraft.Proofs.Script.QuoteMarks
import SchemaDraft.Proofs.Text.Collapse

/-!
A type may be spelled in many ways: in capitals or small letters, with blanks of any width, with
arguments in parentheses. None of this counts (`ofText_of_respelled`). With arguments a word of the
vocabulary is a word of it no longer, and what stands before them may end in a blank, but neither
makes a difference to the rules (`ofText_append_mark`). The small form of a sigma depends on the
characters around it; up to sigmas each character is lowered on its own, blanks are left as they are
and the two cases of a Latin letter are the same.
-/

namespace SchemaDraft.ColumnType

open Text Script

/-! ### Letter case -/

/-- Only the capitals of the Latin alphabet are not their own small letters. -/
theorem toLower_cases {p : Char → Char → Prop} (hself : ∀ c, p c c)
    (hcapital : ∀ n ∈ List.range' 65 26, p (Char.ofNat n) (Char.ofNat n).toLower) (c : Char) :
    p c c.toLower := by
  by_cases hc : c.val ≥ 'A'.val ∧ c.val ≤ 'Z'.val
  · have hletter := hcapital c.toNat (List.mem_range'_1.mpr ⟨hc.1, Nat.lt_succ_of_le hc.2⟩)
    rwa [Char.ofNat_toNat] at hletter
  · have hlower : c.toLower = c := dif_neg hc
    rw [hlower]
    exact hself c

theorem keepsBlanks_toLower : KeepsBlanks Char.toLower where
  blank := toLower_cases (p := fun c d => isBlank d = isBlank c) (fun _ => rfl) (by decide +kernel)
  space := by decide
  only_space := toLower_cases (p := fun c d => d = ' ' → c = ' ') (fun _ h => h) (by decide +kernel)

theorem evenLower_toLower (c : Char) : evenLower c.toLower = evenLower c :=
  toLower_cases (p := fun c d => evenLower d = evenLower c) (fun _ => rfl) (by decide +kernel) c

/-! ### Blanks -/

theorem evenLower_of_isBlank {c : Char} (h : isBlank c = true) : evenLower c = [c] := by
  have hranges : ∀ range ∈ blankRanges, ∀ k ≤ range.2 - range.1,
      evenLower (Char.ofNat (range.1 + k)) = [Char.ofNat (range.1 + k)] := by decide +kernel
  obtain ⟨range, hrange, hlow, hhigh⟩ := mem_of_contains h
  have hself := hranges range hrange (c.toNat - range.1) (by omega)
  rwa [Nat.add_sub_cancel' hlow, Char.ofNat_toNat] at hself

theorem flatMap_evenLower_of_blank {gap : List Char} (h : AllBlank gap) :
    gap.flatMap evenLower = gap := by
  rw [List.flatMap_congr fun c hc => evenLower_of_isBlank (h c hc)]
  exact List.flatMap_singleton' gap

/-- Between two parts of a text any gap is as good as any other. -/
theorem evenSpelling_gap {gap gap' : List Char} (hgap : AllBlank gap) (hgap' : AllBlank gap')
    (hne : gap ≠ []) (hne' : gap' ≠ []) (before after : List Char) :
    evenSpelling (before ++ gap ++ after) = evenSpelling (before ++ gap' ++ after) := by
  by_cases hbefore : AllBlank before
  · -- The gap is a part of the blanks before the text.
    have hblank : AllBlank (before ++ gap) := List.forall_mem_append.mpr ⟨hbefore, hgap⟩
    have hblank' : AllBlank (before ++ gap') := List.forall_mem_append.mpr ⟨hbefore, hgap'⟩
    rw [evenSpelling, trim_append_left hblank, evenSpelling, trim_append_left hblank']
  by_cases hafter : AllBlank after
  · -- It is a part of the blanks after it.
    have hblank : AllBlank (gap ++ after) := List.forall_mem_append.mpr ⟨hgap, hafter⟩
    have hblank' : AllBlank (gap' ++ after) := List.forall_mem_append.mpr ⟨hgap', hafter⟩
    rw [List.append_assoc, List.append_assoc, evenSpelling, trim_append_right hblank, evenSpelling,
      trim_append_right hblank']
  · rw [evenSpelling, trim_append_gap hbefore hafter, evenSpelling, trim_append_gap hbefore hafter]
    simp only [List.append_assoc, List.flatMap_append, flatMap_evenLower_of_blank hgap,
      flatMap_evenLower_of_blank hgap']
    refine collapseBlanks_append_congr ?_ _
    rw [collapseBlanks_gap hgap hne, collapseBlanks_gap hgap' hne']

/-! ### Arguments -/

/-- A type is read as far as its first parenthesis or apostrophe. The blanks before that one may
leave a space. -/
theorem ofText_append_mark {mark : Char} (hmark : mark ∈ ['(', '\'']) (before after : List Char) :
    ofText (before ++ mark :: after) = ofText before := by
  have hink : ∀ mark ∈ ['(', '\''], isBlank mark = false ∧ evenLower mark = [mark] := by
    decide +kernel
  obtain ⟨hblank, hself⟩ := hink mark hmark
  have hspelling : evenSpelling (before ++ mark :: after) =
      collapseBlanks ((trimLeft before).flatMap evenLower)
      ++ mark :: collapseBlanks ((trimRight after).flatMap evenLower) := by
    rw [evenSpelling, trim_append_cons hblank, List.flatMap_append, List.flatMap_cons, hself,
      List.singleton_append, collapseBlanks_append_cons hblank]
  obtain ⟨gap, hgap, hbefore⟩ := exists_trimRight (trimLeft before)
  have hend := collapseBlanks_append_of_blank hgap ((trim before).flatMap evenLower)
  rw [← flatMap_evenLower_of_blank hgap, ← List.flatMap_append, trim, ← hbefore] at hend
  rw [ofText_eq_evenSpelling, hspelling, byRules_append_mark hmark, ofText_eq_evenSpelling,
    evenSpelling, trim]
  -- the blanks before the mark collapse to nothing or to one space, which no rule minds
  rcases hend with hend | hend
  · rw [hend]
  · rw [hend, byRules_append_space]

/-! ### Any way to spell a type -/

/-- A change of how a type is spelled. -/
inductive Respells : List Char → List Char → Prop where
  /-- Letters of the Latin alphabet are written as capitals or as small letters. -/
  | letters {cs ds : List Char} (hletters : cs.map Char.toLower = ds.map Char.toLower) :
    Respells cs ds
  /-- Blanks are replaced by other blanks. -/
  | gap (before after : List Char) {gap gap' : List Char} (hgap : AllBlank gap)
    (hgap' : AllBlank gap')
      (hne : gap ≠ []) (hne' : gap' ≠ []) :
        Respells (before ++ gap ++ after) (before ++ gap' ++ after)
  /-- Blanks are put around the type. -/
  | surround {before after : List Char} (hbefore : AllBlank before) (hafter : AllBlank after)
    (cs : List Char) :
      Respells cs (before ++ cs ++ after)
  /-- Arguments are given to the type, or anything else that opens a parenthesis. -/
  | arguments (cs arguments : List Char) : Respells cs (cs ++ '(' :: arguments)

theorem ofText_of_respells {cs ds : List Char} (h : Respells cs ds) : ofText cs = ofText ds := by
  cases h with
  | letters hletters =>
    rw [ofText_eq_evenSpelling, ofText_eq_evenSpelling,
      ← evenSpelling_map keepsBlanks_toLower evenLower_toLower cs, hletters,
      evenSpelling_map keepsBlanks_toLower evenLower_toLower]
  | gap before after hgap hgap' hne hne' =>
    rw [ofText_eq_evenSpelling, evenSpelling_gap hgap hgap' hne hne', ← ofText_eq_evenSpelling]
  | surround hbefore hafter =>
    rw [ofText, ofText, normalSpelling, normalSpelling, trim_append_right hafter,
      trim_append_left hbefore]
  | arguments => exact (ofText_append_mark (by decide) cs _).symm

theorem ofText_of_eqvGen {cs ds : List Char} (h : Relation.EqvGen Respells cs ds) :
    ofText cs = ofText ds := by
  induction h with
  | rel _ _ hchange => exact ofText_of_respells hchange
  | refl _ => rfl
  | symm _ _ _ ih => exact ih.symm
  | trans _ _ _ _ _ ih ih' => exact ih.trans ih'

/-- Any number of changes of the spelling, made or taken back, leave the type as it is, and a word
of the vocabulary keeps its own. -/
theorem ofText_of_respelled {cs ds : List Char} (h : Relation.EqvGen Respells cs ds) :
    ofText cs = ofText ds ∧ ∀ t : ColumnType, t.name.toList = ds → ofText cs = t := by
  have hsame : ofText cs = ofText ds := ofText_of_eqvGen h
  refine ⟨hsame, ?_⟩
  rintro t rfl
  rw [hsame, ofText_name]

theorem ofText_of_respelled_double :
    Relation.EqvGen Respells "\tDOUBLE \n Precision (53)".toList "double precision".toList ∧
      ofText "\tDOUBLE \n Precision (53)".toList = doublePrecision := by
  have hgap : Respells "double precision".toList "double \n precision".toList :=
    .gap "double".toList "precision".toList (by decide : AllBlank [' '])
      (by decide : AllBlank [' ', '\n', ' ']) (by decide) (by decide)
  have hletters : Respells "double \n precision".toList "DOUBLE \n Precision".toList :=
    .letters (by decide)
  have hsurround : Respells "DOUBLE \n Precision".toList "\tDOUBLE \n Precision ".toList :=
    .surround (by decide : AllBlank ['\t'])
      (by decide : AllBlank [' ']) "DOUBLE \n Precision".toList
  have harguments : Respells "\tDOUBLE \n Precision ".toList "\tDOUBLE \n Precision (53)".toList :=
    .arguments "\tDOUBLE \n Precision ".toList "53)".toList
  have hrespelled :
      Relation.EqvGen Respells "double precision".toList "\tDOUBLE \n Precision (53)".toList :=
    .trans _ _ _ (.rel _ _ hgap) <| .trans _ _ _ (.rel _ _ hletters) <|
      .trans _ _ _ (.rel _ _ hsurround) (.rel _ _ harguments)
  have hback := hrespelled.symm _ _
  exact ⟨hback, (ofText_of_respelled hback).2 doublePrecision rfl⟩

end SchemaDraft.ColumnType
