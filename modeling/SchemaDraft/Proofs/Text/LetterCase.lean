import Mathlib.Data.Nat.Bitwise
import SchemaDraft.Text.LetterCase

/-!
Lower case is final: a text in lower case stays as it is (`lower_lower`), and lowering brings in no
mark, digit or capital of the Latin alphabet that was not there before (`mem_of_mem_lower`). Both
are read off the table of letter runs. That no small form is itself a letter with a small form is
one comparison of two numbers, whose bits are the letters and their small forms.
-/

namespace SchemaDraft.Text

/-! ### The table -/

/-- The letters of a run. -/
def CaseRun.letters (run : CaseRun) : List Nat :=
  (List.range ((run.last - run.first) / run.step + 1)).map fun k => run.first + k * run.step

/-- What a run maps its letters to. -/
def CaseRun.images (run : CaseRun) : List Nat :=
  run.letters.map fun n : Nat => ((n : Int) + run.shift).toNat

/-- A set of code points as the bits of a number. -/
def codeMask (codes : List Nat) : Nat := codes.foldr (fun n mask => mask ||| 2 ^ n) 0

theorem testBit_codeMask {n : Nat} {codes : List Nat} (h : n ∈ codes) :
    (codeMask codes).testBit n = true := by
  induction codes with
  | nil => exact absurd h (by simp)
  | cons m codes ih =>
    rw [codeMask, List.foldr_cons, Nat.testBit_or]
    rcases List.mem_cons.mp h with rfl | hn
    · rw [Nat.testBit_two_pow_self, Bool.or_true]
    · rw [← codeMask, ih hn, Bool.true_or]

theorem disjoint_of_codeMask {ms ns : List Nat} (h : codeMask ms &&& codeMask ns = 0) {n : Nat}
    (hm : n ∈ ms) : n ∉ ns := by
  intro hn
  have hbit : (codeMask ms &&& codeMask ns).testBit n = true := by
    rw [Nat.testBit_and, testBit_codeMask hm, testBit_codeMask hn]; rfl
  rw [h, Nat.zero_testBit] at hbit
  exact absurd hbit (by decide)

theorem mem_letters_of_covers {run : CaseRun} {n : Nat} (h : run.covers n = true) :
    n ∈ run.letters := by
  simp only [CaseRun.covers, Bool.and_eq_true, decide_eq_true_eq, beq_iff_eq] at h
  obtain ⟨⟨hfirst, hlast⟩, hstep⟩ := h
  refine List.mem_map.mpr ⟨(n - run.first) / run.step, List.mem_range.mpr ?_, ?_⟩
  · exact Nat.lt_succ_of_le (Nat.div_le_div_right (by omega))
  · rw [Nat.div_mul_cancel (Nat.dvd_of_mod_eq_zero hstep)]; omega

/-- A letter with an image is a letter of a run, which moves it. -/
theorem image_eq_some {runs : List CaseRun} {m n : Nat} (h : CaseRun.image runs m = some n) :
    ∃ run ∈ runs, m ∈ run.letters ∧ n = ((m : Int) + run.shift).toNat := by
  induction runs with
  | nil => exact absurd h (by simp [CaseRun.image])
  | cons run runs ih =>
    unfold CaseRun.image at h
    split at h
    · exact absurd h (by simp)
    · split at h
      · rename_i hcovers
        exact ⟨run, by simp, mem_letters_of_covers hcovers, (Option.some.inj h).symm⟩
      · obtain ⟨r, hr, hm⟩ := ih h
        exact ⟨r, List.mem_cons_of_mem _ hr, hm⟩

/-- No small form is a letter with a small form, the dotted capital I included. -/
theorem lowerRuns_disjoint :
    codeMask (lowerRuns.flatMap CaseRun.images)
      &&& codeMask (0x130 :: lowerRuns.flatMap CaseRun.letters) = 0 := by
  decide +kernel

/-- Small forms are characters, and come after the Latin capitals and all marks and digits. -/
theorem lowerRuns_images :
    (lowerRuns.flatMap CaseRun.images).all (fun n => decide (97 ≤ n ∧ n.isValidChar)) = true := by
  decide +kernel

/-- The small form of a letter has no small form. -/
theorem lowerRuns_image {m n : Nat} (h : CaseRun.image lowerRuns m = some n) :
    97 ≤ n ∧ n.isValidChar ∧ n ≠ 0x130 ∧ n ≠ 0x3A3 ∧ CaseRun.image lowerRuns n = none := by
  obtain ⟨run, hrun, hm, hn⟩ := image_eq_some h
  have himage : n ∈ lowerRuns.flatMap CaseRun.images :=
    List.mem_flatMap.mpr ⟨run, hrun, List.mem_map.mpr ⟨m, hm, hn.symm⟩⟩
  have hbounds := List.all_eq_true.mp lowerRuns_images n himage
  -- one pass over the tables: no image is itself a letter with an image
  have hletter := disjoint_of_codeMask lowerRuns_disjoint himage
  rw [decide_eq_true_eq] at hbounds
  refine ⟨hbounds.1, hbounds.2, ?_, ?_, ?_⟩
  · rintro rfl; exact hletter (by simp)
  · rintro rfl; exact hletter (by decide)
  · cases hagain : CaseRun.image lowerRuns n with
    | none => rfl
    | some k =>
      obtain ⟨r, hr, hn', _⟩ := image_eq_some hagain
      exact absurd (List.mem_cons_of_mem _ (List.mem_flatMap.mpr ⟨r, hr, hn'⟩)) hletter

/-! ### Characters -/

/-- Is a character its own small form, whatever stands around it? -/
def IsSettled (c : Char) : Prop := c ≠ 'Σ' ∧ lowerChar c = [c]

theorem toNat_ofNat {n : Nat} (h : n.isValidChar) : (Char.ofNat n).toNat = n := by
  rw [Char.ofNat, dif_pos h]; rfl

theorem isSettled_of_image {n : Nat} (hvalid : n.isValidChar) (hI : n ≠ 0x130) (hS : n ≠ 0x3A3)
    (h : CaseRun.image lowerRuns n = none) : IsSettled (Char.ofNat n) := by
  have hn : (Char.ofNat n).toNat = n := toNat_ofNat hvalid
  refine ⟨fun hc => hS ?_, ?_⟩
  · rw [← hn, hc]; rfl
  · have hdotted : Char.ofNat n ≠ '\u0130' := fun hc => hI (by rw [← hn, hc]; rfl)
    rw [lowerChar, if_neg hdotted, hn, h]

/-- Small forms are settled, and none is a mark, a digit or a Latin capital unless it is the
character itself. -/
theorem lowerChar_spec (c : Char) (hc : c ≠ 'Σ') :
    lowerChar c ≠ [] ∧ ∀ d ∈ lowerChar c, IsSettled d ∧
      (d.toNat < 97 → lowerChar c = [c] ∧ d = c) := by
  unfold lowerChar
  split
  · refine ⟨by simp, ?_⟩
    intro d hd
    rcases List.mem_cons.mp hd with rfl | hd
    · exact ⟨⟨by decide, by decide⟩, fun h => absurd h (by decide)⟩
    · obtain rfl : d = '\u0307' := by simpa using hd
      exact ⟨⟨by decide, by decide⟩, fun h => absurd h (by decide)⟩
  · rename_i hdotted
    cases himage : CaseRun.image lowerRuns c.toNat with
    | some n =>
      obtain ⟨hlow, hvalid, hI, hS, hnone⟩ := lowerRuns_image himage
      refine ⟨by simp, fun d hd => ?_⟩
      obtain rfl : d = Char.ofNat n := by simpa using hd
      refine ⟨isSettled_of_image hvalid hI hS hnone, fun h => absurd h ?_⟩
      rw [toNat_ofNat hvalid]; omega
    | none =>
      refine ⟨by simp, fun d hd => ?_⟩
      obtain rfl : d = c := by simpa using hd
      refine ⟨⟨hc, ?_⟩, fun _ => ⟨rfl, rfl⟩⟩
      rw [lowerChar, if_neg hdotted, himage]

/-! ### Texts -/

/-- The first character of a text makes the first piece of its lower case. -/
theorem lowerFrom_cons (before : Bool) (c : Char) (cs : List Char) :
    ∃ piece, lowerFrom before (c :: cs) = piece ++ lowerFrom (casedAfter before c) cs ∧
      piece ≠ [] ∧ ∀ d ∈ piece, IsSettled d ∧ (d.toNat < 97 → piece = [c] ∧ d = c) := by
  by_cases hc : c = 'Σ'
  · refine ⟨[if before && !startsCased cs then 'ς' else 'σ'], ?_, by simp, ?_⟩
    · rw [lowerFrom, if_pos hc]
    · have hfinal : IsSettled 'ς' := ⟨by decide, by decide⟩
      have hmedial : IsSettled 'σ' := ⟨by decide, by decide⟩
      intro d hd
      rw [List.mem_singleton] at hd
      split at hd
      · subst hd; exact ⟨hfinal, fun h => absurd h (by decide)⟩
      · subst hd; exact ⟨hmedial, fun h => absurd h (by decide)⟩
  · obtain ⟨hne, hspec⟩ := lowerChar_spec c hc
    exact ⟨lowerChar c, by rw [lowerFrom, if_neg hc], hne, hspec⟩

theorem isSettled_of_mem_lowerFrom {before : Bool} {cs : List Char} {d : Char}
    (h : d ∈ lowerFrom before cs) : IsSettled d := by
  induction cs generalizing before with
  | nil => exact absurd h (by simp [lowerFrom])
  | cons c cs ih =>
    obtain ⟨piece, hpiece, _, hspec⟩ := lowerFrom_cons before c cs
    rw [hpiece] at h
    rcases List.mem_append.mp h with hd | hd
    · exact (hspec d hd).1
    · exact ih hd

theorem lowerFrom_of_settled {before : Bool} {cs : List Char} (h : ∀ c ∈ cs, IsSettled c) :
    lowerFrom before cs = cs := by
  induction cs generalizing before with
  | nil => rfl
  | cons c cs ih =>
    obtain ⟨hsigma, hlower⟩ := h c (by simp)
    rw [lowerFrom, if_neg hsigma, hlower, ih fun d hd => h d (List.mem_cons_of_mem _ hd)]
    rfl

/-- Lower case is final. -/
@[simp]
theorem lower_lower (cs : List Char) : lower (lower cs) = lower cs :=
  lowerFrom_of_settled fun _ h => isSettled_of_mem_lowerFrom h

/-- Lowering brings in no mark, no digit and no Latin capital. -/
theorem mem_of_mem_lower {d : Char} {cs : List Char} (hd : d.toNat < 97) (h : d ∈ lower cs) :
    d ∈ cs := by
  suffices hfrom : ∀ before, d ∈ lowerFrom before cs → d ∈ cs from hfrom false h
  clear h
  induction cs with
  | nil => intro before h; exact absurd h (by simp [lowerFrom])
  | cons c cs ih =>
    intro before h
    obtain ⟨piece, hpiece, _, hspec⟩ := lowerFrom_cons before c cs
    rw [hpiece] at h
    rcases List.mem_append.mp h with hmem | hmem
    · rw [((hspec d hmem).2 hd).2]; exact List.mem_cons_self
    · exact List.mem_cons_of_mem _ (ih _ hmem)

/-- A character that is its own small form stays. -/
theorem mem_lower_of_mem {d : Char} {cs : List Char} (hd : IsSettled d) (h : d ∈ cs) :
    d ∈ lower cs := by
  suffices hfrom : ∀ before, d ∈ lowerFrom before cs from hfrom false
  induction cs with
  | nil => exact absurd h (by simp)
  | cons c cs ih =>
    intro before
    rw [lowerFrom]
    rcases List.mem_cons.mp h with rfl | h
    · rw [if_neg hd.1, hd.2]
      exact List.mem_append_left _ List.mem_cons_self
    · exact List.mem_append_right _ (ih h _)

theorem lower_ne_nil {cs : List Char} (h : cs ≠ []) : lower cs ≠ [] := by
  obtain ⟨c, cs, rfl⟩ := List.exists_cons_of_ne_nil h
  obtain ⟨piece, hpiece, hne, _⟩ := lowerFrom_cons false c cs
  rw [lower, hpiece]
  exact fun hnil => hne (List.append_eq_nil_iff.mp hnil).1

end SchemaDraft.Text
