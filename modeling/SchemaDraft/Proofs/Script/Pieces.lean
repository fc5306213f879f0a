import SchemaDraft.Proofs.Script.Split

/-!
Pieces joined and cut again. Texts that end outside of quotes and parentheses, and have no comma
there, come back from the cut in whatever way blanks stand around the commas between them. The other
way round, a text is cut at each comma at the top, where a walk is as good as at its start
(`splitCommas_induction`): so each piece is one piece on its own, and the text goes from piece to
piece over blanks and such commas alone (`FallsInto`). Quotes and parentheses need not be closed for
that (`splitCommas_inverse`).
-/

namespace SchemaDraft.Script

open Text

variable {cs ds part piece : List Char} {parts pieces : List (List Char)} {s : Cursor}

/-! ### Walks without a cut -/

namespace Cursor

theorem uncut_append : s.Uncut (cs ++ ds) ↔ s.Uncut cs ∧ (s.after cs).Uncut ds := by
  simp only [Uncut, scanFrom_append, List.forall_mem_append]

theorem uncut_cons {c : Char} :
    s.Uncut (c :: cs) ↔ ¬(c = ',' ∧ s.atTop = true) ∧ (s.step c).Uncut cs := by
  have hfirst : c = ',' ∧ (s.step c).atTop = true ↔ c = ',' ∧ s.atTop = true := by
    refine and_congr_right ?_
    rintro rfl
    rw [atTop_step_comma]
  simp only [Uncut, scanFrom, List.forall_mem_cons, hfirst]

theorem uncut_of_blank (h : AllBlank cs) (s : Cursor) : s.Uncut cs := by
  induction cs generalizing s with
  | nil => simp [Uncut, scanFrom]
  | cons c cs ih =>
    have hcomma : c ≠ ',' := (plain_of_isBlank (h c (by simp))).2
    exact uncut_cons.mpr
      ⟨fun hcut => hcomma hcut.1, ih (fun d hd => h d (List.mem_cons_of_mem _ hd)) _⟩

theorem atTop_after_blank (h : AllBlank cs) (s : Cursor) : (s.after cs).atTop = s.atTop := by
  induction cs generalizing s with
  | nil => rfl
  | cons c cs ih =>
    exact (ih (fun d hd => h d (List.mem_cons_of_mem _ hd)) (s.step c)).trans
      (atTop_step_blank s (h c (by simp)))

/-- Blanks before a text do not count. -/
theorem after_start_blank (h : AllBlank cs) : start.after cs = start :=
  ((Nested.of_blank h : Nested false cs).walk 0).1

/-- Either a walk meets no comma at the top, or there is a first one. -/
theorem uncut_or_exists (s : Cursor) (cs : List Char) :
    s.Uncut cs ∨ ∃ first rest, cs = first ++ ',' :: rest ∧ s.Uncut first ∧
      (s.after first).atTop = true := by
  induction cs generalizing s with
  | nil => exact .inl (by simp [Uncut, scanFrom])
  | cons c cs ih =>
    -- the first comma outside quotes and parentheses is here, or in the rest
    by_cases hcut : c = ',' ∧ s.atTop = true
    · obtain ⟨rfl, htop⟩ := hcut
      exact .inr ⟨[], cs, rfl, by simp [Uncut, scanFrom], htop⟩
    · rcases ih (s.step c) with huncut | ⟨first, rest, rfl, huncut, htop⟩
      · exact .inl (uncut_cons.mpr ⟨hcut, huncut⟩)
      · exact .inr ⟨c :: first, rest, rfl, uncut_cons.mpr ⟨hcut, huncut⟩, htop⟩

end Cursor

/-! ### Pieces put together -/

/-- Is this a piece with blanks around it? -/
def Pads (part piece : List Char) : Prop :=
  ∃ before after, AllBlank before ∧ AllBlank after ∧ part = before ++ (piece ++ after)

/-- Can a text stand between commas: is there something of it without the blanks around it, does a
walk over it end outside of quotes and parentheses, and does it meet no comma there? -/
structure IsItem (piece : List Char) : Prop where
  ne_nil : piece ≠ []
  trimmed : IsTrimmed piece
  atTop : (Cursor.start.after piece).atTop = true
  uncut : Cursor.start.Uncut piece

instance (s : Cursor) (cs : List Char) : Decidable (s.Uncut cs) :=
  inferInstanceAs (Decidable (∀ p ∈ scanFrom s cs, ¬(p.1 = ',' ∧ p.2.atTop = true)))

instance (piece : List Char) : Decidable (IsItem piece) :=
  decidable_of_iff (piece ≠ [] ∧ IsTrimmed piece ∧ (Cursor.start.after piece).atTop = true ∧
      Cursor.start.Uncut piece)
    ⟨fun h => ⟨h.1, h.2.1, h.2.2.1, h.2.2.2⟩, fun h => ⟨h.ne_nil, h.trimmed, h.atTop, h.uncut⟩⟩

/-- Blanks around an item make it no worse a part. -/
theorem Pads.uncut (h : Pads part piece) (hpiece : IsItem piece) :
    Cursor.start.Uncut part ∧ (Cursor.start.after part).atTop = true := by
  obtain ⟨before, after, hbefore, hafter, rfl⟩ := h
  rw [Cursor.uncut_append, Cursor.uncut_append, after_append, after_append,
    Cursor.after_start_blank hbefore, Cursor.atTop_after_blank hafter]
  exact ⟨⟨Cursor.uncut_of_blank hbefore _, hpiece.uncut, Cursor.uncut_of_blank hafter _⟩,
    hpiece.atTop⟩

theorem Pads.tidy_eq (h : Pads part piece) (hpiece : IsItem piece) : tidy [part] = [piece] := by
  obtain ⟨before, after, hbefore, hafter, rfl⟩ := h
  exact tidy_surrounded hbefore hafter hpiece.trimmed hpiece.ne_nil

theorem tidy_of_pads (h : List.Forall₂ Pads parts pieces)
    (hpieces : ∀ piece ∈ pieces, IsItem piece) :
    (∀ part ∈ parts, Cursor.start.Uncut part ∧ (Cursor.start.after part).atTop = true) ∧
      tidy parts = pieces := by
  induction h with
  | nil => exact ⟨by simp, rfl⟩
  | @cons part piece parts pieces hpads _ ih =>
    have hpiece := hpieces piece (by simp)
    obtain ⟨hparts, htidy⟩ := ih fun p hp => hpieces p (List.mem_cons_of_mem _ hp)
    refine ⟨List.forall_mem_cons.mpr ⟨hpads.uncut hpiece, hparts⟩, ?_⟩
    rw [tidy_cons, hpads.tidy_eq hpiece, htidy]
    rfl

/-- Items joined by commas are found again, whatever blanks stand around them. -/
theorem splitCommas_of_pads (h : List.Forall₂ Pads parts pieces)
    (hpieces : ∀ piece ∈ pieces, IsItem piece) :
    splitCommas ([','].intercalate parts) = pieces := by
  obtain ⟨hparts, htidy⟩ := tidy_of_pads h hpieces
  rw [splitCommas_join_of_uncut hparts, htidy]

/-! ### Texts cut into pieces -/

/-- A text is cut at its first comma at the top, and then what follows is cut on its own. -/
theorem splitCommas_induction {motive : List Char → List (List Char) → Prop}
    (last : ∀ cs, Cursor.start.Uncut cs → motive cs (tidy [cs]))
    (comma : ∀ first rest, Cursor.start.Uncut first → (Cursor.start.after first).atTop = true →
      motive rest (splitCommas rest) →
        motive (first ++ ',' :: rest) (tidy [first] ++ splitCommas rest))
    (cs : List Char) : motive cs (splitCommas cs) := by
  -- by induction on the length, as the rest after a comma is no direct part of the text
  induction hlength : cs.length using Nat.strong_induction_on generalizing cs with
  | _ length ih =>
    rcases Cursor.uncut_or_exists .start cs with huncut | ⟨first, rest, rfl, huncut, htop⟩
    · rw [splitCommas, splitTop, huncut.piecesFrom_eq]
      exact last cs huncut
    · have hshorter : rest.length < length := by
        rw [← hlength, List.length_append, List.length_cons]
        omega
      rw [splitCommas, splitTop, huncut.piecesFrom_comma htop, tidy_cons]
      exact comma first rest huncut htop (ih rest.length hshorter rest rfl)

theorem uncut_trim (h : Cursor.start.Uncut cs) : Cursor.start.Uncut (trim cs) := by
  obtain ⟨before, after, hbefore, _, hcs⟩ := exists_trim cs
  rw [hcs, Cursor.uncut_append, Cursor.after_start_blank hbefore, Cursor.uncut_append] at h
  exact h.2.1

/-- The piece of a part, if it is not blank. -/
theorem mem_tidy_singleton : piece ∈ tidy [part] ↔ piece = trim part ∧ piece ≠ [] := by
  simp [tidy]

theorem uncut_of_mem_splitCommas (h : piece ∈ splitCommas cs) : Cursor.start.Uncut piece := by
  induction cs using splitCommas_induction with
  | last cs huncut =>
    obtain ⟨rfl, _⟩ := mem_tidy_singleton.mp h
    exact uncut_trim huncut
  | comma first rest huncut htop ih =>
    rcases List.mem_append.mp h with h | h
    · obtain ⟨rfl, _⟩ := mem_tidy_singleton.mp h
      exact uncut_trim huncut
    · exact ih h

/-- A piece is not empty, has no blanks around it, and is one piece on its own. -/
theorem splitCommas_of_mem (h : piece ∈ splitCommas cs) :
    piece ≠ [] ∧ IsTrimmed piece ∧ splitCommas piece = [piece] := by
  have huncut := uncut_of_mem_splitCommas h
  obtain ⟨hmem, hne⟩ := List.mem_filter.mp h
  obtain ⟨part, _, rfl⟩ := List.mem_map.mp hmem
  have hne : trim part ≠ [] := by simpa using hne
  refine ⟨hne, isTrimmed_trim part, ?_⟩
  rw [splitCommas, splitTop, huncut.piecesFrom_eq, tidy_of_isTrimmed (isTrimmed_trim part) hne]

/-! ### Texts around pieces -/

/-- Do the pieces stand in a text in their order and apart from each other, with nothing but blanks
and commas at the top outside of them? `s` is the cursor before the text. -/
inductive FallsInto : Cursor → List Char → List (List Char) → Prop
  | nil {s : Cursor} : FallsInto s [] []
  | blank {s : Cursor} {c : Char} {cs : List Char} {pieces : List (List Char)} : isBlank c = true →
      FallsInto (s.step c) cs pieces → FallsInto s (c :: cs) pieces
  | comma {s : Cursor} {cs : List Char} {pieces : List (List Char)} : (s.step ',').atTop = true →
      FallsInto (s.step ',') cs pieces → FallsInto s (',' :: cs) pieces
  | piece {s : Cursor} {piece cs : List Char} {pieces : List (List Char)} : piece ≠ [] →
      FallsInto (s.after piece) cs pieces → FallsInto s (piece ++ cs) (piece :: pieces)

theorem FallsInto.gap {gap : List Char} (hgap : AllBlank gap)
    (h : FallsInto (s.after gap) cs pieces) : FallsInto s (gap ++ cs) pieces := by
  induction gap generalizing s with
  | nil => exact h
  | cons c gap ih =>
    exact .blank (hgap c (by simp)) (ih (fun d hd => hgap d (List.mem_cons_of_mem _ hd)) h)

/-- What stands between two commas is a piece with blanks around it, or blank. -/
theorem FallsInto.padded (part : List Char) (h : FallsInto (s.after part) cs pieces) :
    FallsInto s (part ++ cs) (tidy [part] ++ pieces) := by
  obtain ⟨before, after, hbefore, hafter, hpart⟩ := exists_trim part
  have htext : part ++ cs = before ++ (trim part ++ (after ++ cs)) := by
    conv_lhs => rw [hpart]
    simp only [List.append_assoc]
  rw [hpart, after_append, after_append] at h
  rw [htext]
  refine .gap hbefore ?_
  -- a blank part is a gap only; any other is a piece between two gaps
  by_cases hblank : trim part = []
  · have htidy : tidy [part] = [] := by simp [tidy, hblank]
    rw [hblank] at h
    rw [hblank, htidy, List.nil_append]
    exact .gap hafter h
  · have htidy : tidy [part] = [trim part] := by simp [tidy, hblank]
    rw [htidy]
    exact .piece hblank (.gap hafter h)

theorem fallsInto_splitCommas (cs : List Char) : FallsInto .start cs (splitCommas cs) := by
  induction cs using splitCommas_induction with
  | last cs huncut =>
    have hlast : FallsInto (Cursor.start.after cs) [] [] := .nil
    simpa using hlast.padded cs
  | comma first rest huncut htop ih =>
    refine .padded first (.comma ?_ ?_)
    · rwa [Cursor.atTop_step_comma]
    · rwa [Cursor.step_comma htop]

/-- Items with blanks around them and commas between them are what the text is cut into. And what
any text is cut into are pieces that are not empty, have no blanks around them and are cut no
further, and that stand in the text in order with only blanks and commas outside of quotes and
parentheses around them. -/
theorem splitCommas_inverse :
    (∀ parts pieces, List.Forall₂ Pads parts pieces → (∀ piece ∈ pieces, IsItem piece) →
        splitCommas ([','].intercalate parts) = pieces) ∧
      ∀ cs, FallsInto .start cs (splitCommas cs) ∧
        ∀ piece ∈ splitCommas cs, piece ≠ [] ∧ IsTrimmed piece ∧ splitCommas piece = [piece] :=
  ⟨fun _ _ => splitCommas_of_pads,
    fun cs => ⟨fallsInto_splitCommas cs, fun _ => splitCommas_of_mem⟩⟩

/-- Items with a parenthesis that has no partner, with a comma and a backslash in quotes, and with a
backslash at the end. -/
def looseItems : List (List Char) := ["a)".toList, "'x, \\', y'".toList, "f (a, b) \\".toList]

/-- The items joined and cut again, and a text cut that leaves a parenthesis and a quote open. -/
theorem splitCommas_inverse_loose :
    let parts := [" a)\n".toList, "'x, \\', y'".toList, "\tf (a, b) \\  ".toList]
    let cut := ["a )".toList, "(b, 'c,".toList]
    List.Forall₂ Pads parts looseItems ∧ (∀ piece ∈ looseItems, IsItem piece) ∧
      splitCommas ([','].intercalate parts) = looseItems ∧
      splitCommas " a ), ,(b, 'c,".toList = cut ∧ FallsInto .start " a ), ,(b, 'c,".toList cut ∧
      ∀ piece ∈ cut, splitCommas piece = [piece] := by
  intro parts cut
  have hpads : List.Forall₂ Pads parts looseItems :=
    .cons ⟨[' '], ['\n'], by decide, by decide, rfl⟩ (.cons ⟨[], [], by decide, by decide, rfl⟩
      (.cons ⟨['\t'], "  ".toList, by decide, by decide, rfl⟩ .nil))
  have hitems : ∀ piece ∈ looseItems, IsItem piece := by decide +kernel
  have hcut : splitCommas " a ), ,(b, 'c,".toList = cut := by decide +kernel
  obtain ⟨hjoin, hback⟩ := splitCommas_inverse
  obtain ⟨hfalls, hpieces⟩ := hback " a ), ,(b, 'c,".toList
  rw [hcut] at hfalls hpieces
  exact ⟨hpads, hitems, hjoin parts looseItems hpads hitems, hcut, hfalls,
    fun piece hpiece => (hpieces piece hpiece).2.2⟩

end SchemaDraft.Script
