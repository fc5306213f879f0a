import SchemaDraft.Proofs.Script.Body

/-!
Text in quotes does not count for a walk. After the closing quote the walk is where it was before
the opening one, so what stands between them only keeps its place: a text is cut into the same
pieces whatever is in the quotes (`splitCommas_withSpan`), and the parenthesis that is found is the
same, moved by as much as the text in quotes is longer (`closingParenthesis_withSpan`).
-/

namespace SchemaDraft.Script

open Text

variable {cs ds front back span span' : List Char} {quote : Char} {s : Cursor} {depth i : Nat}

/-- A text with something in quotes between two parts. -/
def withSpan (front : List Char) (quote : Char) (span back : List Char) : List Char :=
  front ++ quote :: (span ++ quote :: back)

/-- Can this text stand in quotes of a kind? It holds no such quote, and no backslash comes before
the closing one. -/
structure IsSpan (quote : Char) (span : List Char) : Prop where
  quote_notMem : quote ∉ span
  last_ne : span.getLast? ≠ some '\\'

instance (quote : Char) (span : List Char) : Decidable (IsSpan quote span) :=
  decidable_of_iff (quote ∉ span ∧ span.getLast? ≠ some '\\')
    ⟨fun h => ⟨h.1, h.2⟩, fun h => ⟨h.quote_notMem, h.last_ne⟩⟩

theorem withSpan_eq (front back : List Char) : withSpan front quote span back =
    front ++ ((quote :: (span ++ [quote])) ++ back) := by
  simp [withSpan]

/-! ### Walks up to the span -/

theorem afterBackslash_after (cs : List Char) (s : Cursor) :
    (s.after cs).afterBackslash = cs.getLast?.elim s.afterBackslash fun c => decide (c = '\\') := by
  cases hlast : cs.getLast? with
  | none => rw [List.getLast?_eq_none_iff.mp hlast]; rfl
  | some c =>
    obtain ⟨cs, rfl⟩ := List.getLast?_eq_some_iff.mp hlast
    rw [after_append]
    rfl

/-- After a text that leaves its quotes and does not end with a backslash only the depth counts. -/
theorem exists_level_after (hquoted : (Cursor.start.after cs).quoted = false)
    (hlast : cs.getLast? ≠ some '\\') : ∃ depth, Cursor.start.after cs = Cursor.level depth := by
  refine ⟨_, Cursor.eq_level hquoted ?_⟩
  rw [afterBackslash_after]
  cases hl : cs.getLast? with
  | none => rfl
  | some c =>
    have hc : c ≠ '\\' := fun heq => hlast (by rw [hl, heq])
    simp [hc]

/-! ### Pieces -/

/-- What follows a text is cut on from where the walk over the text has come to: the last piece of
the text goes on, and the pieces before it stay. -/
theorem exists_piecesFrom_append (isSeparator : Char → Bool) (s : Cursor) (cs : List Char) :
    ∃ before last, last <:+ cs ∧ (before = [] → last = cs) ∧
      ∀ ds first more, piecesFrom isSeparator (s.after cs) ds = first :: more →
        piecesFrom isSeparator s (cs ++ ds) = before ++ (last ++ first) :: more := by
  induction cs generalizing s with
  | nil => exact ⟨[], [], List.suffix_refl _, fun _ => rfl, fun ds first more h => h⟩
  | cons c cs ih =>
    obtain ⟨before, last, hsuffix, hwhole, hgoes⟩ := ih (s.step c)
    have hlonger : last <:+ c :: cs := hsuffix.trans (List.suffix_cons c cs)
    -- cut here, or go on with the piece that is open: it is the first one or a later one
    by_cases hcut : (isSeparator c && (s.step c).atTop) = true
    · refine ⟨[] :: before, last, hlonger, fun hnil => absurd hnil (by simp),
        fun ds first more h => ?_⟩
      rw [List.cons_append, piecesFrom, if_pos hcut, hgoes ds first more h]
      rfl
    · cases before with
      | nil =>
        obtain rfl := hwhole rfl
        refine ⟨[], c :: last, List.suffix_refl _, fun _ => rfl, fun ds first more h => ?_⟩
        rw [List.cons_append, piecesFrom, if_neg hcut, hgoes ds first more h]
        rfl
      | cons piece before =>
        refine ⟨(c :: piece) :: before, last, hlonger, fun hnil => absurd hnil (by simp),
          fun ds first more h => ?_⟩
        rw [List.cons_append, piecesFrom, if_neg hcut, hgoes ds first more h]
        rfl

/-- A text in quotes belongs to the piece that goes on behind it. -/
theorem piecesFrom_span (hquote : quote = '\'' ∨ quote = '"') (h : IsSpan quote span)
    {first : List Char}
    {more : List (List Char)}
    (hback : piecesFrom (· == ',') (Cursor.level depth) back = first :: more) :
    piecesFrom (· == ',') (Cursor.level depth) ((quote :: (span ++ [quote])) ++ back) =
      ((quote :: (span ++ [quote])) ++ first) :: more := by
  obtain ⟨hafter, htop⟩ := walk_quoted hquote h.quote_notMem h.last_ne depth
  refine Cursor.Uncut.piecesFrom_append (fun p hp hcut => ?_) (hafter.symm ▸ hback)
  obtain rfl := htop p hp hcut.2
  rcases hquote with rfl | rfl <;> exact absurd hcut.1 (by simp)

theorem isBlank_quote (hquote : quote = '\'' ∨ quote = '"') : isBlank quote = false := by
  rcases hquote with rfl | rfl <;> decide

theorem tidy_withSpan (hquote : quote = '\'' ∨ quote = '"') (opening closing : List Char) :
    tidy [withSpan opening quote span closing] =
      [withSpan (trimLeft opening) quote span (trimRight closing)] := by
  have hblank := isBlank_quote hquote
  have htrim : trim (withSpan opening quote span closing) =
      withSpan (trimLeft opening) quote span (trimRight closing) := by
    rw [withSpan, trim_append_cons hblank, trimRight_append_cons hblank, withSpan]
  have hne : withSpan (trimLeft opening) quote span (trimRight closing) ≠ [] := by simp [withSpan]
  rw [tidy, List.map_singleton, htrim]
  simp [hne]

/-- A text is cut in the same way whatever stands in its quotes, which stays in its piece. -/
theorem splitCommas_withSpan (hquote : quote = '\'' ∨ quote = '"')
    (hfront : (Cursor.start.after front).quoted = false) (hlast : front.getLast? ≠ some '\\')
    (back : List Char) :
    ∃ before opening closing after, opening <:+ front ∧ closing <+: back ∧
      ∀ span, IsSpan quote span →
      splitCommas (withSpan front quote span back) =
        before ++ withSpan opening quote span closing :: after := by
  obtain ⟨depth, hlevel⟩ := exists_level_after hfront hlast
  obtain ⟨before, last, hsuffix, _, hgoes⟩ := exists_piecesFrom_append (· == ',') .start front
  obtain ⟨first, more, hback⟩ :=
    List.exists_cons_of_ne_nil (piecesFrom_ne_nil (· == ',') (Cursor.level depth) back)
  -- what the front and the back fall into does not depend on the span
  refine ⟨tidy before, trimLeft last, trimRight first, tidy more,
    (List.dropWhile_suffix isBlank).trans hsuffix,
    (isPrefix_trimRight first).trans (isInfix_piecesFrom hback).1, fun span hspan => ?_⟩
  have hpieces := piecesFrom_span hquote hspan hback
  rw [← hlevel] at hpieces
  rw [splitCommas, splitTop, withSpan_eq, hgoes _ _ _ hpieces, ← withSpan_eq, tidy_append,
    tidy_cons, tidy_withSpan hquote]
  rfl

/-! ### Parentheses -/

/-- No parenthesis in quotes closes anything. -/
theorem closingFrom_span (hquote : quote = '\'' ∨ quote = '"') (h : IsSpan quote span) (depth : Nat)
    (back : List Char) : closingFrom (Cursor.level depth) ((quote :: (span ++ [quote])) ++ back) =
      (closingFrom (Cursor.level depth) back).map (· + (span.length + 2)) := by
  obtain ⟨hafter, htop⟩ := walk_quoted hquote h.quote_notMem h.last_ne depth
  have hquiet : ∀ p ∈ scanFrom (Cursor.level depth) (quote :: (span ++ [quote])),
      ¬(p.1 = ')' ∧ p.2.atTop = true) := by
    rintro p hp ⟨hparen, hatTop⟩
    obtain rfl := htop p hp hatTop
    rcases hquote with rfl | rfl <;> exact absurd hparen (by simp)
  rw [closingFrom_append hquiet, hafter]
  simp

theorem closingFrom_lt {n : Nat} (h : closingFrom s cs = some n) : n < cs.length := by
  obtain ⟨before, after, rfl, rfl⟩ := closingFrom_eq_some h
  simp

theorem closingParenthesis_eq (cs : List Char) (openIndex : Int) : closingParenthesis cs openIndex =
    (closingIndex (dropIndex cs openIndex)).map fun n : Nat => openIndex + (n : Int) := by
  rw [closingParenthesis]
  cases closingIndex (dropIndex cs openIndex) <;> rfl

theorem dropIndex_withSpan (hi : i ≤ front.length) :
    dropIndex (withSpan front quote span back) i = withSpan (front.drop i) quote span back := by
  rw [dropIndex, if_neg (by omega), Int.toNat_natCast, withSpan, List.drop_append_of_le_length hi,
    withSpan]

/-- The parenthesis that closes another one before the quotes is the same whatever stands in them,
moved if it comes behind them. -/
theorem closingParenthesis_withSpan (hquote : quote = '\'' ∨ quote = '"') (hi : i ≤ front.length)
    (hfront : (Cursor.start.after (front.drop i)).quoted = false)
    (hlast : front.getLast? ≠ some '\\')
    (h : IsSpan quote span) (h' : IsSpan quote span') (back : List Char) :
    closingParenthesis (withSpan front quote span' back) i =
      (closingParenthesis (withSpan front quote span back) i).map fun j : Int =>
        if j < (front.length : Int) then j else j + span'.length - span.length := by
  have hlast' : (front.drop i).getLast? ≠ some '\\' := by
    rw [List.getLast?_drop]
    split
    · simp
    · exact hlast
  obtain ⟨depth, hlevel⟩ := exists_level_after hfront hlast'
  have hlength : (front.drop i).length = front.length - i := List.length_drop
  have hwalk : ∀ span, IsSpan quote span → closingIndex (withSpan (front.drop i) quote span back) =
      (closingIndex (front.drop i)).or
        ((closingFrom (Cursor.level depth) back).map
          (· + (span.length + 2) + (front.drop i).length)) := by
    intro span hspan
    rw [closingIndex, withSpan_eq, closingFrom_append_eq, hlevel, closingFrom_span hquote hspan,
      Option.map_map]
    rfl
  rw [closingParenthesis_eq, closingParenthesis_eq, dropIndex_withSpan hi, dropIndex_withSpan hi,
    hwalk span' h', hwalk span h]
  -- the group closes before the span, and the index stays; or behind it, and the index moves
  cases hinside : closingIndex (front.drop i) with
  | some n =>
    have hn : n < (front.drop i).length := closingFrom_lt hinside
    have hbefore : (i : Int) + n < front.length := by omega
    simp [hbefore]
  | none =>
    cases hbehind : closingFrom (Cursor.level depth) back with
    | none => rfl
    | some m =>
      have hbehind :
          ¬(i : Int) + ((m + (span.length + 2) + (front.drop i).length : Nat) :
            Int) < front.length := by
        omega
      simp only [Option.none_or, Option.map_some, if_neg hbehind, Option.some.injEq]
      omega

/-- Text in quotes, of either kind, is hidden from cuts and from the search for a parenthesis. If it
can stand there at all, the text around it is cut into the same pieces, one of them with the quotes
and what they hold, and a parenthesis before the quotes has the same partner, at the same place
before them or the same way behind them. -/
theorem cuts_withSpan (hquote : quote = '\'' ∨ quote = '"')
    (hfront : (Cursor.start.after front).quoted = false)
    (hlast : front.getLast? ≠ some '\\') (back : List Char) :
    (∃ before opening closing after, opening <:+ front ∧ closing <+: back ∧
      ∀ span, IsSpan quote span →
        splitCommas (withSpan front quote span back) =
          before ++ withSpan opening quote span closing :: after) ∧
      ∀ span span', IsSpan quote span → IsSpan quote span' → ∀ i : Nat, i < front.length →
        (Cursor.start.after (front.drop i)).quoted = false →
        closingParenthesis (withSpan front quote span' back) i =
          (closingParenthesis (withSpan front quote span back) i).map fun j : Int =>
            if j < (front.length : Int) then j else j + span'.length - span.length :=
  ⟨splitCommas_withSpan hquote hfront hlast back, fun _ _ h h' _ hi hinside =>
    closingParenthesis_withSpan hquote (Nat.le_of_lt hi) hinside hlast h h' back⟩

/-- A letter in double quotes two parentheses deep, and in its place a parenthesis that closes,
commas, the other quote and a backslash. -/
theorem cuts_withSpan_marks :
    let front := "a, f (b, 'c)', g( ".toList
    let back := " , d)), e".toList
    let span := "x".toList
    let span' := "), '(\\ ,".toList
    (Cursor.start.after front).quoted = false ∧ front.getLast? ≠ some '\\' ∧ IsSpan '"' span ∧
      IsSpan '"' span' ∧ (Cursor.start.after (front.drop 5)).quoted = false ∧
      (∃ before opening closing after,
        splitCommas (withSpan front '"' span back) =
          before ++ withSpan opening '"' span closing :: after ∧
        splitCommas (withSpan front '"' span' back) =
          before ++ withSpan opening '"' span' closing :: after) ∧
      closingParenthesis (withSpan front '"' span back) 5 = some 26 ∧
      closingParenthesis (withSpan front '"' span' back) 5 = some 33 := by
  intro front back span span'
  have hfront : (Cursor.start.after front).quoted = false ∧ front.getLast? ≠ some '\\' ∧
      (Cursor.start.after (front.drop 5)).quoted = false := by decide +kernel
  have hspans : IsSpan '"' span ∧ IsSpan '"' span' := by decide
  have hfound : closingParenthesis (withSpan front '"' span back) 5 = some 26 := by decide +kernel
  obtain ⟨⟨before, opening, closing, after, _, _, hpieces⟩, hpartner⟩ :=
    cuts_withSpan (.inr rfl) hfront.1 hfront.2.1 back
  have hmoved := hpartner span span' hspans.1 hspans.2 5 (by decide) hfront.2.2
  refine ⟨hfront.1, hfront.2.1, hspans.1, hspans.2, hfront.2.2,
    ⟨before, opening, closing, after, hpieces span hspans.1, hpieces span' hspans.2⟩, hfound, ?_⟩
  rw [show ((5 : Nat) : Int) = 5 by rfl, hfound] at hmoved
  exact hmoved.trans (by decide)

end SchemaDraft.Script
