import SchemaDraft.Proofs.Script.Body

/-!
The partner of a parenthesis that opens. A walk that never closes a parenthesis at the top
(`Cursor.Unclamped`) goes the same way inside one more parenthesis, one deeper (`scanFrom_deeper`).
So the first parenthesis that closes at depth zero is the one after which the text between the two,
walked over on its own, has come back to the top without help (`closingFrom_deeper_iff`): there is
one such place at most, and it is found (`closingParenthesis_iff_isPartner`).
-/

namespace SchemaDraft.Script

open Text

variable {cs head rest inner : List Char} {s : Cursor} {i n : Nat}

/-! ### Walks that close nothing outside -/

namespace Cursor

/-- Is every parenthesis that closes on a walk open before it, so that the depth is never kept from
falling below zero? -/
def Unclamped (s : Cursor) (cs : List Char) : Prop :=
  ∀ front back, cs = front ++ ')' :: back → (s.after front).quoted = false →
    0 < (s.after front).depth

theorem atTop_iff : s.atTop = true ↔ s.depth = 0 ∧ s.quoted = false := by
  simp [atTop]

theorem unclamped_nil (s : Cursor) : s.Unclamped [] := by
  intro front back hsplit
  exact absurd hsplit (by simp)

theorem unclamped_cons {c : Char} :
    s.Unclamped (c :: cs) ↔ ¬(c = ')' ∧ s.atTop = true) ∧ (s.step c).Unclamped cs := by
  constructor
  · intro h
    refine ⟨?_, fun front back hsplit => ?_⟩
    · rintro ⟨rfl, htop⟩
      obtain ⟨hdepth, hquoted⟩ := atTop_iff.mp htop
      have hpositive : 0 < s.depth := h [] cs rfl hquoted
      omega
    · exact h (c :: front) back (by rw [hsplit]; rfl)
  · rintro ⟨hfirst, hrest⟩ front back hsplit hquoted
    -- the parenthesis in question is the first character, or lies in the rest
    cases front with
    | nil =>
      obtain ⟨rfl, _⟩ := List.cons.inj hsplit
      by_contra hdepth
      exact hfirst ⟨rfl, atTop_iff.mpr ⟨Nat.eq_zero_of_not_pos hdepth, hquoted⟩⟩
    | cons d front =>
      obtain ⟨rfl, rfl⟩ := List.cons.inj hsplit
      exact hrest front back rfl hquoted

end Cursor

/-- Inside one more parenthesis such a walk shows the same, one deeper. -/
theorem scanFrom_deeper (h : s.Unclamped cs) :
    scanFrom s.deeper cs = (scanFrom s cs).map fun p => (p.1, p.2.deeper) := by
  induction cs generalizing s with
  | nil => rfl
  | cons c cs ih =>
    obtain ⟨hfirst, hrest⟩ := Cursor.unclamped_cons.mp h
    rw [scanFrom, scanFrom, List.map_cons, Cursor.step_deeper hfirst, ih hrest]

/-- The parenthesis outside is closed at the first place where the walk inside is at the top. -/
theorem closingFrom_deeper_iff : closingFrom s.deeper cs = some n ↔
    ∃ inner tail, cs = inner ++ ')' :: tail ∧ inner.length = n ∧ s.Unclamped inner ∧
      (s.after inner).atTop = true := by
  -- by induction on the text; the cursor moves along, so it is general in the induction
  induction cs generalizing s n with
  | nil => simp [closingFrom]
  | cons c cs ih =>
    rw [closingFrom_deeper_cons]
    by_cases hclose : c = ')' ∧ s.atTop = true
    · -- this parenthesis closes the group, which is empty from here on
      rw [if_pos hclose]
      constructor
      · intro h
        obtain rfl := Option.some.inj h
        exact ⟨[], cs, by rw [hclose.1]; rfl, rfl, s.unclamped_nil, hclose.2⟩
      · rintro ⟨inner, tail, hsplit, rfl, hunclamped, _⟩
        cases inner with
        | nil => rfl
        | cons d inner =>
          obtain ⟨rfl, _⟩ := List.cons.inj hsplit
          exact absurd hclose (Cursor.unclamped_cons.mp hunclamped).1
    · rw [if_neg hclose, Option.map_eq_some_iff]
      constructor
      · rintro ⟨m, hm, rfl⟩
        obtain ⟨inner, tail, rfl, rfl, hunclamped, htop⟩ := ih.mp hm
        exact ⟨c :: inner, tail, rfl, rfl, Cursor.unclamped_cons.mpr ⟨hclose, hunclamped⟩, htop⟩
      · rintro ⟨inner, tail, hsplit, rfl, hunclamped, htop⟩
        cases inner with
        | nil => exact absurd ⟨(List.cons.inj hsplit).1, htop⟩ hclose
        | cons d inner =>
          obtain ⟨rfl, rfl⟩ := List.cons.inj hsplit
          exact ⟨inner.length,
            ih.mpr ⟨inner, tail, rfl, rfl, (Cursor.unclamped_cons.mp hunclamped).2, htop⟩, rfl⟩

/-! ### Partners -/

/-- The text between two places. -/
def between (cs : List Char) (i j : Nat) : List Char := (cs.take j).drop (i + 1)

/-- Do the parentheses at two places belong together? The later one closes, and a walk over the text
between them shows at each character what a walk from the earlier one shows there, but one less
deep, needs no parenthesis outside, and ends at the top. -/
structure IsPartner (cs : List Char) (i j : Nat) : Prop where
  follows : i < j
  closes : cs[j]? = some ')'
  inStep : ∀ k p, (scan (between cs i j))[k]? = some p →
    ∃ q, (scan (cs.drop i))[k + 1]? = some q ∧ q.1 = p.1 ∧ q.2.quoted = p.2.quoted ∧
      q.2.depth = p.2.depth + 1
  unclamped : Cursor.start.Unclamped (between cs i j)
  atTop : (Cursor.start.after (between cs i j)).atTop = true

/-- A text around the character at a place. -/
theorem eq_take_append_cons_drop {c : Char} (h : cs[i]? = some c) :
    cs = cs.take i ++ c :: cs.drop (i + 1) := by
  obtain ⟨hi, rfl⟩ := List.getElem?_eq_some_iff.mp h
  rw [List.getElem_cons_drop, List.take_append_drop]

theorem between_append (head inner tail : List Char) :
    between (head ++ '(' :: (inner ++ ')' :: tail)) head.length (head.length + inner.length + 1) =
      inner := by
  have hsplit : head ++ '(' :: (inner ++ ')' :: tail) = (head ++ '(' :: inner) ++ ')' :: tail := by
    simp
  have hlength : head.length + inner.length + 1 = (head ++ '(' :: inner).length := by simp; omega
  have hfront : head ++ '(' :: inner = (head ++ ['(']) ++ inner := by simp
  have hlead : head.length + 1 = (head ++ ['(']).length := by simp
  rw [between, hsplit, hlength, List.take_left, hfront, hlead, List.drop_left]

/-- The walk from the earlier parenthesis, up to the later one, is one deeper than the walk between
them. -/
theorem scan_group (h : Cursor.start.Unclamped inner) (tail : List Char) :
    scan ('(' :: (inner ++ tail)) = ('(', Cursor.start.deeper) ::
      ((scan inner).map (fun p => (p.1, p.2.deeper)) ++
        scanFrom (Cursor.start.deeper.after inner) tail) := by
  have hopen : Cursor.start.step '(' = Cursor.start.deeper := rfl
  rw [scan, scanFrom, hopen, scanFrom_append, scanFrom_deeper h]
  rfl

/-- Partners are the parentheses around a text that closes nothing outside and ends at the top. -/
theorem isPartner_append : IsPartner (head ++ '(' :: rest) head.length n ↔
    ∃ inner tail, rest = inner ++ ')' :: tail ∧ n = head.length + inner.length + 1 ∧
      Cursor.start.Unclamped inner ∧ (Cursor.start.after inner).atTop = true := by
  constructor
  · intro h
    obtain ⟨m, rfl⟩ := Nat.exists_eq_add_of_lt h.follows
    -- the indexes are counted in the whole text; shift them to the part after the opening one
    have hcloses : rest[m]? = some ')' := by
      have hcloses := h.closes
      rwa [List.getElem?_append_right (by omega), show head.length + m + 1 - head.length =
        m + 1 by omega, List.getElem?_cons_succ] at hcloses
    have hsplit := eq_take_append_cons_drop hcloses
    have hlength : (rest.take m).length = m :=
      List.length_take_of_le (Nat.le_of_lt (List.getElem?_eq_some_iff.mp hcloses).1)
    have hbetween : between (head ++ '(' :: rest) head.length (head.length + m + 1) =
        rest.take m := by
      have hinside := between_append head (rest.take m) (rest.drop (m + 1))
      rwa [hlength, ← hsplit] at hinside
    refine ⟨rest.take m, rest.drop (m + 1), hsplit, by rw [hlength], ?_, ?_⟩
    · exact hbetween ▸ h.unclamped
    · exact hbetween ▸ h.atTop
  · rintro ⟨inner, tail, rfl, rfl, hunclamped, htop⟩
    have hbetween := between_append head inner tail
    refine ⟨by omega, ?_, fun k p hp => ?_, by rwa [hbetween], by rwa [hbetween]⟩
    · rw [List.getElem?_append_right (by omega),
        show head.length + inner.length + 1 - head.length =
            inner.length + 1 by omega, List.getElem?_cons_succ,
        List.getElem?_append_right (Nat.le_refl _), Nat.sub_self]
      rfl
    · rw [hbetween] at hp
      refine ⟨(p.1, p.2.deeper), ?_, rfl, rfl, rfl⟩
      obtain ⟨hk, _⟩ := List.getElem?_eq_some_iff.mp hp
      rw [List.drop_left, scan_group hunclamped, List.getElem?_cons_succ,
        List.getElem?_append_left (by simpa using hk), List.getElem?_map, hp]
      rfl

/-- The definitions between partners end at the top. -/
theorem atTop_of_mem_splitCommas (hunclamped : Cursor.start.Unclamped inner)
    (htop : (Cursor.start.after inner).atTop = true) {piece : List Char}
    (h : piece ∈ splitCommas inner) : (Cursor.start.after piece).atTop = true := by
  have hclosing : closingFrom Cursor.start.deeper (inner ++ ')' :: []) = some inner.length :=
    closingFrom_deeper_iff.mpr ⟨inner, [], rfl, rfl, hunclamped, htop⟩
  obtain ⟨hmem, _⟩ := List.mem_filter.mp h
  obtain ⟨part, hpart, rfl⟩ := List.mem_map.mp hmem
  obtain ⟨first, parts, hparts⟩ :=
    List.exists_cons_of_ne_nil (piecesFrom_ne_nil (· == ',') .start inner)
  obtain ⟨hfirst, hrest⟩ := completes_of_closingFrom hclosing hparts
  have hcomplete : Cursor.start.completes part = true := by
    rw [hparts] at hpart
    rcases List.mem_cons.mp hpart with rfl | hpart
    · exact hfirst
    · exact hrest part hpart
  exact (Cursor.completes.walk (completes_trim hcomplete)).1

/-- The parenthesis that is found is the partner of the one at the index, and if none is found there
is no partner. The definitions between partners leave their own quotes and parentheses. -/
theorem closingParenthesis_iff_isPartner (h : cs[i]? = some '(') :
    (∀ j : Int, closingParenthesis cs i = some j ↔ ∃ n : Nat, j = n ∧ IsPartner cs i n) ∧
      (closingParenthesis cs i = none ↔ ∀ n, ¬IsPartner cs i n) ∧
      ∀ n, IsPartner cs i n →
        ∀ piece ∈ splitCommas (between cs i n), (Cursor.start.after piece).atTop = true := by
  obtain ⟨head, rest, rfl, rfl⟩ : ∃ head rest, cs = head ++ '(' :: rest ∧ i = head.length :=
    ⟨cs.take i, cs.drop (i + 1), eq_take_append_cons_drop h,
      (List.length_take_of_le (Nat.le_of_lt (List.getElem?_eq_some_iff.mp h).1)).symm⟩
  have hfound : ∀ j : Int, closingParenthesis (head ++ '(' :: rest) head.length = some j ↔
      ∃ n : Nat, j = n ∧ IsPartner (head ++ '(' :: rest) head.length n := by
    -- the index found inside the group is counted from its opening parenthesis
    intro j
    rw [closingParenthesis_append, closingIndex_cons]
    constructor
    · rintro ⟨m, hm, rfl⟩
      obtain ⟨m, hinside, rfl⟩ := Option.map_eq_some_iff.mp hm
      obtain ⟨inner, tail, hsplit, rfl, hinner⟩ := closingFrom_deeper_iff.mp hinside
      exact ⟨head.length + inner.length + 1, by omega,
        isPartner_append.mpr ⟨inner, tail, hsplit, rfl, hinner⟩⟩
    · rintro ⟨n, rfl, hn⟩
      obtain ⟨inner, tail, hsplit, rfl, hinner⟩ := isPartner_append.mp hn
      have hm := closingFrom_deeper_iff.mpr ⟨inner, tail, hsplit, rfl, hinner⟩
      exact ⟨inner.length + 1, by rw [hm]; rfl, by omega⟩
  refine ⟨hfound, ?_, fun n hn piece hpiece => ?_⟩
  · constructor
    · intro hnone n hn
      have hsome := (hfound n).mpr ⟨n, rfl, hn⟩
      exact absurd (hnone.symm.trans hsome) (by simp)
    · intro hnot
      cases hclosing : closingParenthesis (head ++ '(' :: rest) head.length with
      | none => rfl
      | some j =>
        obtain ⟨n, _, hn⟩ := (hfound j).mp hclosing
        exact absurd hn (hnot n)
  · exact atTop_of_mem_splitCommas hn.unclamped hn.atTop hpiece

/-- Parentheses in quotes of both kinds, one after a quote that a backslash keeps from closing, and
after the partner one that stays open. -/
theorem closingParenthesis_nestedQuotes :
    let text := "x) (a ')', \"(\", (b), 'it\\') ('), c (".toList
    text[3]? = some '(' ∧ closingParenthesis text 3 = some 30 ∧ IsPartner text 3 30 ∧
      (∀ piece ∈ ["a ')'".toList, "\"(\"".toList, "(b)".toList, "'it\\') ('".toList],
        (Cursor.start.after piece).atTop = true) ∧
      text[35]? = some '(' ∧ ∀ n, ¬IsPartner text 35 n := by
  intro text
  have hopen : text[3]? = some '(' ∧ text[35]? = some '(' := by decide +kernel
  have hfound : closingParenthesis text 3 = some 30 ∧ closingParenthesis text 35 = none := by
    decide +kernel
  have hpieces : splitCommas (between text 3 30) =
      ["a ')'".toList, "\"(\"".toList, "(b)".toList, "'it\\') ('".toList] := by decide +kernel
  obtain ⟨hiff, _, hdefinitions⟩ := closingParenthesis_iff_isPartner hopen.1
  obtain ⟨n, hn, hpartner⟩ := (hiff 30).mp hfound.1
  obtain rfl : n = 30 := by omega
  obtain ⟨_, hnone, _⟩ := closingParenthesis_iff_isPartner hopen.2
  exact ⟨hopen.1, hfound.1, hpartner, hpieces ▸ hdefinitions 30 hpartner, hopen.2,
    hnone.mp hfound.2⟩

end SchemaDraft.Script
