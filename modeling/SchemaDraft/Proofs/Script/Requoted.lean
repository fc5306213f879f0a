import SchemaDraft.Proofs.Script.QuoteMarks

/-!
Texts with the same names in other quotes (`Requoted`). A walk through SQL text knows only double
quotes, so the names that are written in other quotes, or get them, must hold nothing that the walk
counts (`IsQuiet`); a name that stays in double quotes may. Then the walks over both texts meet the
same parentheses and commas at the top, so the texts are cut at the same places, into pieces that
are again the same but for the quotes (`closingFrom_requoted`, `splitCommas_requoted`).
-/

namespace SchemaDraft.Script

open Reader Text

variable {cs ds : List Char}

/-- The word REFERENCES and blanks after it. -/
def referencesWord : Reader Unit := do
  keyword "REFERENCES"
  let _ ← blanks
  return ()

/-- What all names of a text are without, so that no reference is read from inside one: the word
REFERENCES with a blank after it, or an opening parenthesis. -/
inductive NameRule where
  | noReference
  | noParenthesis

def NameRule.Allows : NameRule → List Char → Prop
  | noReference, name => (searchWord referencesWord name).isNone = true
  | noParenthesis, name => '(' ∉ name

/-- Is a name such that it may stand in any quotes? -/
structure IsQuotable (name : List Char) : Prop where
  ne_nil : name ≠ []
  marks : ∀ c ∈ name, isQuoteMark c = false
  backslash : '\\' ∉ name
  closing : ')' ∉ name

/-- Does a name hold nothing that a walk outside double quotes counts? -/
structure IsQuiet (name : List Char) : Prop where
  comma : ',' ∉ name
  opening : '(' ∉ name
  apostrophe : '\'' ∉ name

/-- Does a character before a text stand outside all quotes? A bracket must open no name, and a
backslash must not come before a quote mark. -/
structure StandsAlone (c : Char) (cs : List Char) : Prop where
  marks : c ≠ '\'' ∧ c ≠ '"' ∧ c ≠ '\x60'
  bracket : c = '[' → Starts (· == ']') cs
  backslash : c = '\\' → Starts (fun d => !isQuoteMark d) cs

/-- Are two texts the same, but for the quotes around names? -/
inductive Requoted (rule : NameRule) : List Char → List Char → Prop
  | nil : Requoted rule [] []
  | plain {c : Char} {cs ds : List Char} : StandsAlone c cs → Requoted rule cs ds →
      Requoted rule (c :: cs) (c :: ds)
  | name {quotes quotes' : Char × Char} {name cs ds : List Char} : quotes ∈ quotePairs →
    quotes' ∈ quotePairs →
      IsQuotable name → rule.Allows name → IsQuiet name ∨ quotes.1 = '"' ∧ quotes'.1 = '"' →
        Requoted rule cs ds →
      Requoted rule (quotes.1 :: (name ++ quotes.2 :: cs)) (quotes'.1 :: (name ++ quotes'.2 :: ds))

instance (name : List Char) : Decidable (IsQuotable name) :=
  decidable_of_iff (name ≠ [] ∧ (∀ c ∈ name, isQuoteMark c = false) ∧ '\\' ∉ name ∧ ')' ∉ name)
    ⟨fun h => ⟨h.1, h.2.1, h.2.2.1, h.2.2.2⟩, fun h => ⟨h.ne_nil, h.marks, h.backslash, h.closing⟩⟩

instance (rule : NameRule) (name : List Char) : Decidable (rule.Allows name) :=
  match rule with
  | .noReference => inferInstanceAs (Decidable ((searchWord referencesWord name).isNone = true))
  | .noParenthesis => inferInstanceAs (Decidable ('(' ∉ name))

instance (name : List Char) : Decidable (IsQuiet name) :=
  decidable_of_iff (',' ∉ name ∧ '(' ∉ name ∧ '\'' ∉ name)
    ⟨fun h => ⟨h.1, h.2.1, h.2.2⟩, fun h => ⟨h.comma, h.opening, h.apostrophe⟩⟩

theorem quoted_append (quotes : Char × Char) (name cs : List Char) :
    quotes.1 :: (name ++ quotes.2 :: cs) = quotes.1 :: (name ++ [quotes.2]) ++ cs := by simp

theorem StandsAlone.of_isPrefix {c : Char} (h : StandsAlone c ds) (hstart : cs <+: ds) :
    StandsAlone c cs :=
  ⟨h.marks, fun hc => (h.bracket hc).of_isPrefix hstart,
    fun hc => (h.backslash hc).of_isPrefix hstart⟩

variable {rule : NameRule}

namespace Requoted

/-- Texts without quotes before others. -/
theorem append_plain {text : List Char} (htext : ∀ c ∈ text, c ∉ ['\'', '"', '\x60', '[', '\\'])
    (h : Requoted rule cs ds) : Requoted rule (text ++ cs) (text ++ ds) := by
  induction text with
  | nil => exact h
  | cons c text ih =>
    have hc := htext c (by simp)
    simp only [List.mem_cons, List.not_mem_nil, or_false, not_or] at hc
    obtain ⟨hsingle, hdouble, hbacktick, hbracket, hbackslash⟩ := hc
    exact .plain ⟨⟨hsingle, hdouble, hbacktick⟩, fun heq => absurd heq hbracket,
      fun heq => absurd heq hbackslash⟩ (ih fun d hd => htext d (List.mem_cons_of_mem _ hd))

theorem alike (h : Requoted rule cs ds) : Alike cs ds := by
  induction h with
  | nil => rfl
  | plain _ _ ih => exact congrArg (List.cons _) ih
  | name hquotes hquotes' _ _ _ _ ih =>
    -- all quote marks even to one, so the two spellings of the name do too
    obtain ⟨hopen, hclose⟩ := isQuoteMark_quotePairs _ hquotes
    obtain ⟨hopen', hclose'⟩ := isQuoteMark_quotePairs _ hquotes'
    simp only [Alike, List.map_cons, List.map_append, evenMark_of_isQuoteMark hopen,
      evenMark_of_isQuoteMark hclose, evenMark_of_isQuoteMark hopen',
      evenMark_of_isQuoteMark hclose']
    rw [show List.map evenMark _ = List.map evenMark _ from ih]

theorem tracks : Tracks (Requoted rule) := by
  intro cs ds h
  cases h with
  | nil => exact .ends
  | @plain c _ _ _ hrest =>
    cases hc : isQuoteMark c with
    | true => exact .marks hc hc
    | false => exact .same hc hrest
  | name hquotes hquotes' _ _ _ _ =>
    exact .marks (isQuoteMark_quotePairs _ hquotes).1 (isQuoteMark_quotePairs _ hquotes').1

theorem eq_nil_iff (h : Requoted rule cs ds) : cs = [] ↔ ds = [] := by
  cases h <;> simp

/-- What follows a character that is no quote mark. -/
theorem tail {c : Char} (h : Requoted rule (c :: cs) ds) (hc : isQuoteMark c = false) :
    ∃ ds', ds = c :: ds' ∧ Requoted rule cs ds' := by
  cases h with
  | plain _ hrest => exact ⟨_, rfl, hrest⟩
  | name hquotes _ _ _ _ _ =>
    exact absurd (hc.symm.trans (isQuoteMark_quotePairs _ hquotes).1) (by decide)

end Requoted

/-- A character outside quotes stands outside them in both texts. -/
theorem StandsAlone.of_requoted {c : Char} (hc : StandsAlone c cs) (h : Requoted rule cs ds) :
    StandsAlone c ds := by
  refine ⟨hc.marks, fun heq => ?_, fun heq => ?_⟩
  · have hclosing := hc.bracket heq
    cases h with
    | nil => exact starts_nil
    | plain _ _ => exact starts_cons.mpr ((starts_cons (p := (· == ']'))).mp hclosing)
    | name hquotes _ _ _ _ _ =>
      have hopening : ∀ quotes ∈ quotePairs, ¬(quotes.1 == ']') = true := by decide
      exact absurd ((starts_cons (p := (· == ']'))).mp hclosing) (hopening _ hquotes)
  · have hink := hc.backslash heq
    cases Requoted.tracks _ _ h with
    | ends => exact starts_nil
    | same hd _ => exact starts_cons.mpr (by simp [hd])
    | marks hd _ => exact absurd (starts_cons.mp hink) (by simp [hd])

theorem Requoted.symm (h : Requoted rule cs ds) : Requoted rule ds cs := by
  induction h with
  | nil => exact .nil
  | plain hc hrest ih => exact .plain (hc.of_requoted hrest) ih
  | name hquotes hquotes' hname hrule hquiet _ ih =>
    exact .name hquotes' hquotes hname hrule (hquiet.imp_right And.symm) ih

/-! ### Trimming -/

namespace Requoted

theorem trimRight (h : Requoted rule cs ds) : Requoted rule (trimRight cs) (trimRight ds) := by
  induction h with
  | nil => exact .nil
  | @plain c cs ds hc _ ih =>
    have hempty := ih.eq_nil_iff
    rw [← List.singleton_append, ← List.singleton_append (l := ds), trimRight_append,
      trimRight_append]
    -- if nothing but blanks follows, the trimming reaches this character too
    by_cases hcs : Text.trimRight cs = []
    · rw [if_pos hcs, if_pos (hempty.mp hcs)]
      have hsingle : Text.trimRight [c] = [] ∨ Text.trimRight [c] = [c] := by
        cases hb : isBlank c <;> simp [Text.trimRight, hb]
      rcases hsingle with hnil | hone
      · rw [hnil]; exact .nil
      · rw [hone]; exact .plain (hc.of_isPrefix List.nil_prefix) .nil
    · rw [if_neg hcs, if_neg fun hds => hcs (hempty.mpr hds)]
      exact .plain (hc.of_isPrefix (isPrefix_trimRight cs)) ih
  | @name quotes quotes' name cs ds hquotes hquotes' hname hrule hquiet _ ih =>
    have hempty := ih.eq_nil_iff
    have hquoted : ∀ q ∈ quotePairs, Text.trimRight (q.1 :: (name ++ [q.2])) =
        q.1 :: (name ++ [q.2]) := by
      rintro ⟨opening, closing⟩ hq
      exact trimRight_eq_self (isTrimmed_quoted hq).2
    rw [quoted_append quotes, quoted_append quotes', trimRight_append, trimRight_append]
    by_cases hcs : Text.trimRight cs = []
    · rw [if_pos hcs, if_pos (hempty.mp hcs), hquoted _ hquotes, hquoted _ hquotes']
      exact .name hquotes hquotes' hname hrule hquiet .nil
    · rw [if_neg hcs, if_neg fun hds => hcs (hempty.mpr hds), ← quoted_append, ← quoted_append]
      exact .name hquotes hquotes' hname hrule hquiet ih

/-- Trimmed texts are the same but for the quotes. -/
theorem trim (h : Requoted rule cs ds) : Requoted rule (trim cs) (trim ds) :=
  (tracks.span (fun _ => not_isBlank_of_isQuoteMark) h).2.trimRight

end Requoted

/-! ### Walks -/

/-- Does a cursor stand outside quotes, and not between a backslash and a quote mark? -/
structure Cursor.IsOutside (s : Cursor) (cs : List Char) : Prop where
  quoted : s.quoted = false
  backslash : s.afterBackslash = true → Starts (fun c => !isQuoteMark c) cs

theorem isOutside_start (cs : List Char) : Cursor.start.IsOutside cs :=
  ⟨rfl, fun h => absurd h (by decide)⟩

theorem Cursor.isOutside_level (depth : Nat) (cs : List Char) : (Cursor.level depth).IsOutside cs :=
  ⟨rfl, fun h => absurd h Bool.false_ne_true⟩

/-- Before a quote mark the cursor is at its level. -/
theorem Cursor.IsOutside.eq_level {s : Cursor} {c : Char} (h : s.IsOutside (c :: cs))
    (hc : isQuoteMark c = true) : s = Cursor.level s.depth := by
  refine Cursor.eq_level h.quoted ?_
  cases hescaped : s.afterBackslash with
  | false => rfl
  | true =>
    have hstarts := starts_cons.mp (h.backslash hescaped)
    rw [hc] at hstarts
    exact absurd hstarts (by decide)

theorem Cursor.IsOutside.step {s : Cursor} {c : Char} (h : s.IsOutside (c :: cs))
    (hc : StandsAlone c cs) : (s.step c).IsOutside cs := by
  obtain ⟨hsingle, hdouble, _⟩ := hc.marks
  have hquoted := h.quoted
  constructor
  · simp only [Cursor.step, Cursor.toggleQuotes, Cursor.countParenthesis, hsingle, hdouble,
      false_and, if_false, hquoted, Bool.false_eq_true]
    split
    · exact hquoted
    · split <;> exact hquoted
  · intro hafter
    exact hc.backslash (by simpa [Cursor.step] using hafter)

/-- Other quote marks than double quotes count for a walk no more than letters. -/
theorem isPlain_quotePairs : ∀ quotes ∈ quotePairs, quotes = ('"', '"') ∨
    quotes.1 ≠ '"' ∧ ∀ c ∈ [quotes.1, quotes.2], Cursor.isPlain c = true ∧ c ≠ ',' := by decide

/-- A name in quotes shows no comma at the top and no parenthesis. -/
theorem nested_quoted {quotes : Char × Char} {name : List Char} (hquotes : quotes ∈ quotePairs)
    (hname : IsQuotable name) (hquiet : IsQuiet name ∨ quotes.1 = '"') :
    Nested false (quotes.1 :: (name ++ [quotes.2])) := by
  -- the scanner sees a quoted span for double quotes, and plain characters for the other marks
  rcases isPlain_quotePairs quotes hquotes with rfl | ⟨hother, hplain⟩
  · exact .quoted (fun hmem => absurd (hname.marks _ hmem) (by decide))
      (fun hlast => hname.backslash (List.mem_of_getLast? hlast)) .nil
  · have hquiet := hquiet.resolve_right hother
    refine .of_plain fun c hc => ?_
    by_cases hmem : c ∈ name
    · have hne : ∀ d, d ∉ name → c ≠ d := fun d hd heq => hd (heq ▸ hmem)
      have hquote : c ≠ '"' := fun heq => absurd (hname.marks c hmem) (by rw [heq]; decide)
      refine ⟨?_, hne _ hquiet.comma⟩
      simp [Cursor.isPlain, hne _ hquiet.opening, hne _ hname.closing,
        hne _ hquiet.apostrophe, hquote, hne _ hname.backslash]
    · exact hplain c (by simpa [hmem] using hc)

theorem mem_of_mem_scanFrom {s : Cursor} {p : Char × Cursor} (h : p ∈ scanFrom s cs) :
    p.1 ∈ cs := by
  induction cs generalizing s with
  | nil => exact absurd h (by simp [scanFrom])
  | cons c cs ih =>
    rcases List.mem_cons.mp h with rfl | h
    · exact List.mem_cons_self
    · exact List.mem_cons_of_mem _ (ih h)

theorem closing_notMem_quoted {quotes : Char × Char} {name : List Char}
    (hquotes : quotes ∈ quotePairs)
    (hname : IsQuotable name) : ')' ∉ quotes.1 :: (name ++ [quotes.2]) := by
  obtain ⟨hopen, hclose⟩ := isQuoteMark_quotePairs quotes hquotes
  intro hmem
  simp only [List.mem_cons, List.mem_append, List.not_mem_nil, or_false] at hmem
  rcases hmem with heq | hmem | heq
  · exact absurd hopen (by rw [← heq]; decide)
  · exact hname.closing hmem
  · exact absurd hclose (by rw [← heq]; decide)

/-- A walk passes over a name in quotes. -/
theorem closingFrom_quoted {quotes : Char × Char} {name : List Char} (hquotes : quotes ∈ quotePairs)
    (hname : IsQuotable name) (hquiet : IsQuiet name ∨ quotes.1 = '"') (depth : Nat)
    (cs : List Char) : closingFrom (Cursor.level depth) (quotes.1 :: (name ++ quotes.2 :: cs)) =
      (closingFrom (Cursor.level depth) cs).map (· + (name.length + 2)) := by
  obtain ⟨hafter, _⟩ := (nested_quoted hquotes hname hquiet).walk depth
  have hquiet : ∀ p ∈ scanFrom (Cursor.level depth) (quotes.1 :: (name ++ [quotes.2])),
      ¬(p.1 = ')' ∧ p.2.atTop = true) := by
    rintro p hp ⟨hparen, _⟩
    exact closing_notMem_quoted hquotes hname (hparen ▸ mem_of_mem_scanFrom hp)
  rw [quoted_append, closingFrom_append hquiet, hafter]
  simp

theorem take_quoted (quotes : Char × Char) (name cs : List Char) (n : Nat) :
    (quotes.1 :: (name ++ quotes.2 :: cs)).take (n + (name.length + 2)) =
      quotes.1 :: (name ++ quotes.2 :: cs.take n) := by
  have hlength : n + (name.length + 2) = (quotes.1 :: (name ++ [quotes.2])).length + n := by
    simp only [List.length_cons, List.length_append, List.length_nil]
    omega
  rw [quoted_append, hlength, List.take_length_add_append, ← quoted_append]

/-- The same parenthesis closes, and what comes before it is the same but for the quotes. -/
theorem closingFrom_requoted (h : Requoted rule cs ds) {s : Cursor} (hs : s.IsOutside cs) :
    closingFrom s ds = closingFrom s cs ∧
      ∀ n, closingFrom s cs = some n → Requoted rule (cs.take n) (ds.take n) := by
  induction h generalizing s with
  | nil => exact ⟨rfl, fun n hn => absurd hn (by simp [closingFrom])⟩
  | @plain c cs ds hc _ ih =>
    obtain ⟨hsame, htake⟩ := ih (hs.step hc)
    rw [closingFrom, closingFrom, hsame]
    refine ⟨rfl, fun n hn => ?_⟩
    split at hn
    · obtain rfl := Option.some.inj hn
      exact .nil
    · obtain ⟨m, hm, rfl⟩ := Option.map_eq_some_iff.mp hn
      exact .plain (hc.of_isPrefix (List.take_prefix m cs)) (htake m hm)
  | @name quotes quotes' name cs ds hquotes hquotes' hname hrule hquiet _ ih =>
    obtain ⟨hsame, htake⟩ := ih (Cursor.isOutside_level s.depth cs)
    have hother : IsQuiet name ∨ quotes'.1 = '"' := hquiet.imp_right And.right
    -- a quoted name closes no group in either spelling, and both are as long
    rw [hs.eq_level (isQuoteMark_quotePairs _ hquotes).1,
      closingFrom_quoted hquotes hname (hquiet.imp_right And.left),
      closingFrom_quoted hquotes' hname hother, hsame]
    refine ⟨rfl, fun n hn => ?_⟩
    obtain ⟨m, hm, rfl⟩ := Option.map_eq_some_iff.mp hn
    rw [take_quoted, take_quoted]
    exact .name hquotes hquotes' hname hrule hquiet (htake m hm)

/-- A name in quotes is not cut: it belongs to the piece that comes after it. -/
theorem piecesFrom_quoted {quotes : Char × Char} {name : List Char} (hquotes : quotes ∈ quotePairs)
    (hname : IsQuotable name) (hquiet : IsQuiet name ∨ quotes.1 = '"') {depth : Nat}
    {piece : List Char}
    {pieces : List (List Char)}
    (hpieces : piecesFrom (· == ',') (Cursor.level depth) cs = piece :: pieces) :
    piecesFrom (· == ',') (Cursor.level depth) (quotes.1 :: (name ++ quotes.2 :: cs)) =
      (quotes.1 :: (name ++ quotes.2 :: piece)) :: pieces := by
  obtain ⟨hafter, htop⟩ := (nested_quoted hquotes hname hquiet).walk depth
  have hpass : ∀ p ∈ scanFrom (Cursor.level depth) (quotes.1 :: (name ++ [quotes.2])),
      ¬((p.1 == ',') = true ∧ p.2.atTop = true) := by
    rintro p hp ⟨hcomma, hatTop⟩
    exact absurd ((htop p hp hatTop).2 (by simpa using hcomma)) (by decide)
  rw [quoted_append, piecesFrom_append hpass (hafter ▸ hpieces), ← quoted_append]

/-- Two texts that are cut into related pieces have related first pieces. -/
theorem exists_first_pieces {R : List Char → List Char → Prop} {p : Char → Bool} {s : Cursor}
    (h : List.Forall₂ R (piecesFrom p s cs) (piecesFrom p s ds)) :
    ∃ piece pieces piece' pieces', piecesFrom p s cs = piece :: pieces ∧
      piecesFrom p s ds = piece' :: pieces' ∧ R piece piece' ∧ List.Forall₂ R pieces pieces' := by
  obtain ⟨piece, pieces, hpieces⟩ := List.exists_cons_of_ne_nil (piecesFrom_ne_nil p s cs)
  obtain ⟨piece', pieces', hpieces'⟩ := List.exists_cons_of_ne_nil (piecesFrom_ne_nil p s ds)
  rw [hpieces, hpieces'] at h
  obtain ⟨hpiece, hmore⟩ := List.forall₂_cons.mp h
  exact ⟨piece, pieces, piece', pieces', hpieces, hpieces', hpiece, hmore⟩

/-- The commas at the top cut both texts into pieces that are the same but for the quotes. -/
theorem piecesFrom_requoted (h : Requoted rule cs ds) {s : Cursor} (hs : s.IsOutside cs) :
    List.Forall₂ (Requoted rule) (piecesFrom (· == ',') s cs) (piecesFrom (· == ',') s ds) := by
  induction h generalizing s with
  | nil => exact .cons .nil .nil
  | @plain c cs ds hc _ ih =>
    have hrest := ih (hs.step hc)
    rw [piecesFrom, piecesFrom]
    split
    · exact .cons .nil hrest
    · obtain ⟨piece, pieces, piece', pieces', hpieces, hpieces', hpiece, hmore⟩ :=
        exists_first_pieces hrest
      rw [hpieces, hpieces']
      exact .cons (.plain (hc.of_isPrefix (isInfix_piecesFrom hpieces).1) hpiece) hmore
  | @name quotes quotes' name cs ds hquotes hquotes' hname hrule hquiet _ ih =>
    have hother : IsQuiet name ∨ quotes'.1 = '"' := hquiet.imp_right And.right
    -- a comma inside either spelling of the name cuts nothing, so the name joins the next piece
    obtain ⟨piece, pieces, piece', pieces', hpieces, hpieces', hpiece, hmore⟩ :=
      exists_first_pieces (ih (Cursor.isOutside_level s.depth cs))
    rw [hs.eq_level (isQuoteMark_quotePairs _ hquotes).1,
      piecesFrom_quoted hquotes hname (hquiet.imp_right And.left) hpieces,
      piecesFrom_quoted hquotes' hname hother hpieces']
    exact .cons (.name hquotes hquotes' hname hrule hquiet hpiece) hmore

theorem splitCommas_requoted (h : Requoted rule cs ds) :
    List.Forall₂ (Requoted rule) (splitCommas cs) (splitCommas ds) := by
  have hpieces := piecesFrom_requoted h (isOutside_start cs)
  have htrimmed : List.Forall₂ (Requoted rule) ((piecesFrom (· == ',') .start cs).map trim)
      ((piecesFrom (· == ',') .start ds).map trim) := by
    rw [List.forall₂_map_left_iff, List.forall₂_map_right_iff]
    exact hpieces.imp fun _ _ hpiece => hpiece.trim
  exact List.rel_filter (fun _ _ hpiece => by simpa using not_congr hpiece.eq_nil_iff) htrimmed

end SchemaDraft.Script
