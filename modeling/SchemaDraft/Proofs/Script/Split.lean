import SchemaDraft.Proofs.Text.Adjacent
import SchemaDraft.Proofs.Text.Trim
import SchemaDraft.Script.Split

/-!
How a script falls apart. A walk over a nested text, one whose quotes and parentheses close
(`Nested`), comes back to where it was and shows no comma and no closing parenthesis at the top on
its way (`Nested.walk`). So the parenthesis after such a text closes the one before it
(`closingIndex_group`), and a comma after it starts a new piece (`splitCommas_cons`). A semicolon
cuts a script anywhere (`splitStatements_append`), and only marks of comments make comments.
-/

namespace SchemaDraft.Script

open Text

variable {cs ds : List Char}

/-! ### Walks -/

namespace Cursor

/-- A cursor outside quotes, that many parentheses deep. -/
def level (depth : Nat) : Cursor := ⟨depth, false, false, false⟩

/-- Outside of quotes, and not after a backslash, only the depth counts. -/
theorem eq_level {s : Cursor} (hquoted : s.quoted = false) (hescaped : s.afterBackslash = false) :
    s = level s.depth := by
  obtain ⟨depth, inSingle, inDouble, afterBackslash⟩ := s
  obtain ⟨rfl, rfl⟩ := Bool.or_eq_false_iff.mp hquoted
  obtain rfl : afterBackslash = false := hescaped
  rfl

/-- A cursor in quotes of one kind, that many parentheses deep. -/
def inQuotes (quote : Char) (depth : Nat) (afterBackslash : Bool) : Cursor :=
  ⟨depth, quote == '\'', quote == '"', afterBackslash⟩

theorem atTop_inQuotes {quote : Char} (hquote : quote = '\'' ∨ quote = '"') (depth : Nat)
    (b : Bool) : (inQuotes quote depth b).atTop = false := by
  rcases hquote with rfl | rfl <;> simp [atTop, inQuotes, quoted]

/-- In quotes of one kind nothing else than such a quote counts. -/
theorem step_inQuotes {quote c : Char} (hquote : quote = '\'' ∨ quote = '"') (hc : c ≠ quote)
    (depth : Nat) (b : Bool) :
    (inQuotes quote depth b).step c = inQuotes quote depth (c = '\\') := by
  rcases hquote with rfl | rfl <;> simp [step, toggleQuotes, countParenthesis, inQuotes, quoted, hc]

theorem eq_zero_of_atTop_level {depth : Nat} (h : (level depth).atTop = true) : depth = 0 := by
  simp only [atTop, level, Bool.and_eq_true, beq_iff_eq] at h
  exact h.1

/-- Is this a character that neither quotes nor nests? -/
def isPlain (c : Char) : Bool := !(['(', ')', '\'', '"', '\\'].contains c)

theorem step_level {depth : Nat} {c : Char} (hc : isPlain c = true) :
    (level depth).step c = level depth := by
  simp only [isPlain, Bool.not_eq_true', List.contains_eq_mem, List.mem_cons, List.not_mem_nil,
    or_false, decide_eq_false_iff_not, not_or] at hc
  obtain ⟨hopen, hclose, hsingle, hdouble, hbackslash⟩ := hc
  simp [step, toggleQuotes, countParenthesis, level, quoted, hopen, hclose, hsingle, hdouble,
    hbackslash]

theorem atTop_step_comma (s : Cursor) : (s.step ',').atTop = s.atTop := by
  obtain ⟨depth, inSingle, inDouble, afterBackslash⟩ := s
  cases inSingle <;> cases inDouble <;> rfl

/-- After a comma at the top a walk is where it started. -/
theorem step_comma {s : Cursor} (h : s.atTop = true) : s.step ',' = start := by
  obtain ⟨depth, inSingle, inDouble, afterBackslash⟩ := s
  simp only [atTop, quoted, Bool.and_eq_true, beq_iff_eq, Bool.not_eq_true',
    Bool.or_eq_false_iff] at h
  obtain ⟨rfl, rfl, rfl⟩ := h
  rfl

end Cursor

theorem scanFrom_append (s : Cursor) (cs ds : List Char) :
    scanFrom s (cs ++ ds) = scanFrom s cs ++ scanFrom (s.after cs) ds := by
  induction cs generalizing s with
  | nil => rfl
  | cons c cs ih =>
    rw [List.cons_append, scanFrom, scanFrom, ih, List.cons_append]
    rfl

/-- The parenthesis that closes is looked for in one part of a text and then, from where the walk
has come to, in the other. -/
theorem closingFrom_append_eq (s : Cursor) (cs ds : List Char) : closingFrom s (cs ++ ds) =
    (closingFrom s cs).or ((closingFrom (s.after cs) ds).map (· + cs.length)) := by
  induction cs generalizing s with
  | nil => simp [closingFrom, Cursor.after]
  | cons c cs ih =>
    rw [List.cons_append, closingFrom, closingFrom]
    by_cases hclose : c = ')' ∧ (s.step c).atTop = true
    · rw [if_pos hclose, if_pos hclose]
      rfl
    · have hlength : (fun n => n + 1) ∘ (fun n => n + cs.length) =
          fun n : Nat => n + (c :: cs).length := by
        funext n
        simp only [Function.comp_apply, List.length_cons]
        omega
      rw [if_neg hclose, if_neg hclose, ih, Option.map_or, Option.map_map, hlength]
      rfl

theorem closingFrom_eq_none {s : Cursor}
    (h : ∀ p ∈ scanFrom s cs, ¬(p.1 = ')' ∧ p.2.atTop = true)) : closingFrom s cs = none := by
  induction cs generalizing s with
  | nil => rfl
  | cons c cs ih =>
    rw [scanFrom] at h
    have hfirst : ¬(c = ')' ∧ (s.step c).atTop = true) := h (c, s.step c) (by simp)
    rw [closingFrom, if_neg hfirst, ih fun p hp => h p (List.mem_cons_of_mem _ hp)]
    rfl

/-- A walk that meets no closing parenthesis at the top goes on looking after it. -/
theorem closingFrom_append {s : Cursor}
    (h : ∀ p ∈ scanFrom s cs, ¬(p.1 = ')' ∧ p.2.atTop = true)) :
    closingFrom s (cs ++ ds) = (closingFrom (s.after cs) ds).map (· + cs.length) := by
  rw [closingFrom_append_eq, closingFrom_eq_none h, Option.none_or]

theorem piecesFrom_ne_nil (isSeparator : Char → Bool) (s : Cursor) (cs : List Char) :
    piecesFrom isSeparator s cs ≠ [] := by
  cases cs with
  | nil => simp [piecesFrom]
  | cons c cs =>
    rw [piecesFrom]
    split
    · simp
    · cases piecesFrom isSeparator (s.step c) cs <;> simp [consHead]

/-- A walk that meets no separator at the top belongs to the piece that starts after it. -/
theorem piecesFrom_append {isSeparator : Char → Bool} {s : Cursor}
    (h : ∀ p ∈ scanFrom s cs, ¬(isSeparator p.1 = true ∧ p.2.atTop = true)) {piece : List Char}
    {pieces : List (List Char)} (hds : piecesFrom isSeparator (s.after cs) ds = piece :: pieces) :
    piecesFrom isSeparator s (cs ++ ds) = (cs ++ piece) :: pieces := by
  induction cs generalizing s with
  | nil => exact hds
  | cons c cs ih =>
    rw [scanFrom] at h
    have hfirst : (isSeparator c && (s.step c).atTop) = false := by
      have hpasses := h (c, s.step c) (by simp)
      simpa using hpasses
    have hrest := ih (fun p hp => h p (List.mem_cons_of_mem _ hp)) hds
    rw [List.cons_append, piecesFrom, hfirst, hrest]
    rfl

/-- Does a walk over a text meet no comma at the top? -/
def Cursor.Uncut (s : Cursor) (cs : List Char) : Prop :=
  ∀ p ∈ scanFrom s cs, ¬(p.1 = ',' ∧ p.2.atTop = true)

/-- A text without a comma at the top belongs to the piece that starts after it. -/
theorem Cursor.Uncut.piecesFrom_append {s : Cursor} (h : s.Uncut cs) {piece : List Char}
    {pieces : List (List Char)} (hds : piecesFrom (· == ',') (s.after cs) ds = piece :: pieces) :
    piecesFrom (· == ',') s (cs ++ ds) = (cs ++ piece) :: pieces :=
  Script.piecesFrom_append (fun p hp hcut => h p hp ⟨by simpa using hcut.1, hcut.2⟩) hds

/-- A text without a comma at the top is one piece. -/
theorem Cursor.Uncut.piecesFrom_eq {s : Cursor} (h : s.Uncut cs) :
    piecesFrom (· == ',') s cs = [cs] := by
  have hend : piecesFrom (· == ',') (s.after cs) [] = [[]] := rfl
  have hpieces := h.piecesFrom_append hend
  rwa [List.append_nil] at hpieces

/-- A comma at the top ends a piece, and the next one is cut as from a fresh start. -/
theorem Cursor.Uncut.piecesFrom_comma {s : Cursor} (h : s.Uncut cs)
    (htop : (s.after cs).atTop = true)
    (ds : List Char) :
    piecesFrom (· == ',') s (cs ++ ',' :: ds) = cs :: piecesFrom (· == ',') .start ds := by
  have hcut : ((',' == ',') && ((s.after cs).step ',').atTop) = true := by
    rw [Cursor.atTop_step_comma, htop]
    rfl
  have hcomma : piecesFrom (· == ',') (s.after cs) (',' :: ds) =
      [] :: piecesFrom (· == ',') .start ds := by
    rw [piecesFrom, if_pos hcut, Cursor.step_comma htop]
  have hpieces := h.piecesFrom_append hcomma
  rwa [List.append_nil] at hpieces

/-! ### Nested texts -/

/-- Does a text close its quotes and parentheses, with commas outside of them only where allowed? -/
inductive Nested : Bool → List Char → Prop
  | nil {commas : Bool} : Nested commas []
  | plain {commas : Bool} {c : Char} {cs : List Char} : Cursor.isPlain c = true →
      (c = ',' → commas = true) → Nested commas cs → Nested commas (c :: cs)
  | quoted {commas : Bool} {inner cs : List Char} : '"' ∉ inner → inner.getLast? ≠ some '\\' →
      Nested commas cs → Nested commas ('"' :: (inner ++ '"' :: cs))
  | group {commas : Bool} {inner cs : List Char} : Nested true inner → Nested commas cs →
      Nested commas ('(' :: (inner ++ ')' :: cs))

variable {commas : Bool}

theorem Nested.append (hcs : Nested commas cs) (hds : Nested commas ds) :
    Nested commas (cs ++ ds) := by
  induction hcs with
  | nil => exact hds
  | plain hc hcomma _ ih => exact .plain hc hcomma (ih hds)
  | quoted hinner hlast _ ih =>
    rw [List.cons_append, List.append_assoc, List.cons_append]
    exact .quoted hinner hlast (ih hds)
  | group hinner _ _ ih =>
    rw [List.cons_append, List.append_assoc, List.cons_append]
    exact .group hinner (ih hds)

theorem Nested.weaken (h : Nested commas cs) : Nested true cs := by
  induction h with
  | nil => exact .nil
  | plain hc _ _ ih => exact .plain hc (fun _ => rfl) ih
  | quoted hinner hlast _ ih => exact .quoted hinner hlast ih
  | group hinner _ _ ih => exact .group hinner ih

/-- A text without quotes, parentheses, backslashes and commas is nested. -/
theorem Nested.of_plain (h : ∀ c ∈ cs, Cursor.isPlain c = true ∧ c ≠ ',') : Nested commas cs := by
  induction cs with
  | nil => exact .nil
  | cons c cs ih =>
    obtain ⟨hc, hcomma⟩ := h c (by simp)
    exact .plain hc (fun heq => absurd heq hcomma) (ih fun d hd => h d (List.mem_cons_of_mem _ hd))

theorem plain_of_isBlank {c : Char} (h : isBlank c = true) :
    Cursor.isPlain c = true ∧ c ≠ ',' := by
  constructor
  · simp only [Cursor.isPlain, Bool.not_eq_true', List.contains_eq_mem, decide_eq_false_iff_not]
    intro hmem
    simp only [List.mem_cons, List.not_mem_nil, or_false] at hmem
    rcases hmem with rfl | rfl | rfl | rfl | rfl <;> exact absurd h (by decide)
  · rintro rfl
    exact absurd h (by decide)

theorem plain_of_isWordChar {c : Char} (h : isWordChar c = true) :
    Cursor.isPlain c = true ∧ c ≠ ',' := by
  constructor
  · simp only [Cursor.isPlain, Bool.not_eq_true', List.contains_eq_mem, decide_eq_false_iff_not]
    intro hmem
    simp only [List.mem_cons, List.not_mem_nil, or_false] at hmem
    rcases hmem with rfl | rfl | rfl | rfl | rfl <;> exact absurd h (by decide)
  · rintro rfl
    exact absurd h (by decide)

theorem Nested.of_blank (h : AllBlank cs) : Nested commas cs :=
  .of_plain fun c hc => plain_of_isBlank (h c hc)

/-- A blank neither leads away from the top nor back to it. -/
theorem Cursor.atTop_step_blank (s : Cursor) {c : Char} (hc : isBlank c = true) :
    (s.step c).atTop = s.atTop := by
  have hplain := (plain_of_isBlank hc).1
  simp only [isPlain, Bool.not_eq_true', List.contains_eq_mem, List.mem_cons, List.not_mem_nil,
    or_false, decide_eq_false_iff_not, not_or] at hplain
  obtain ⟨hopen, hclose, hsingle, hdouble, _⟩ := hplain
  simp [step, toggleQuotes, countParenthesis, atTop, quoted, hopen, hclose, hsingle, hdouble]

/-- In quotes a walk stays in quotes. -/
theorem walk_inQuotes {quote : Char} (hquote : quote = '\'' ∨ quote = '"') {inner : List Char}
    (hinner : quote ∉ inner) (depth : Nat) (b : Bool) :
    (Cursor.inQuotes quote depth b).after inner =
        Cursor.inQuotes quote depth (inner.getLast?.elim b fun c => decide (c = '\\')) ∧
      ∀ p ∈ scanFrom (Cursor.inQuotes quote depth b) inner, p.2.atTop = false := by
  induction inner generalizing b with
  | nil => exact ⟨rfl, by simp [scanFrom]⟩
  | cons c inner ih =>
    have hc : c ≠ quote := fun heq => hinner (by simp [heq])
    obtain ⟨hafter, htop⟩ :=
      ih (fun hmem => hinner (List.mem_cons_of_mem _ hmem)) (decide (c = '\\'))
    constructor
    · -- whether the text ends in a backslash is decided by its last character
      have hlast : (c :: inner).getLast?.elim b (fun c => decide (c = '\\')) =
          inner.getLast?.elim (decide (c = '\\')) fun c => decide (c = '\\') := by
        cases inner with
        | nil => rfl
        | cons d inner => rw [List.getLast?_cons_cons]; rfl
      rw [hlast, ← hafter, ← Cursor.step_inQuotes hquote hc depth b]
      rfl
    · intro p hp
      rw [scanFrom, Cursor.step_inQuotes hquote hc] at hp
      rcases List.mem_cons.mp hp with rfl | hp
      · exact Cursor.atTop_inQuotes hquote _ _
      · exact htop p hp

/-- A walk over a text in quotes of one kind comes back, and only after the closing quote it can be
at the top. -/
theorem walk_quoted {quote : Char} (hquote : quote = '\'' ∨ quote = '"') {inner : List Char}
    (hinner : quote ∉ inner) (hlast : inner.getLast? ≠ some '\\') (depth : Nat) :
    (Cursor.level depth).after (quote :: (inner ++ [quote])) = Cursor.level depth ∧
      ∀ p ∈ scanFrom (Cursor.level depth) (quote :: (inner ++ [quote])), p.2.atTop = true →
        p = (quote, Cursor.level depth) := by
  have hopen : (Cursor.level depth).step quote = Cursor.inQuotes quote depth false := by
    rcases hquote with rfl | rfl <;> rfl
  have hclose : (Cursor.inQuotes quote depth false).step quote = Cursor.level depth := by
    rcases hquote with rfl | rfl <;> rfl
  obtain ⟨hinside, hquiet⟩ := walk_inQuotes hquote hinner depth false
  -- the span ends in no backslash, so the quote behind it closes it
  have hend : (Cursor.inQuotes quote depth false).after inner =
      Cursor.inQuotes quote depth false := by
    rw [hinside]
    cases hl : inner.getLast? with
    | none => rfl
    | some c =>
      have hc : c ≠ '\\' := fun heq => hlast (by rw [hl, heq])
      simp [hc]
  constructor
  · show ((Cursor.level depth).step quote).after (inner ++ [quote]) = _
    rw [hopen, after_append, hend]
    exact hclose
  · intro p hp hatTop
    rw [scanFrom, hopen, scanFrom_append, hend, scanFrom, scanFrom, hclose] at hp
    rcases List.mem_cons.mp hp with rfl | hp
    · exact absurd hatTop (by simp [Cursor.atTop_inQuotes hquote])
    rcases List.mem_append.mp hp with hp | hp
    · exact absurd hatTop (by simp [hquiet p hp])
    · exact List.mem_singleton.mp hp

/-- A walk over a nested text comes back, and at the top it shows commas only where they are
allowed. -/
theorem Nested.walk (h : Nested commas cs) (depth : Nat) :
    (Cursor.level depth).after cs = Cursor.level depth ∧
      ∀ p ∈ scanFrom (Cursor.level depth) cs, p.2.atTop = true →
        depth = 0 ∧ (p.1 = ',' → commas = true) := by
  induction h generalizing depth with
  | nil => exact ⟨rfl, by simp [scanFrom]⟩
  | @plain commas c cs hc hcomma _ ih =>
    have hstep : (Cursor.level depth).step c = Cursor.level depth := Cursor.step_level hc
    obtain ⟨hafter, htop⟩ := ih depth
    constructor
    · show ((Cursor.level depth).step c).after cs = _
      rw [hstep, hafter]
    · intro p hp hatTop
      rw [scanFrom, hstep] at hp
      rcases List.mem_cons.mp hp with rfl | hp
      · exact ⟨Cursor.eq_zero_of_atTop_level hatTop, hcomma⟩
      · exact htop p hp hatTop
  | @quoted commas inner cs hinner hlast _ ih =>
    have hsplit : '"' :: (inner ++ '"' :: cs) = ('"' :: (inner ++ ['"'])) ++ cs := by simp
    obtain ⟨hback, hquiet⟩ := walk_quoted (.inr rfl) hinner hlast depth
    obtain ⟨hafter, htop⟩ := ih depth
    rw [hsplit, after_append, scanFrom_append, hback]
    refine ⟨hafter, fun p hp hatTop => ?_⟩
    rcases List.mem_append.mp hp with hp | hp
    · obtain rfl := hquiet p hp hatTop
      exact ⟨Cursor.eq_zero_of_atTop_level hatTop, fun heq => absurd heq (by simp)⟩
    · exact htop p hp hatTop
  | @group commas inner cs _ _ ihinner ih =>
    -- a group is scanned one level deeper, where nothing is at the top
    have hopen : (Cursor.level depth).step '(' = Cursor.level (depth + 1) := rfl
    obtain ⟨hinside, hquiet⟩ := ihinner (depth + 1)
    have hclose : (Cursor.level (depth + 1)).step ')' = Cursor.level depth := rfl
    obtain ⟨hafter, htop⟩ := ih depth
    constructor
    · show (((Cursor.level depth).step '(').after (inner ++ ')' :: cs)) = _
      rw [hopen, after_append, hinside]
      show ((Cursor.level (depth + 1)).step ')').after cs = _
      rw [hclose, hafter]
    · intro p hp hatTop
      rw [scanFrom, hopen, scanFrom_append, hinside, scanFrom, hclose] at hp
      rcases List.mem_cons.mp hp with rfl | hp
      · exact absurd (Cursor.eq_zero_of_atTop_level hatTop) (by omega)
      rcases List.mem_append.mp hp with hp | hp
      · exact absurd (hquiet p hp hatTop).1 (by omega)
      rcases List.mem_cons.mp hp with rfl | hp
      · exact ⟨Cursor.eq_zero_of_atTop_level hatTop, fun heq => absurd heq (by simp)⟩
      · exact htop p hp hatTop

/-! ### Pieces -/

/-- The parenthesis after a nested text closes the one before it. -/
theorem closingIndex_group {inner rest : List Char} (h : Nested true inner) :
    closingIndex ('(' :: (inner ++ ')' :: rest)) = some (inner.length + 1) := by
  have hopen : Cursor.start.step '(' = Cursor.level 1 := rfl
  obtain ⟨hafter, htop⟩ := h.walk 1
  have hquiet : ∀ p ∈ scanFrom (Cursor.level 1) inner, ¬(p.1 = ')' ∧ p.2.atTop = true) :=
    fun p hp hclosing => absurd (htop p hp hclosing.2).1 (by omega)
  have hclose : closingFrom (Cursor.level 1) (')' :: rest) = some 0 := rfl
  rw [closingIndex, closingFrom, if_neg (by decide), hopen, closingFrom_append hquiet,
    hafter, hclose]
  simp

theorem tidy_append (pieces more : List (List Char)) :
    tidy (pieces ++ more) = tidy pieces ++ tidy more := by
  simp [tidy]

theorem tidy_cons (piece : List Char) (pieces : List (List Char)) :
    tidy (piece :: pieces) = tidy [piece] ++ tidy pieces := tidy_append [piece] pieces

theorem tidy_surrounded {before after piece : List Char} (hbefore : AllBlank before)
    (hafter : AllBlank after) (hpiece : IsTrimmed piece) (hne : piece ≠ []) :
    tidy [before ++ (piece ++ after)] = [piece] := by
  rw [tidy, List.map_singleton, ← List.append_assoc, trim_surrounded hbefore hafter hpiece]
  simp [hne]

theorem tidy_of_isTrimmed {piece : List Char} (hpiece : IsTrimmed piece) (hne : piece ≠ []) :
    tidy [piece] = [piece] := by
  rw [tidy, List.map_singleton, trim_eq_self hpiece]
  simp [hne]

theorem tidy_of_blank (h : AllBlank cs) : tidy [cs] = [] := by
  simp [tidy, trim_of_blank h]

/-- Texts that leave their quotes and parentheses, and show no comma outside of them, are found
again. -/
theorem splitCommas_join_of_uncut {pieces : List (List Char)}
    (h : ∀ piece ∈ pieces, Cursor.start.Uncut piece ∧ (Cursor.start.after piece).atTop = true) :
    splitCommas ([','].intercalate pieces) = tidy pieces := by
  induction pieces with
  | nil => rfl
  | cons piece more ih =>
    obtain ⟨huncut, htop⟩ := h piece (by simp)
    have hrest := ih fun d hd => h d (List.mem_cons_of_mem _ hd)
    cases more with
    | nil => rw [List.intercalate_singleton, splitCommas, splitTop, huncut.piecesFrom_eq]
    | cons next more =>
      rw [List.intercalate_cons_cons, List.append_assoc, List.singleton_append, splitCommas,
        splitTop, huncut.piecesFrom_comma htop, tidy_cons, tidy_cons piece (next :: more)]
      exact congrArg (tidy [piece] ++ ·) hrest

theorem Nested.uncut (h : Nested false cs) : Cursor.start.Uncut cs := by
  rintro p hp ⟨hcomma, hatTop⟩
  exact absurd (((h.walk 0).2 p hp hatTop).2 hcomma) (by decide)

theorem Nested.atTop (h : Nested commas cs) : (Cursor.start.after cs).atTop = true := by
  show ((Cursor.level 0).after cs).atTop = true
  rw [(h.walk 0).1]
  rfl

/-- A comma after a nested text ends the first piece. -/
theorem splitCommas_cons (h : Nested false cs) (rest : List Char) :
    splitCommas (cs ++ ',' :: rest) = tidy [cs] ++ splitCommas rest := by
  rw [splitCommas, splitTop, h.uncut.piecesFrom_comma h.atTop, tidy_cons]
  rfl

/-- A nested text is one piece. -/
theorem splitCommas_of_nested (h : Nested false cs) : splitCommas cs = tidy [cs] := by
  rw [splitCommas, splitTop, h.uncut.piecesFrom_eq]

/-- Is a text one piece between commas, as it stands? -/
structure IsPiece (cs : List Char) : Prop where
  nested : Nested false cs
  trimmed : IsTrimmed cs
  ne_nil : cs ≠ []

/-- Is this text a list of written items, with commas between them and blanks around them? -/
inductive Separated {α : Type} (writes : List Char → α → Prop) : List Char → List α → Prop
  | last {before text after : List Char} {a : α} : AllBlank before → writes text a →
      AllBlank after → Separated writes (before ++ (text ++ after)) [a]
  | cons {before text after rest : List Char} {a : α} {as : List α} : AllBlank before →
      writes text a → AllBlank after → Separated writes rest as →
      Separated writes (before ++ (text ++ (after ++ ',' :: rest))) (a :: as)

section Separated

variable {α : Type} {writes : List Char → α → Prop} {as : List α}

/-- Written items are found again as the pieces between the commas. -/
theorem Separated.splitCommas (h : Separated writes cs as)
    (hpiece : ∀ text a, writes text a → IsPiece text) :
    List.Forall₂ writes (splitCommas cs) as := by
  induction h with
  | @last before text after a hbefore htext hafter =>
    obtain ⟨hnested, htrimmed, hne⟩ := hpiece text a htext
    have hall : Nested false (before ++ (text ++ after)) :=
      (Nested.of_blank hbefore).append (hnested.append (.of_blank hafter))
    rw [splitCommas_of_nested hall, tidy_surrounded hbefore hafter htrimmed hne]
    exact .cons htext .nil
  | @cons before text after rest a as hbefore htext hafter _ ih =>
    obtain ⟨hnested, htrimmed, hne⟩ := hpiece text a htext
    have hfront : Nested false (before ++ (text ++ after)) :=
      (Nested.of_blank hbefore).append (hnested.append (.of_blank hafter))
    have hsplit : before ++ (text ++ (after ++ ',' :: rest)) =
        (before ++ (text ++ after)) ++ ',' :: rest := by simp only [List.append_assoc]
    rw [hsplit, splitCommas_cons hfront, tidy_surrounded hbefore hafter htrimmed hne]
    exact .cons htext ih

theorem Separated.nested (h : Separated writes cs as)
    (hpiece : ∀ text a, writes text a → IsPiece text) : Nested true cs := by
  induction h with
  | last hbefore htext hafter =>
    exact (Nested.of_blank hbefore).append
      ((hpiece _ _ htext).nested.weaken.append (.of_blank hafter))
  | cons hbefore htext hafter _ ih =>
    exact (Nested.of_blank hbefore).append ((hpiece _ _ htext).nested.weaken.append
      ((Nested.of_blank hafter).append (.plain (by decide) (fun _ => rfl) ih)))

theorem Separated.ne_nil (h : Separated writes cs as)
    (hne : ∀ text a, writes text a → text ≠ []) : cs ≠ [] := by
  cases h with
  | last _ htext _ => simp [hne _ _ htext]
  | cons _ htext _ _ => simp

/-- What is no blank, no comma and in no item is not in the list. -/
theorem Separated.notMem (h : Separated writes cs as) {c : Char} (hblank : isBlank c = false)
    (hcomma : c ≠ ',') (hnot : ∀ text a, writes text a → c ∉ text) : c ∉ cs := by
  have hgap : ∀ gap, AllBlank gap → c ∉ gap := by
    intro gap hgap hmem
    rw [hgap c hmem] at hblank
    exact absurd hblank (by decide)
  induction h with
  | last hbefore htext hafter =>
    exact List.not_mem_append (hgap _ hbefore)
      (List.not_mem_append (hnot _ _ htext) (hgap _ hafter))
  | cons hbefore htext hafter _ ih =>
    refine List.not_mem_append (hgap _ hbefore) (List.not_mem_append (hnot _ _ htext)
      (List.not_mem_append (hgap _ hafter) fun hmem => ?_))
    exact (List.mem_cons.mp hmem).elim hcomma ih

end Separated

/-- Pieces with commas and blanks between them and around them are found again. -/
theorem splitCommas_intercalate {before gap after : List Char} (hbefore : AllBlank before)
    (hgap : AllBlank gap) (hafter : AllBlank after) {pieces : List (List Char)} (hne : pieces ≠ [])
    (h : ∀ piece ∈ pieces, IsPiece piece) :
    splitCommas (before ++ ((',' :: gap).intercalate pieces ++ after)) = pieces := by
  induction pieces generalizing before with
  | nil => exact absurd rfl hne
  | cons piece pieces ih =>
    obtain ⟨hnested, htrimmed, hpiece⟩ := h piece (by simp)
    have hfront : Nested false (before ++ piece) := (Nested.of_blank hbefore).append hnested
    cases pieces with
    | nil =>
      rw [List.intercalate_singleton, ← List.append_assoc,
        splitCommas_of_nested (hfront.append (.of_blank hafter)), List.append_assoc,
        tidy_surrounded hbefore hafter htrimmed hpiece]
    | cons next pieces =>
      have hrest := ih hgap (by simp) fun p hp => h p (List.mem_cons_of_mem _ hp)
      have hsplit : before ++ ((',' :: gap).intercalate (piece :: next :: pieces) ++ after) =
          (before ++ piece) ++
            ',' :: (gap ++ ((',' :: gap).intercalate (next :: pieces) ++ after)) := by
        rw [List.intercalate_cons_cons]
        simp only [List.append_assoc, List.cons_append]
      have htidy := tidy_surrounded hbefore allBlank_nil htrimmed hpiece
      rw [List.append_nil] at htidy
      rw [hsplit, splitCommas_cons hfront, hrest, htidy]
      rfl

theorem nested_intercalate {gap : List Char} (hgap : AllBlank gap) {pieces : List (List Char)}
    (h : ∀ piece ∈ pieces, Nested true piece) : Nested true ((',' :: gap).intercalate pieces) := by
  have hcomma : Nested true (',' :: gap) := .plain (by decide) (fun _ => rfl) (.of_blank hgap)
  induction pieces with
  | nil => exact .nil
  | cons piece pieces ih =>
    have hrest := ih fun p hp => h p (List.mem_cons_of_mem _ hp)
    cases pieces with
    | nil =>
      rw [List.intercalate_singleton]
      exact h piece (by simp)
    | cons next pieces =>
      rw [List.intercalate_cons_cons]
      exact ((h piece (by simp)).append hcomma).append hrest

/-- Pieces are parts of what is cut, the first one its start. -/
theorem isInfix_piecesFrom {isSeparator : Char → Bool} {s : Cursor} {first : List Char}
    {pieces : List (List Char)} (h : piecesFrom isSeparator s cs = first :: pieces) :
    first <+: cs ∧ ∀ piece ∈ pieces, piece <:+: cs := by
  induction cs generalizing s first pieces with
  | nil =>
    obtain ⟨rfl, rfl⟩ := List.cons.inj h
    simp
  | cons c cs ih =>
    obtain ⟨next, more, hnext⟩ :=
      List.exists_cons_of_ne_nil (piecesFrom_ne_nil isSeparator (s.step c) cs)
    obtain ⟨hstart, hinside⟩ := ih hnext
    have hcons : cs <:+: c :: cs := (List.suffix_cons c cs).isInfix
    rw [piecesFrom, hnext] at h
    split at h
    · obtain ⟨rfl, rfl⟩ := List.cons.inj h
      refine ⟨List.nil_prefix, fun piece hpiece => ?_⟩
      rcases List.mem_cons.mp hpiece with rfl | hpiece
      · exact hstart.isInfix.trans hcons
      · exact (hinside piece hpiece).trans hcons
    · obtain ⟨rfl, rfl⟩ := List.cons.inj h
      exact ⟨(List.prefix_cons_inj c).mpr hstart,
        fun piece hpiece => (hinside piece hpiece).trans hcons⟩

theorem isInfix_of_mem_splitCommas {piece : List Char} (h : piece ∈ splitCommas cs) :
    piece <:+: cs := by
  obtain ⟨hmem, _⟩ := List.mem_filter.mp h
  obtain ⟨untrimmed, huntrimmed, rfl⟩ := List.mem_map.mp hmem
  obtain ⟨first, pieces, hpieces⟩ :=
    List.exists_cons_of_ne_nil (piecesFrom_ne_nil (· == ',') .start cs)
  obtain ⟨hstart, hinside⟩ := isInfix_piecesFrom hpieces
  rw [hpieces] at huntrimmed
  refine (isInfix_trim untrimmed).trans ?_
  rcases List.mem_cons.mp huntrimmed with rfl | hpiece
  · exact hstart.isInfix
  · exact hinside untrimmed hpiece

theorem mem_of_mem_splitCommas {piece : List Char} (h : piece ∈ splitCommas cs) {c : Char}
    (hc : c ∈ piece) : c ∈ cs :=
  (isInfix_of_mem_splitCommas h).subset hc

/-! ### Statements -/

theorem piecesAt_append (separator : Char) (cs ds : List Char) :
    piecesAt separator (cs ++ separator :: ds) =
      piecesAt separator cs ++ piecesAt separator ds := by
  induction cs with
  | nil => simp [piecesAt]
  | cons c cs ih =>
    rw [List.cons_append, piecesAt, piecesAt, ih]
    split
    · rfl
    · obtain ⟨piece, pieces, hpieces⟩ := List.exists_cons_of_ne_nil (piecesAt_ne_nil separator cs)
      rw [hpieces]
      rfl

theorem piecesAt_of_notMem {separator : Char} (h : separator ∉ cs) :
    piecesAt separator cs = [cs] := by
  induction cs with
  | nil => rfl
  | cons c cs ih =>
    have hc : c ≠ separator := fun heq => h (by simp [heq])
    rw [piecesAt, if_neg hc, ih fun hmem => h (List.mem_cons_of_mem _ hmem)]
    rfl

/-- A semicolon ends a statement wherever it stands. -/
theorem splitStatements_append (cs ds : List Char) :
    splitStatements (cs ++ ';' :: ds) = splitStatements cs ++ splitStatements ds := by
  rw [splitStatements, piecesAt_append, tidy_append]
  rfl

theorem splitStatements_of_notMem (h : ';' ∉ cs) : splitStatements cs = tidy [cs] := by
  rw [splitStatements, piecesAt_of_notMem h]

/-- Blanks before a script do not count. -/
theorem splitStatements_gap {gap : List Char} (hgap : AllBlank gap) (cs : List Char) :
    splitStatements (gap ++ cs) = splitStatements cs := by
  induction gap with
  | nil => rfl
  | cons c gap ih =>
    have hblank : AllBlank [c] :=
      fun d hd => hgap d (by simpa using Or.inl (List.mem_singleton.mp hd))
    have hc : c ≠ ';' := fun heq => absurd (hgap c (by simp)) (by rw [heq]; decide)
    obtain ⟨piece, pieces, hpieces⟩ :=
      List.exists_cons_of_ne_nil (piecesAt_ne_nil ';' (gap ++ cs))
    have hfirst : tidy [c :: piece] = tidy [piece] := by
      have htrim := trim_append_left hblank piece
      rw [List.singleton_append] at htrim
      simp only [tidy, List.map_singleton, htrim]
    rw [← ih fun d hd => hgap d (List.mem_cons_of_mem _ hd), splitStatements, splitStatements,
      List.cons_append, piecesAt, if_neg hc, hpieces, consHead, tidy_cons, hfirst, ← tidy_cons]

/-- Blanks after a script do not count. -/
theorem splitStatements_append_gap {gap : List Char} (hgap : AllBlank gap) (cs : List Char) :
    splitStatements (cs ++ gap) = splitStatements cs := by
  induction hlength : cs.length using Nat.strong_induction_on generalizing cs with
  | _ length ih =>
    by_cases hsemi : ';' ∈ cs
    · obtain ⟨before, after, rfl⟩ := List.append_of_mem hsemi
      have hshorter : after.length < length := by
        rw [← hlength, List.length_append, List.length_cons]
        omega
      rw [List.append_assoc, List.cons_append, splitStatements_append, splitStatements_append,
        ih after.length hshorter after rfl]
    · have hgapsemi : ';' ∉ gap := fun hmem => absurd (hgap ';' hmem) (by decide)
      have hboth : ';' ∉ cs ++ gap := by simp [hsemi, hgapsemi]
      rw [splitStatements_of_notMem hboth, splitStatements_of_notMem hsemi, tidy, tidy,
        List.map_singleton, List.map_singleton, trim_append_right hgap]

theorem splitStatements_trim (cs : List Char) :
    splitStatements (trim cs) = splitStatements cs := by
  obtain ⟨before, after, hbefore, hafter, hcs⟩ := exists_trim cs
  conv_rhs => rw [hcs]
  rw [splitStatements_gap hbefore, splitStatements_append_gap hafter]

theorem notMem_of_mem_piecesAt {separator : Char} {piece : List Char}
    (h : piece ∈ piecesAt separator cs) : separator ∉ piece := by
  induction cs generalizing piece with
  | nil => simp_all [piecesAt]
  | cons c cs ih =>
    rw [piecesAt] at h
    split at h
    · rcases List.mem_cons.mp h with rfl | h
      · simp
      · exact ih h
    · rename_i hc
      obtain ⟨first, pieces, hpieces⟩ := List.exists_cons_of_ne_nil (piecesAt_ne_nil separator cs)
      rw [hpieces] at h ih
      rcases List.mem_cons.mp h with rfl | h
      · intro hmem
        rcases List.mem_cons.mp hmem with heq | hmem
        · exact hc heq.symm
        · exact ih (by simp) hmem
      · exact ih (List.mem_cons_of_mem _ h)

theorem isInfix_piecesAt {separator : Char} {first : List Char} {pieces : List (List Char)}
    (h : piecesAt separator cs = first :: pieces) :
    first <+: cs ∧ ∀ piece ∈ pieces, piece <:+: cs := by
  induction cs generalizing first pieces with
  | nil =>
    obtain ⟨rfl, rfl⟩ := List.cons.inj h
    simp
  | cons c cs ih =>
    obtain ⟨next, more, hnext⟩ := List.exists_cons_of_ne_nil (piecesAt_ne_nil separator cs)
    obtain ⟨hstart, hinside⟩ := ih hnext
    have hcons : cs <:+: c :: cs := (List.suffix_cons c cs).isInfix
    rw [piecesAt, hnext] at h
    -- a separator starts a new piece, any other character joins the first
    split at h
    · obtain ⟨rfl, rfl⟩ := List.cons.inj h
      refine ⟨List.nil_prefix, fun piece hpiece => ?_⟩
      rcases List.mem_cons.mp hpiece with rfl | hpiece
      · exact hstart.isInfix.trans hcons
      · exact (hinside piece hpiece).trans hcons
    · obtain ⟨rfl, rfl⟩ := List.cons.inj h
      exact ⟨(List.prefix_cons_inj c).mpr hstart,
        fun piece hpiece => (hinside piece hpiece).trans hcons⟩

/-- No statement contains a semicolon, and none is a piece of anything but the script. -/
theorem of_mem_splitStatements {statement : List Char} (h : statement ∈ splitStatements cs) :
    ';' ∉ statement ∧ statement <:+: cs := by
  obtain ⟨hmem, _⟩ := List.mem_filter.mp h
  obtain ⟨piece, hpiece, rfl⟩ := List.mem_map.mp hmem
  have hinfix : piece <:+: cs := by
    obtain ⟨first, pieces, hpieces⟩ := List.exists_cons_of_ne_nil (piecesAt_ne_nil ';' cs)
    obtain ⟨hstart, hinside⟩ := isInfix_piecesAt hpieces
    rw [hpieces] at hpiece
    rcases List.mem_cons.mp hpiece with rfl | hpiece
    · exact hstart.isInfix
    · exact hinside piece hpiece
  exact ⟨fun hsemi => notMem_of_mem_piecesAt hpiece ((isInfix_trim piece).subset hsemi),
    (isInfix_trim piece).trans hinfix⟩

/-! ### Comments -/

theorem dropBlockComments_of_avoids (h : Avoids '/' '*' cs) : dropBlockComments cs = cs := by
  fun_induction dropBlockComments cs with
  | case1 cs rest hrest ih => exact absurd ⟨rfl, rfl⟩ (avoids_cons_cons.mp h).1
  | case2 cs hrest ih => exact absurd ⟨rfl, rfl⟩ (avoids_cons_cons.mp h).1
  | case3 c cs hno ih => rw [ih (h.of_isInfix (List.suffix_cons c cs).isInfix)]
  | case4 => rfl

theorem dropLineComments_of_avoids (h : Avoids '-' '-' cs) : dropLineComments cs = cs := by
  induction cs with
  | nil => rfl
  | cons c cs ih =>
    have hrest : dropLineCommentsFrom false cs = cs :=
      ih (h.of_isInfix (List.suffix_cons c cs).isInfix)
    rw [dropLineComments, dropLineCommentsFrom, hrest]
    rintro rest rfl rfl
    exact (avoids_cons_cons.mp h).1 ⟨rfl, rfl⟩

/-- No mark of a line comment is left, and a dash comes first only where one came first. -/
theorem avoids_dropLineCommentsFrom (inside : Bool) (cs : List Char) :
    Avoids '-' '-' (dropLineCommentsFrom inside cs) ∧
      ((dropLineCommentsFrom inside cs).head? = some '-' →
        inside = false ∧ cs.head? = some '-') := by
  fun_induction dropLineCommentsFrom inside cs with
  | case1 inside => exact ⟨avoids_nil, by simp⟩
  | case2 cs ih =>
    refine ⟨?_, by simp⟩
    cases hout : dropLineCommentsFrom false cs with
    | nil => exact avoids_singleton _
    | cons d out => exact avoids_cons_cons.mpr ⟨by simp, hout ▸ ih.1⟩
  | case3 c cs hc ih => exact ⟨ih.1, fun hhead => absurd (ih.2 hhead).1 (by decide)⟩
  | case4 cs ih => exact ⟨ih.1, fun hhead => absurd (ih.2 hhead).1 (by decide)⟩
  | case5 c cs hpair ih =>
    refine ⟨?_, fun hhead => ⟨rfl, hhead⟩⟩
    cases hout : dropLineCommentsFrom false cs with
    | nil => exact avoids_singleton _
    | cons d out =>
      rw [hout] at ih
      refine avoids_cons_cons.mpr ⟨?_, ih.1⟩
      rintro ⟨rfl, rfl⟩
      obtain ⟨rest, rfl⟩ := List.head?_eq_some_iff.mp (ih.2 rfl).2
      exact hpair rest rfl rfl

/-- Without comments a text has no marks of line comments. -/
theorem avoids_dropLineComments (cs : List Char) : Avoids '-' '-' (dropLineComments cs) :=
  (avoids_dropLineCommentsFrom false cs).1

end SchemaDraft.Script
