import SchemaDraft.Proofs.Script.Stops
import SchemaDraft.Proofs.Script.WrittenTable

/-!
The body of a created table, whatever stands in it. A statement has a body if words that create a
table are read up to its parenthesis and that parenthesis is closed (`HasBody`). The definitions of
such a body are complete: each leaves its quotes and parentheses, and shows no comma and no
partnerless parenthesis at the top (`HasBody.completes`). So complete definitions can take the place
of a body: joined by commas they are closed by the parenthesis after them (`HasBody.replace`) and
found again (`splitCommas_join`). What comes after the body of a statement does not count
(`readTable_take_append`).
-/

namespace SchemaDraft.Script

open Reader Text

variable {cs ds rest head name body tail : List Char} {s : Cursor}

/-! ### Walks inside a parenthesis -/

namespace Cursor

/-- The cursor that stands in one more parenthesis. -/
def deeper (s : Cursor) : Cursor := { s with depth := s.depth + 1 }

/-- Is the rest of a definition complete? It comes back to the top, and on its way shows no comma
and no closing parenthesis there. -/
def completes (s : Cursor) : List Char → Bool
  | [] => s.atTop
  | c :: cs => !(s.atTop && (c == ',' || c == ')')) && completes (s.step c) cs

theorem atTop_deeper (s : Cursor) : s.deeper.atTop = false := rfl

theorem quoted_deeper (s : Cursor) : s.deeper.quoted = s.quoted := rfl

theorem toggleQuotes_deeper (s : Cursor) (c : Char) :
    s.deeper.toggleQuotes c = (s.toggleQuotes c).deeper := by
  unfold toggleQuotes
  by_cases hsingle : c = '\'' ∧ s.inDouble = false ∧ s.afterBackslash = false
  · rw [if_pos hsingle]
    exact if_pos hsingle
  · rw [if_neg hsingle]
    refine (if_neg hsingle).trans ?_
    by_cases hdouble : c = '"' ∧ s.inSingle = false ∧ s.afterBackslash = false
    · rw [if_pos hdouble]
      exact if_pos hdouble
    · rw [if_neg hdouble]
      exact if_neg hdouble

/-- The parenthesis outside counts for no step but one that closes it. -/
theorem step_deeper {c : Char} (h : ¬(c = ')' ∧ s.atTop = true)) :
    s.deeper.step c = (s.step c).deeper := by
  by_cases hclose : c = ')'
  · -- a closing parenthesis: within quotes it counts for neither cursor
    subst hclose
    obtain ⟨depth, inSingle, inDouble, afterBackslash⟩ := s
    cases hquoted : inSingle || inDouble with
    | true => cases inSingle <;> cases inDouble <;> first | rfl | cases hquoted
    | false =>
      obtain ⟨rfl, rfl⟩ := Bool.or_eq_false_iff.mp hquoted
      cases depth with
      | zero => exact absurd ⟨rfl, rfl⟩ h
      | succ depth => rfl
  · have hcount : ∀ t : Cursor, t.deeper.countParenthesis c = (t.countParenthesis c).deeper := by
      intro t
      simp only [countParenthesis, quoted_deeper, hclose, if_false]
      cases t.quoted with
      | true => rfl
      | false =>
        by_cases hopen : c = '('
        · simp [hopen, deeper]
        · simp [hopen]
    rw [step, toggleQuotes_deeper, hcount]
    rfl

theorem atTop_step_deeper (s : Cursor) : (s.deeper.step ')').atTop = s.atTop := by
  obtain ⟨depth, inSingle, inDouble, afterBackslash⟩ := s
  cases inSingle <;> cases inDouble <;>
    simp [step, toggleQuotes, countParenthesis, deeper, atTop, quoted]

/-- A walk over a complete definition. -/
theorem completes_cons {c : Char} : s.completes (c :: cs) = true ↔
    ¬(s.atTop = true ∧ (c = ',' ∨ c = ')')) ∧ (s.step c).completes cs = true := by
  rw [completes, Bool.and_eq_true, Bool.not_eq_true', ← Bool.not_eq_true]
  simp only [Bool.and_eq_true, Bool.or_eq_true, beq_iff_eq]

theorem completes.walk (h : s.completes cs = true) :
    (s.after cs).atTop = true ∧ s.deeper.after cs = (s.after cs).deeper ∧
      s.Uncut cs ∧ ∀ p ∈ scanFrom s.deeper cs, ¬(p.1 = ')' ∧ p.2.atTop = true) := by
  induction cs generalizing s with
  | nil => exact ⟨h, rfl, by simp [Uncut, scanFrom], by simp [scanFrom]⟩
  | cons c cs ih =>
    obtain ⟨hfirst, hrest⟩ := completes_cons.mp h
    have hstep : s.deeper.step c = (s.step c).deeper :=
      step_deeper fun hclose => hfirst ⟨hclose.2, .inr hclose.1⟩
    obtain ⟨htop, hdeeper, hcommas, hclosings⟩ := ih hrest
    refine ⟨htop, ?_, fun p hp => ?_, fun p hp => ?_⟩
    · show (s.deeper.step c).after cs = _
      rw [hstep, hdeeper]
      rfl
    · rw [scanFrom] at hp
      rcases List.mem_cons.mp hp with rfl | hp
      · rintro ⟨rfl, hatTop⟩
        exact hfirst ⟨by rwa [atTop_step_comma] at hatTop, .inl rfl⟩
      · exact hcommas p hp
    · rw [scanFrom, hstep] at hp
      rcases List.mem_cons.mp hp with rfl | hp
      · exact fun hclose => absurd hclose.2 (by simp [atTop_deeper])
      · exact hclosings p hp

end Cursor

/-! ### Complete definitions -/

/-- One step on the way to the parenthesis that closes the one outside. -/
theorem closingFrom_deeper_cons (s : Cursor) (c : Char) (cs : List Char) :
    closingFrom s.deeper (c :: cs) = if c = ')' ∧ s.atTop = true then some 0
      else (closingFrom (s.step c).deeper cs).map (· + 1) := by
  by_cases hclose : c = ')' ∧ s.atTop = true
  · obtain ⟨rfl, htop⟩ := hclose
    rw [closingFrom, Cursor.atTop_step_deeper, if_pos ⟨rfl, htop⟩, if_pos ⟨rfl, htop⟩]
  · have hstep := Cursor.step_deeper hclose
    have hopen : ¬(c = ')' ∧ (s.deeper.step c).atTop = true) := by
      rw [hstep, Cursor.atTop_deeper]
      simp
    rw [closingFrom, if_neg hopen, if_neg hclose, hstep]

theorem closingIndex_cons (cs : List Char) :
    closingIndex ('(' :: cs) = (closingFrom Cursor.start.deeper cs).map (· + 1) := by
  have hopen : Cursor.start.step '(' = Cursor.start.deeper := rfl
  rw [closingIndex, closingFrom, if_neg (by decide), hopen]

/-- What a closed parenthesis holds falls into complete definitions. -/
theorem completes_of_closingFrom (h : closingFrom s.deeper (cs ++ ')' :: tail) = some cs.length)
    {first : List Char} {pieces : List (List Char)}
    (hpieces : piecesFrom (· == ',') s cs = first :: pieces) :
    s.completes first = true ∧ ∀ piece ∈ pieces, Cursor.start.completes piece = true := by
  -- on the body, which ends where the depth first comes back to the top
  induction cs generalizing s first pieces with
  | nil =>
    obtain ⟨rfl, rfl⟩ := List.cons.inj hpieces
    rw [List.nil_append, closingFrom_deeper_cons] at h
    split at h
    · rename_i hclose
      exact ⟨hclose.2, by simp⟩
    · obtain ⟨n, _, hn⟩ := Option.map_eq_some_iff.mp h
      exact absurd hn (by simp)
  | cons c cs ih =>
    rw [List.cons_append, closingFrom_deeper_cons] at h
    split at h
    · exact absurd (Option.some.inj h) (by simp)
    rename_i hopen
    obtain ⟨n, hclosing, hn⟩ := Option.map_eq_some_iff.mp h
    obtain rfl : n = cs.length := by simpa using hn
    obtain ⟨next, more, hnext⟩ :=
      List.exists_cons_of_ne_nil (piecesFrom_ne_nil (· == ',') (s.step c) cs)
    obtain ⟨hfirst, hrest⟩ := ih hclosing hnext
    rw [piecesFrom, hnext] at hpieces
    split at hpieces
    · rename_i hcomma
      obtain ⟨rfl, rfl⟩ := List.cons.inj hpieces
      rw [Bool.and_eq_true, beq_iff_eq] at hcomma
      -- a comma at the top: one piece is complete and the next one starts afresh
      obtain ⟨rfl, htop⟩ := hcomma
      rw [Cursor.atTop_step_comma] at htop
      rw [Cursor.step_comma htop] at hfirst
      refine ⟨htop, fun piece hpiece => ?_⟩
      rcases List.mem_cons.mp hpiece with rfl | hpiece
      · exact hfirst
      · exact hrest piece hpiece
    · rename_i hcomma
      obtain ⟨rfl, rfl⟩ := List.cons.inj hpieces
      refine ⟨Cursor.completes_cons.mpr ⟨?_, hfirst⟩, hrest⟩
      rintro ⟨htop, rfl | rfl⟩
      · exact hcomma (by rw [Cursor.atTop_step_comma, htop]; rfl)
      · exact hopen ⟨rfl, htop⟩

/-- A complete definition does not close the parenthesis that it stands in. -/
theorem closingFrom_completes (h : s.completes cs = true) (ds : List Char) :
    closingFrom s.deeper (cs ++ ds) =
      (closingFrom (s.after cs).deeper ds).map (· + cs.length) := by
  obtain ⟨_, hdeeper, _, hquiet⟩ := Cursor.completes.walk h
  rw [closingFrom_append hquiet, hdeeper]

theorem completes_of_gap_append {gap : List Char} (hgap : AllBlank gap)
    (h : Cursor.start.completes (gap ++ cs) = true) : Cursor.start.completes cs = true := by
  induction gap with
  | nil => exact h
  | cons c gap ih =>
    have hstep : Cursor.start.step c = .start :=
      @Cursor.step_level 0 c (plain_of_isBlank (hgap c (by simp))).1
    have hrest := (Cursor.completes_cons.mp h).2
    rw [hstep] at hrest
    exact ih (fun d hd => hgap d (List.mem_cons_of_mem _ hd)) hrest

theorem completes_of_append_gap {gap : List Char} (hgap : AllBlank gap)
    (h : s.completes (cs ++ gap) = true) : s.completes cs = true := by
  induction cs generalizing s with
  | nil =>
    induction gap generalizing s with
    | nil => exact h
    | cons c gap ih =>
      have hrest :=
        ih (fun d hd => hgap d (List.mem_cons_of_mem _ hd)) (Cursor.completes_cons.mp h).2
      exact (Cursor.atTop_step_blank s (hgap c (by simp))).symm.trans hrest
  | cons c cs ih =>
    obtain ⟨hfirst, hrest⟩ := Cursor.completes_cons.mp h
    exact Cursor.completes_cons.mpr ⟨hfirst, ih hrest⟩

/-- Blanks around a definition do not count. -/
theorem completes_trim (h : Cursor.start.completes cs = true) :
    Cursor.start.completes (trim cs) = true := by
  obtain ⟨before, after, hbefore, hafter, hcs⟩ := exists_trim cs
  rw [hcs] at h
  exact completes_of_append_gap hafter (completes_of_gap_append hbefore h)

/-- The pieces between commas, joined by commas, are the text again. -/
theorem intercalate_piecesFrom (s : Cursor) (cs : List Char) :
    [','].intercalate (piecesFrom (· == ',') s cs) = cs := by
  induction cs generalizing s with
  | nil => rfl
  | cons c cs ih =>
    obtain ⟨next, more, hnext⟩ :=
      List.exists_cons_of_ne_nil (piecesFrom_ne_nil (· == ',') (s.step c) cs)
    have hrest := ih (s.step c)
    rw [piecesFrom, hnext]
    rw [hnext] at hrest
    split
    · rename_i hcomma
      obtain ⟨rfl, _⟩ : c = ',' ∧ _ := by simpa using hcomma
      rw [List.intercalate_cons_cons, hrest]
      rfl
    · cases more with
      | nil =>
        rw [List.intercalate_singleton] at hrest
        rw [hrest]
        exact List.intercalate_singleton
      | cons another more =>
        rw [List.intercalate_cons_cons] at hrest
        rw [Text.consHead, List.intercalate_cons_cons, List.cons_append, List.cons_append, hrest]

/-- Complete pieces joined by commas are found again. -/
theorem splitCommas_join {pieces : List (List Char)}
    (h : ∀ piece ∈ pieces, Cursor.start.completes piece = true) :
    splitCommas ([','].intercalate pieces) = tidy pieces := by
  refine splitCommas_join_of_uncut fun piece hpiece => ?_
  obtain ⟨htop, _, huncut, _⟩ := Cursor.completes.walk (h piece hpiece)
  exact ⟨huncut, htop⟩

theorem closingFrom_join {pieces : List (List Char)}
    (h : ∀ piece ∈ pieces, Cursor.start.completes piece = true) (tail : List Char) :
    closingFrom Cursor.start.deeper ([','].intercalate pieces ++ ')' :: tail) =
      some ([','].intercalate pieces).length := by
  -- on the pieces: each leaves the cursor at the top, where a comma changes nothing
  induction pieces with
  | nil => rfl
  | cons piece more ih =>
    have hfirst := h piece (by simp)
    have htop := (Cursor.completes.walk hfirst).1
    have hrest := ih fun d hd => h d (List.mem_cons_of_mem _ hd)
    cases more with
    | nil =>
      rw [List.intercalate_singleton, closingFrom_completes hfirst, closingFrom_deeper_cons,
        if_pos ⟨rfl, htop⟩]
      simp
    | cons next more =>
      rw [List.intercalate_cons_cons, List.append_assoc, List.append_assoc, List.singleton_append,
        closingFrom_completes hfirst, closingFrom_deeper_cons, if_neg (by simp),
        Cursor.step_comma htop, hrest]
      simp only [Option.map_some, List.length_append, List.length_singleton]
      congr 1
      omega

/-- The parenthesis after complete pieces joined by commas closes the one before them. -/
theorem closingIndex_join {pieces : List (List Char)}
    (h : ∀ piece ∈ pieces, Cursor.start.completes piece = true) (tail : List Char) :
    closingIndex ('(' :: ([','].intercalate pieces ++ ')' :: tail)) =
      some (([','].intercalate pieces).length + 1) := by
  rw [closingIndex_cons, closingFrom_join h]
  rfl

/-! ### Statements with a body -/

/-- Is this a statement that creates a table, cut at the parentheses of its body? -/
structure HasBody (head name body tail : List Char) : Prop where
  opens : createTable (head ++ '(' :: (body ++ ')' :: tail)) =
    some (name, '(' :: (body ++ ')' :: tail))
  closes : closingIndex ('(' :: (body ++ ')' :: tail)) = some (body.length + 1)

theorem closingFrom_eq_some {n : Nat} (h : closingFrom s cs = some n) :
    ∃ before after, cs = before ++ ')' :: after ∧ before.length = n := by
  induction cs generalizing s n with
  | nil => exact absurd h (by simp [closingFrom])
  | cons c cs ih =>
    rw [closingFrom] at h
    split at h
    · rename_i hclose
      obtain rfl := Option.some.inj h
      exact ⟨[], cs, by rw [hclose.1]; rfl, rfl⟩
    · obtain ⟨m, hm, rfl⟩ := Option.map_eq_some_iff.mp h
      obtain ⟨before, after, rfl, rfl⟩ := ih hm
      exact ⟨c :: before, after, rfl, rfl⟩

/-- Every statement that starts with words that create a table and closes its parenthesis has a
body. -/
theorem exists_hasBody {after : List Char} {index : Nat}
    (hopens : createTable cs = some (name, after)) (hcloses : closingIndex after = some index) :
    ∃ head body tail, cs = head ++ '(' :: (body ++ ')' :: tail) ∧ HasBody head name body tail := by
  obtain ⟨lead, gap, rfl, _, _, _, hhead⟩ := createTable_eq_some hopens
  obtain ⟨inner, rfl⟩ := List.head?_eq_some_iff.mp hhead
  obtain ⟨n, hn, rfl⟩ := Option.map_eq_some_iff.mp (closingIndex_cons inner ▸ hcloses)
  obtain ⟨body, tail, rfl, rfl⟩ := closingFrom_eq_some hn
  refine ⟨lead ++ (name ++ gap), body, tail, by simp, ⟨?_, hcloses⟩⟩
  simpa only [List.append_assoc] using hopens

/-- The words before the name of a created table. -/
def tableWords : Reader Unit := do
  keyword "CREATE"
  let _ ← blanks
  Reader.optional (wordAndBlanks ["GLOBAL", "LOCAL"])
  Reader.optional (wordAndBlanks ["TEMPORARY", "TEMP", "UNLOGGED"])
  keyword "TABLE"
  let _ ← blanks
  Reader.optional condition

theorem createTable_eq_tableWords : createTable =
    (tableWords >>= fun _ => qualifiedName >>= fun name => Reader.gap >>= fun _ =>
      fun cs => if cs.head? = some '(' then some (name, cs) else none) := by
  funext cs
  simp only [createTable_eq, tableWords, bind_apply, Option.bind_assoc]

theorem stopsAt_wordAndBlanks {words : List String} (hwords : ∀ word ∈ words, word ∈ keywords) :
    StopsAt '(' (wordAndBlanks words) :=
  (stopsAt_anyKeyword hwords (by decide)).bind fun _ =>
    (stopsAt_blanks (by decide)).bind fun _ => stopsAt_pure ()

theorem stopsAt_tableWords : StopsAt '(' tableWords := by
  have hcondition : StopsAt '(' condition :=
    (stopsAt_phrase (by decide) (by decide) (by decide)).bind fun _ =>
      (stopsAt_blanks (by decide)).bind fun _ => stopsAt_pure ()
  exact (stopsAt_keyword (by decide) (by decide)).bind fun _ =>
    (stopsAt_blanks (by decide)).bind fun _ =>
    (stopsAt_wordAndBlanks (by decide)).optional.bind fun _ =>
    (stopsAt_wordAndBlanks (by decide)).optional.bind fun _ =>
    (stopsAt_keyword (by decide) (by decide)).bind fun _ =>
    (stopsAt_blanks (by decide)).bind fun _ => hcondition.optional

/-- What is read before the body does not depend on the body. -/
theorem createTable_replace (h : createTable (head ++ '(' :: cs) = some (name, '(' :: cs))
    (ds : List Char) : createTable (head ++ '(' :: ds) = some (name, '(' :: ds) := by
  rw [createTable_eq_tableWords] at h ⊢
  obtain ⟨_, mid, hwords, h⟩ := bind_eq_some h
  obtain ⟨left, hleft, rfl⟩ := stopsAt_tableWords.read hwords
  obtain ⟨path, afterPath, hpath, h⟩ := bind_eq_some h
  obtain ⟨gap, afterGap, hgap, h⟩ := bind_eq_some h
  obtain ⟨rfl, rfl⟩ : path = name ∧ afterGap = '(' :: cs := by
    split at h
    · exact Prod.mk.inj (Option.some.inj h)
    · cases h
  obtain ⟨hsplit, hblank⟩ := gap_eq_some hgap
  obtain ⟨target, htarget⟩ := writesPath_of_qualifiedName hpath
  -- the words end where the path begins, and neither looks beyond the parenthesis
  have hsplit' : left = path ++ gap := by
    have hall := (qualifiedName_eq_some hpath).1
    rw [hsplit, ← List.append_assoc] at hall
    exact List.append_cancel_right hall
  have hwords' : tableWords (head ++ '(' :: ds) = some ((), path ++ (gap ++ '(' :: ds)) := by
    rw [stopsAt_tableWords head ds, hleft, hsplit']
    simp
  rw [bind_of_eq hwords', bind_of_eq
    (qualifiedName_append htarget (starts_isBreak_list hblank) (noDotNext_list hblank))]
  exact (bind_of_eq (gap_list hblank) _).trans (if_pos rfl)

/-- The table of a statement with a body has the clauses of its definitions. -/
theorem HasBody.readTable (h : HasBody head name body tail) :
    readTable (head ++ '(' :: (body ++ ')' :: tail)) =
      let table := String.ofList (normalTableName name)
      ⟨some (.ofClauses table (readBody table body)),
        (readBody table body).filterMap Clause.notice?⟩ := by
  have hinner : (('(' :: (body ++ ')' :: tail)).take (body.length + 1)).drop 1 = body := by simp
  simp only [Script.readTable, search_of_read h.opens, h.closes, hinner]

/-- The pieces of a body are complete. -/
theorem HasBody.completes (h : HasBody head name body tail) :
    ∀ piece ∈ piecesFrom (· == ',') .start body, Cursor.start.completes piece = true := by
  have hclosing : closingFrom Cursor.start.deeper (body ++ ')' :: tail) = some body.length := by
    have hcloses := h.closes
    rw [closingIndex_cons] at hcloses
    obtain ⟨n, hn, hlength⟩ := Option.map_eq_some_iff.mp hcloses
    obtain rfl : n = body.length := by simpa using hlength
    exact hn
  obtain ⟨first, pieces, hpieces⟩ :=
    List.exists_cons_of_ne_nil (piecesFrom_ne_nil (· == ',') .start body)
  obtain ⟨hfirst, hrest⟩ := completes_of_closingFrom hclosing hpieces
  rw [hpieces]
  exact List.forall_mem_cons.mpr ⟨hfirst, hrest⟩

/-- Complete pieces can take the place of those of a body, and whatever comes after it does not
count. -/
theorem HasBody.replace (h : HasBody head name body tail) {pieces : List (List Char)}
    (hpieces : ∀ piece ∈ pieces, Cursor.start.completes piece = true) (tail' : List Char) :
    HasBody head name ([','].intercalate pieces) tail' :=
  ⟨createTable_replace h.opens _, closingIndex_join hpieces tail'⟩

/-! ### Definitions -/

/-- Is this a complete definition, without blanks around it? -/
structure IsDefinition (cs : List Char) : Prop where
  complete : Cursor.start.completes cs = true
  trimmed : IsTrimmed cs
  ne_nil : cs ≠ []

theorem HasBody.isDefinition (h : HasBody head name body tail) {definition : List Char}
    (hmem : definition ∈ splitCommas body) : IsDefinition definition := by
  obtain ⟨hmem, hne⟩ := List.mem_filter.mp hmem
  obtain ⟨piece, hpiece, rfl⟩ := List.mem_map.mp hmem
  exact ⟨completes_trim (h.completes piece hpiece), isTrimmed_trim piece, by simpa using hne⟩

theorem tidy_definitions {definitions : List (List Char)}
    (h : ∀ definition ∈ definitions, IsDefinition definition) : tidy definitions = definitions := by
  induction definitions with
  | nil => rfl
  | cons definition more ih =>
    have hfirst := h definition (by simp)
    rw [tidy_cons, tidy_of_isTrimmed hfirst.trimmed hfirst.ne_nil,
      ih fun d hd => h d (List.mem_cons_of_mem _ hd), List.singleton_append]

/-! ### What follows a body -/

/-- The body stays the body whatever comes after it. -/
theorem HasBody.withTail (h : HasBody head name body tail) (tail' : List Char) :
    HasBody head name body tail' := by
  have hbody := h.replace h.completes tail'
  rwa [intercalate_piecesFrom] at hbody

/-- The parenthesis that closes the one after some text. -/
theorem closingParenthesis_append {close : Int} :
    closingParenthesis (head ++ rest) head.length = some close ↔
    ∃ n : Nat, closingIndex rest = some n ∧ close = head.length + n := by
  have hdrop : dropIndex (head ++ rest) head.length = rest := by
    rw [dropIndex, if_neg (by omega), Int.toNat_natCast, List.drop_left]
  rw [closingParenthesis, hdrop]
  cases closingIndex rest with
  | none => simp
  | some n => simp [eq_comm]

/-- A statement that creates a table has its body between the parenthesis where its name ends and
the one that closes it. -/
theorem exists_hasBody_of_closingParenthesis {statement : List Char} {close : Int}
    (hopens : createTable statement = some (name, rest))
    (hcloses : closingParenthesis statement (statement.length - rest.length) = some close) :
    ∃ head body tail, HasBody head name body tail ∧
      statement = head ++ '(' :: (body ++ ')' :: tail) ∧ close = (head ++ '(' :: body).length := by
  obtain ⟨lead, gap, hsplit, _⟩ := createTable_eq_some hopens
  have hstatement : statement = (lead ++ (name ++ gap)) ++ rest := by simp [hsplit]
  -- the index is counted from the start of the statement
  have hindex : (statement.length : Int) - rest.length = (lead ++ (name ++ gap)).length := by
    rw [hstatement, List.length_append]
    omega
  rw [hindex, hstatement] at hcloses
  obtain ⟨n, hn, rfl⟩ := closingParenthesis_append.mp hcloses
  obtain ⟨head, body, tail, hcut, hbody⟩ := exists_hasBody hopens hn
  obtain rfl : rest = '(' :: (body ++ ')' :: tail) := by
    rw [hcut, hbody.opens] at hopens
    exact (Prod.mk.inj (Option.some.inj hopens)).2.symm
  obtain rfl : n = body.length + 1 := Option.some.inj (hn.symm.trans hbody.closes)
  have hhead : (lead ++ (name ++ gap)) = head :=
    List.append_cancel_right (hstatement.symm.trans hcut)
  refine ⟨head, body, tail, hbody, hcut, ?_⟩
  rw [hhead, List.length_append, List.length_cons]
  omega

/-- A statement that creates a table and closes its parenthesis can be cut behind that parenthesis
and go on in any way: it creates the same table with the same foreign keys, and leaves the same
notices. -/
theorem readTable_take_append {statement : List Char} {close : Int}
    (hopens : createTable statement = some (name, rest))
    (hcloses : closingParenthesis statement (statement.length - rest.length) = some close)
    (tail : List Char) : (readTable statement).value.isSome ∧
      readTable (statement.take (close + 1).toNat ++ tail) = readTable statement := by
  obtain ⟨head, body, oldTail, hbody, rfl, rfl⟩ :=
    exists_hasBody_of_closingParenthesis hopens hcloses
  -- what is kept ends with the closing parenthesis
  have hcut :
      (head ++ '(' :: (body ++ ')' :: oldTail)).take
        (((head ++ '(' :: body).length : Int) + 1).toNat =
      head ++ '(' :: (body ++ [')']) := by
    have hlength : (((head ++ '(' :: body).length : Int) + 1).toNat =
        (head ++ '(' :: (body ++ [')'])).length := by
      simp
      omega
    have hsplit : head ++ '(' :: (body ++ ')' :: oldTail) =
        (head ++ '(' :: (body ++ [')'])) ++ oldTail := by simp
    rw [hlength, hsplit, List.take_left]
  refine ⟨by rw [hbody.readTable]; rfl, ?_⟩
  rw [hcut, hbody.readTable, ← (hbody.withTail tail).readTable]
  simp

/-- Parentheses in the name, in the quotes and in the clauses of a statement, and in place of its
options a text that leaves a quote open and would create another table. -/
theorem readTable_take_append_openQuote :
    let statement := ("create table if not exists shop.\"a (b\" (id int check (id > 0), " ++
      "note text default ') ', \"x)\" int) with (oids)").toList
    let rest := statement.drop 39
    let tail := "); create table \"a (c int, 'd".toList
    createTable statement = some ("shop.\"a (b\"".toList, rest) ∧
      closingParenthesis statement (statement.length - rest.length) = some 95 ∧
      (readTable statement).value.isSome ∧
        readTable (statement.take 96 ++ tail) = readTable statement := by
  intro statement rest tail
  have hopens : createTable statement = some ("shop.\"a (b\"".toList, rest) := by decide +kernel
  have hcloses : closingParenthesis statement (statement.length - rest.length) = some 95 := by
    decide +kernel
  exact ⟨hopens, hcloses, readTable_take_append hopens hcloses tail⟩

end SchemaDraft.Script
