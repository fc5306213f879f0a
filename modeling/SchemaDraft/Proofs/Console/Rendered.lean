import SchemaDraft.Console.Markup
import SchemaDraft.Proofs.Text.Adjacent

/-!
Which texts can be printed. Plain text can stand anywhere, so that only the tags of a text count,
one after the other (`renders_iff`): a text without closing tags can always be printed
(`renders_of_avoids`), and the mark before a message opens and closes its own style, so that a line
can be printed just if its message can (`renders_markedLine_iff`).
-/

namespace SchemaDraft.Console

open Text

/-- Can a text be printed? -/
def Renders (cs : List Char) : Prop := ∃ plain, render cs = .ok plain

theorem not_renders_of_error {cs : List Char} {fault : MarkupFault} (h : render cs = .error fault) :
    ¬Renders cs := by
  rintro ⟨plain, hplain⟩
  cases h.symm.trans hplain

instance (cs : List Char) : Decidable (Renders cs) :=
  match h : render cs with
  | .ok plain => .isTrue ⟨plain, h⟩
  | .error _ => .isFalse (not_renders_of_error h)

/-! ### Tags -/

/-- The tag that a piece is. -/
def Piece.tag? : Piece → Option (List Char)
  | plain _ => none
  | tag t => some t

/-- The tags among some pieces. -/
def tagsAmong (ps : List Piece) : List (List Char) := ps.filterMap Piece.tag?

/-- The tags of a text. -/
def tagsOf (cs : List Char) : List (List Char) := tagsAmong (pieces cs)

/-- What is open after some tags. -/
def applyTags (opened : List Opening) (tags : List (List Char)) :
    Except MarkupFault (List Opening) :=
  tags.foldlM applyTag opened

theorem tagsAmong_append (ps qs : List Piece) :
    tagsAmong (ps ++ qs) = tagsAmong ps ++ tagsAmong qs :=
  List.filterMap_append

theorem tagsAmong_cons (p : Piece) (ps : List Piece) :
    tagsAmong (p :: ps) = p.tag?.toList ++ tagsAmong ps := by
  cases p <;> rfl

theorem tagsAmong_gathered (pending : List Char) : tagsAmong (gathered pending) = [] := by
  unfold gathered
  split <;> rfl

/-- Of some pieces only the tags count. -/
theorem renderPieces_iff {opened : List Opening} {ps : List Piece} :
    (∃ plain, renderPieces opened ps = .ok plain) ↔
      ∃ left, applyTags opened (tagsAmong ps) = .ok left := by
  -- on the pieces: only tags change what is open, and only tags fail
  induction ps generalizing opened with
  | nil => exact iff_of_true ⟨[], rfl⟩ ⟨opened, rfl⟩
  | cons p ps ih =>
    cases p with
    | plain cs =>
      have htags : tagsAmong (.plain cs :: ps) = tagsAmong ps := rfl
      rw [htags, ← ih, renderPieces]
      cases renderPieces opened ps with
      | ok plain => exact iff_of_true ⟨_, rfl⟩ ⟨_, rfl⟩
      | error fault => exact iff_of_false (by rintro ⟨_, ⟨⟩⟩) (by rintro ⟨_, ⟨⟩⟩)
    | tag t =>
      have htags : tagsAmong (.tag t :: ps) = t :: tagsAmong ps := rfl
      rw [renderPieces, htags, applyTags, List.foldlM_cons]
      cases applyTag opened t with
      | ok opened' => exact ih
      | error fault => exact iff_of_false (by rintro ⟨_, ⟨⟩⟩) (by rintro ⟨_, ⟨⟩⟩)

theorem renders_iff {cs : List Char} : Renders cs ↔ ∃ left, applyTags [] (tagsOf cs) = .ok left :=
  renderPieces_iff

/-! ### Reading tags -/

theorem drop_length_takeWhile (p : Char → Bool) (cs : List Char) :
    cs.drop (cs.takeWhile p).length = cs.dropWhile p := by
  calc cs.drop (cs.takeWhile p).length
    _ = (cs.takeWhile p ++ cs.dropWhile p).drop (cs.takeWhile p).length := by
      rw [List.takeWhile_append_dropWhile]
    _ = cs.dropWhile p := List.drop_left

theorem readTag_eq_some {cs tag rest : List Char} (h : readTag cs = some (tag, rest)) :
    cs = tag ++ ']' :: rest := by
  cases cs with
  | nil => exact absurd h (by simp [readTag])
  | cons c cs =>
    simp only [readTag, drop_length_takeWhile] at h
    split at h
    · rename_i hdrop
      obtain ⟨rfl, rfl⟩ := Prod.mk.inj (Option.some.inj h)
      rw [List.cons_append, ← hdrop, List.takeWhile_append_dropWhile]
    · exact absurd h (by simp)

theorem readTag_append {c : Char} {body rest : List Char} (hc : startsTag c = true)
    (hbody : ∀ d ∈ body, (d != '[' && d != ']') = true) :
    readTag (c :: (body ++ ']' :: rest)) = some (c :: body, rest) := by
  have htake : (body ++ ']' :: rest).takeWhile (fun d => d != '[' && d != ']') = body := by
    rw [List.takeWhile_append_of_pos hbody, List.takeWhile_cons_of_neg (by simp), List.append_nil]
  simp only [readTag, htake, hc, List.drop_left]

/-- A tag is read in its brackets, after the backslashes before it. -/
theorem exists_of_readEscapedTag {cs tag rest : List Char} {escapes : Nat}
    (h : readEscapedTag cs = some (escapes, tag, rest)) :
    ∃ before, cs = before ++ '[' :: (tag ++ ']' :: rest) := by
  simp only [readEscapedTag, drop_length_takeWhile] at h
  split at h
  · rename_i more hdrop
    obtain ⟨⟨t, after⟩, hread, heq⟩ := Option.map_eq_some_iff.mp h
    obtain ⟨_, rfl, rfl⟩ : _ ∧ t = tag ∧ after = rest := by simpa using heq
    refine ⟨cs.takeWhile (· == '\\'), ?_⟩
    rw [← readTag_eq_some hread, ← hdrop, List.takeWhile_append_dropWhile]
  · exact absurd h (by simp)

theorem readEscapedTag_of_ne {c : Char} {cs : List Char} (hopening : c ≠ '[') (hescape : c ≠ '\\') :
    readEscapedTag (c :: cs) = none := by
  have hnone : (c :: cs).takeWhile (· == '\\') = [] :=
    List.takeWhile_cons_of_neg (by simpa using hescape)
  simp only [readEscapedTag, hnone, List.length_nil, List.drop_zero]
  split
  · rename_i h
    exact absurd (List.cons.inj h).1 hopening
  · rfl

theorem readEscapedTag_of_opening (cs : List Char) :
    readEscapedTag ('[' :: cs) = (readTag cs).map fun (tag, after) => (0, tag, after) := rfl

/-! ### Tags of a text -/

theorem piecesFrom_nil (fuel : Nat) (pending : List Char) :
    piecesFrom fuel pending [] = gathered pending := by
  cases fuel <;> rfl

/-- The plain text before some pieces and the bound of the steps leave their tags as they are. -/
theorem tagsAmong_piecesFrom {fuel fuel' : Nat} {cs : List Char} (h : cs.length ≤ fuel)
    (h' : cs.length ≤ fuel') (pending pending' : List Char) :
    tagsAmong (piecesFrom fuel pending cs) = tagsAmong (piecesFrom fuel' pending' cs) := by
  induction fuel generalizing fuel' cs pending pending' with
  | zero =>
    obtain rfl : cs = [] := List.length_eq_zero_iff.mp (Nat.le_zero.mp h)
    rw [piecesFrom_nil, piecesFrom_nil, tagsAmong_gathered, tagsAmong_gathered]
  | succ fuel ih =>
    cases cs with
    | nil => rw [piecesFrom_nil, piecesFrom_nil, tagsAmong_gathered, tagsAmong_gathered]
    | cons c cs =>
      obtain ⟨fuel', rfl⟩ : ∃ n, fuel' = n + 1 := ⟨fuel' - 1, by rw [List.length_cons] at h'; omega⟩
      rw [List.length_cons, Nat.add_le_add_iff_right] at h h'
      rw [piecesFrom, piecesFrom]
      cases hread : readEscapedTag (c :: cs) with
      | none => exact ih h h' _ _
      | some found =>
        obtain ⟨escapes, tag, rest⟩ := found
        -- what follows a tag is shorter than what it was read from
        have hrest : rest.length ≤ cs.length := by
          obtain ⟨before, hsplit⟩ := exists_of_readEscapedTag hread
          have hlength := congrArg List.length hsplit
          simp only [List.length_append, List.length_cons] at hlength
          omega
        simp only [tagsAmong_append, tagsAmong_gathered, tagsAmong_cons,
          ih (hrest.trans h) (hrest.trans h') [] []]

/-- A character that starts no tag stands before the tags of a text. -/
theorem tagsOf_cons_of_ne {c : Char} {cs : List Char} (hopening : c ≠ '[') (hescape : c ≠ '\\') :
    tagsOf (c :: cs) = tagsOf cs := by
  rw [tagsOf, pieces, List.length_cons, piecesFrom, readEscapedTag_of_ne hopening hescape]
  exact tagsAmong_piecesFrom (Nat.le_refl _) (Nat.le_refl _) _ _

/-- A tag stands in its text after an opening bracket. -/
theorem isInfix_of_mem_tagsAmong {fuel : Nat} {pending cs tag : List Char}
    (h : tag ∈ tagsAmong (piecesFrom fuel pending cs)) : '[' :: tag <:+: cs := by
  induction fuel generalizing cs pending with
  | zero => exact absurd h (by simp [piecesFrom, tagsAmong_gathered])
  | succ fuel ih =>
    cases cs with
    | nil => exact absurd h (by simp [piecesFrom, tagsAmong_gathered])
    | cons c cs =>
      rw [piecesFrom] at h
      cases hread : readEscapedTag (c :: cs) with
      | none =>
        simp only [hread] at h
        exact (ih h).trans (List.suffix_cons c cs).isInfix
      | some found =>
        obtain ⟨escapes, t, rest⟩ := found
        obtain ⟨before, hsplit⟩ := exists_of_readEscapedTag hread
        rw [hsplit]
        simp only [hread, tagsAmong_append, tagsAmong_gathered, tagsAmong_cons, List.nil_append,
          List.mem_append] at h
        rcases h with hfirst | hrest
        · -- the tag that was read here
          obtain rfl : tag = t := by
            split at hfirst
            · exact absurd hfirst (by simp [Piece.tag?])
            · simpa [Piece.tag?] using hfirst
          exact ⟨before, ']' :: rest, by simp⟩
        · -- a tag behind it
          refine (ih hrest).trans ⟨before ++ '[' :: (t ++ [']']), [], by simp⟩

/-! ### Texts that can be printed -/

/-- Tags that close nothing can be read one after the other. -/
theorem exists_applyTags {opened : List Opening} {tags : List (List Char)}
    (h : ∀ tag ∈ tags, tag.head? ≠ some '/') : ∃ left, applyTags opened tags = .ok left := by
  induction tags generalizing opened with
  | nil => exact ⟨opened, rfl⟩
  | cons tag tags ih =>
    -- a tag without a slash in front opens, and opening never fails
    have hopens : applyTag opened tag = .ok (openingOf tag :: opened) := by
      have hhead := h tag (by simp)
      unfold applyTag
      split
      · rename_i name hname
        cases tag with
        | nil => exact absurd hname (by simp)
        | cons c cs =>
          have hc : c ≠ '/' := by simpa using hhead
          rw [List.takeWhile_cons] at hname
          split at hname
          · exact absurd (List.cons.inj hname).1 hc
          · exact absurd hname (by simp)
      · rfl
    obtain ⟨left, hleft⟩ :=
      @ih (openingOf tag :: opened) fun t ht => h t (List.mem_cons_of_mem _ ht)
    exact ⟨left, by rw [applyTags, List.foldlM_cons, hopens]; exact hleft⟩

/-- A text without closing tags can be printed. -/
theorem renders_of_avoids {cs : List Char} (h : Avoids '[' '/' cs) : Renders cs := by
  refine renders_iff.mpr (exists_applyTags fun tag htag hhead => ?_)
  obtain ⟨name, rfl⟩ : ∃ name, tag = '/' :: name := by
    cases tag with
    | nil => exact absurd hhead (by simp)
    | cons c name => exact ⟨name, by rw [Option.some.inj hhead]⟩
  have hpair : ['[', '/'] <:+: '[' :: '/' :: name := ⟨[], name, rfl⟩
  exact avoids_iff_not_isInfix.mp h (hpair.trans (isInfix_of_mem_tagsAmong htag))

/-! ### Marked lines -/

/-- A message under its mark, as it is given to be printed. -/
def markedLine (style mark : String) (message : List Char) : List Char :=
  '[' :: (style.toList ++ ']' :: (mark.toList ++ "[/] ".toList ++ message))

/-- The marks of messages, each with its style. -/
def marks : List (String × String) :=
  [("bold blue", "i"), ("bold green", "✓"), ("bold red", "Error:")]

theorem piecesFrom_append_of_ne {cs : List Char} (h : ∀ c ∈ cs, c ≠ '[' ∧ c ≠ '\\') (fuel : Nat)
    (pending rest : List Char) :
    piecesFrom (fuel + cs.length) pending (cs ++ rest) =
      piecesFrom fuel (cs.reverse ++ pending) rest := by
  induction cs generalizing pending with
  | nil => rfl
  | cons c cs ih =>
    obtain ⟨hopening, hescape⟩ := h c (by simp)
    rw [List.cons_append, List.length_cons, ← Nat.add_assoc, piecesFrom,
      readEscapedTag_of_ne hopening hescape]
    simp only [ih fun d hd => h d (List.mem_cons_of_mem _ hd), List.reverse_cons, List.append_assoc,
      List.singleton_append]

theorem piecesFrom_tag {c : Char} {body : List Char} (hc : startsTag c = true)
    (hbody : ∀ d ∈ body, (d != '[' && d != ']') = true) (fuel : Nat) (pending rest : List Char) :
    piecesFrom (fuel + 1) pending ('[' :: c :: (body ++ ']' :: rest)) =
      gathered pending ++ .tag (c :: body) :: piecesFrom fuel [] rest := by
  rw [piecesFrom, readEscapedTag_of_opening, readTag_append hc hbody]
  simp [gathered]

/-- A marked line is the style, the mark, the end of the style and the pieces of the message. -/
theorem exists_pieces_markedLine {style mark : String} (h : (style, mark) ∈ marks)
    (message : List Char) : ∃ ps, pieces (markedLine style mark message) =
        .tag style.toList :: .plain mark.toList :: .tag ['/'] :: ps ∧
          tagsAmong ps = tagsOf message := by
  obtain ⟨c, body, hstyle, hc, hbody⟩ : ∃ c body, style.toList = c :: body ∧ startsTag c = true ∧
      ∀ d ∈ body, (d != '[' && d != ']') = true := by
    simp only [marks, List.mem_cons, Prod.mk.injEq, List.not_mem_nil, or_false] at h
    rcases h with ⟨rfl, _⟩ | ⟨rfl, _⟩ | ⟨rfl, _⟩
    · exact ⟨'b', "old blue".toList, by decide, by decide, by decide⟩
    · exact ⟨'b', "old green".toList, by decide, by decide, by decide⟩
    · exact ⟨'b', "old red".toList, by decide, by decide, by decide⟩
  have hmark : mark.toList ≠ [] ∧ ∀ d ∈ mark.toList, d ≠ '[' ∧ d ≠ '\\' := by
    simp only [marks, List.mem_cons, Prod.mk.injEq, List.not_mem_nil, or_false] at h
    rcases h with ⟨_, rfl⟩ | ⟨_, rfl⟩ | ⟨_, rfl⟩ <;> decide
  have hend : "[/] ".toList = ['[', '/', ']', ' '] := by decide
  have hline : markedLine style mark message =
      '[' :: c ::
        (body ++ ']' :: (mark.toList ++ '[' :: '/' :: ([] ++ ']' :: ' ' :: message))) := by
    simp [markedLine, hstyle, hend]
  obtain ⟨fuel, hfuel, hlength⟩ : ∃ fuel, (markedLine style mark message).length =
      fuel + 1 + mark.toList.length + 1 ∧ (' ' :: message).length ≤ fuel := by
    refine ⟨body.length + message.length + 5, ?_, ?_⟩
    · rw [hline]
      simp only [List.length_cons, List.length_append, List.length_nil]
      omega
    · rw [List.length_cons]
      omega
  refine ⟨piecesFrom fuel [] (' ' :: message), ?_, ?_⟩
  · rw [pieces, hfuel, hline, piecesFrom_tag hc hbody, piecesFrom_append_of_ne hmark.2,
      piecesFrom_tag (by decide) (by simp), hstyle]
    have hgathered : gathered (mark.toList.reverse ++ []) = [.plain mark.toList] := by
      rw [List.append_nil, gathered, if_neg (by simpa using hmark.1), List.reverse_reverse]
    rw [hgathered]
    rfl
  · rw [tagsAmong_piecesFrom hlength (Nat.le_refl _) [] [], ← pieces, ← tagsOf,
      tagsOf_cons_of_ne (by decide) (by decide)]

/-- The style of a mark is closed after it. -/
theorem applyTags_mark {style mark : String} (h : (style, mark) ∈ marks) (tags : List (List Char)) :
    applyTags [] (style.toList :: ['/'] :: tags) = applyTags [] tags := by
  have hopens : applyTag [] style.toList = .ok [openingOf style.toList] ∧
      (openingOf style.toList).parameters = [] := by
    simp only [marks, List.mem_cons, Prod.mk.injEq, List.not_mem_nil, or_false] at h
    rcases h with ⟨rfl, _⟩ | ⟨rfl, _⟩ | ⟨rfl, _⟩ <;> exact ⟨rfl, rfl⟩
  have hsound : (openingOf style.toList).isSound = true := by
    rw [Opening.isSound, hopens.2, List.isEmpty_nil, Bool.or_true, Bool.true_or]
  -- the slash alone closes what was opened last
  have hcloses : applyTag [openingOf style.toList] ['/'] = .ok [] := by
    show closeTag [openingOf style.toList] [] = _
    simp [closeTag, openedBy?, hsound]
  rw [applyTags, List.foldlM_cons, hopens.1]
  show applyTags [openingOf style.toList] (['/'] :: tags) = _
  rw [applyTags, List.foldlM_cons, hcloses]
  rfl

/-- A line can be printed just if its message can. -/
theorem renders_markedLine_iff {style mark : String} (h : (style, mark) ∈ marks)
    (message : List Char) : Renders (markedLine style mark message) ↔ Renders message := by
  obtain ⟨ps, hpieces, htags⟩ := exists_pieces_markedLine h message
  have hall : tagsOf (markedLine style mark message) = style.toList :: ['/'] :: tagsOf message := by
    rw [tagsOf, hpieces, ← htags]
    rfl
  rw [renders_iff, hall, applyTags_mark h, ← renders_iff]

/-- An error is printed after its mark. -/
theorem exists_of_render_error {message line : List Char}
    (h : render (markedLine "bold red" "Error:" message) = .ok line) :
    ∃ rest, line = "Error:".toList ++ rest := by
  have hmark : ("bold red", "Error:") ∈ marks := by simp [marks]
  obtain ⟨ps, hpieces, _⟩ := exists_pieces_markedLine hmark message
  rw [render, hpieces, renderPieces] at h
  cases hopened : applyTag [] "bold red".toList with
  | error fault =>
    rw [hopened] at h
    cases h
  | ok opened =>
    rw [hopened] at h
    change renderPieces opened (.plain "Error:".toList :: .tag ['/'] :: ps) = .ok line at h
    rw [renderPieces] at h
    cases hrest : renderPieces opened (.tag ['/'] :: ps) with
    | error fault =>
      rw [hrest] at h
      cases h
    | ok rest =>
      rw [hrest] at h
      -- the mark has no control characters, so it is printed as it is
      have hprinted : printed "Error:".toList = "Error:".toList := by decide
      exact ⟨rest, by rw [← hprinted]; exact (Except.ok.inj h).symm⟩

end SchemaDraft.Console
