import SchemaDraft.Proofs.Script.Split

/-!
What the text of a line comment does. Block comments go first, wherever they start, so a line
comment is inert just as long as no block comment starts in it and goes on after its line.
`endsInBlock` reads that off the comment alone, and `dropComments_lineComment` says both: an inert
comment goes up to the end of its line, and one that leaves a block open goes up to the end of that
block, with all lines in between.
-/

namespace SchemaDraft.Script

open Text

variable {cs ds p c q rest : List Char} {d : Char}

/-- Does a text end in a block comment? The flag tells whether it starts in one. -/
def endsInBlock : Bool → List Char → Bool
  | inside, [] => inside
  | false, '/' :: '*' :: cs => endsInBlock true cs
  | true, '*' :: '/' :: cs => endsInBlock false cs
  | inside, _ :: cs => endsInBlock inside cs

/-! ### Block comments -/

/-- The end of a block comment is in the first of two texts or in the second, if none is made where
they meet. -/
theorem afterBlockEnd_append (hd : d ≠ '/') (cs : List Char) :
    afterBlockEnd (cs ++ d :: ds) =
      ((afterBlockEnd cs).map (· ++ d :: ds)).or (afterBlockEnd (d :: ds)) := by
  fun_induction afterBlockEnd cs with
  | case1 rest => rfl
  | case2 c cs hno ih =>
    rw [List.cons_append, afterBlockEnd, ih]
    intro rest hc hcs
    cases cs with
    | nil => exact hd (List.cons.inj hcs).1
    | cons e cs =>
      obtain ⟨rfl, _⟩ := List.cons.inj hcs
      exact hno cs hc rfl
  | case3 => rfl

theorem afterBlockEnd_newline (cs q : List Char) :
    afterBlockEnd (cs ++ '\n' :: q) =
      ((afterBlockEnd cs).map (· ++ '\n' :: q)).or (afterBlockEnd q) :=
  afterBlockEnd_append (by decide) cs

theorem afterBlockEnd_tail (h : afterBlockEnd (d :: cs) = none) : afterBlockEnd cs = none := by
  unfold afterBlockEnd at h
  split at h
  · cases h
  · rename_i heq
    obtain ⟨_, rfl⟩ := List.cons.inj heq
    exact h
  · rename_i heq
    cases heq

/-- A text that starts in a block comment leaves it at the first end. -/
theorem endsInBlock_true (cs : List Char) :
    endsInBlock true cs = (afterBlockEnd cs).elim true (endsInBlock false) := by
  fun_induction afterBlockEnd cs with
  | case1 rest => rfl
  | case2 c cs hno ih =>
    rw [← ih, endsInBlock]
    · exact fun _ h => absurd h (by decide)
    · exact fun rest _ hc hcs => hno rest hc hcs
  | case3 => rfl

/-- Without an end no block comment goes. -/
theorem dropBlockComments_of_unclosed (h : afterBlockEnd cs = none) :
    dropBlockComments cs = cs := by
  fun_induction dropBlockComments cs with
  | case1 cs rest hrest ih =>
    rw [afterBlockEnd_tail (afterBlockEnd_tail h)] at hrest
    cases hrest
  | case2 cs hrest ih => rw [ih (afterBlockEnd_tail h)]
  | case3 c cs hno ih => rw [ih (afterBlockEnd_tail h)]
  | case4 => rfl

/-- A text without starts of block comments stays, if none is made at its end. -/
theorem dropBlockComments_append (h : Avoids '/' '*' p) (hd : d ≠ '*') :
    dropBlockComments (p ++ d :: ds) = p ++ dropBlockComments (d :: ds) := by
  induction p with
  | nil => rfl
  | cons e p ih =>
    rw [List.cons_append, dropBlockComments, ih (h.of_isInfix (List.suffix_cons e p).isInfix)]
    · rfl
    rintro rest rfl hrest
    cases p with
    | nil => exact hd (List.cons.inj hrest).1
    | cons f p =>
      obtain ⟨rfl, _⟩ := List.cons.inj hrest
      exact (avoids_cons_cons.mp h).1 ⟨rfl, rfl⟩

/-- What is read on after a line: the next line, or what comes after the block that the line opens.
-/
def afterLine (c q : List Char) : List Char :=
  if endsInBlock false c then (afterBlockEnd q).getD ('\n' :: q) else '\n' :: q

theorem dropBlockComments_newline (q : List Char) :
    dropBlockComments ('\n' :: q) = '\n' :: dropBlockComments q := by
  rw [dropBlockComments]
  exact fun _ h => absurd h (by decide)

theorem mem_of_afterBlockEnd (h : afterBlockEnd cs = some rest) (hmem : d ∈ rest) : d ∈ cs := by
  fun_induction afterBlockEnd cs with
  | case1 r =>
    obtain rfl := Option.some.inj h
    exact List.mem_cons_of_mem _ (List.mem_cons_of_mem _ hmem)
  | case2 c cs _ ih => exact List.mem_cons_of_mem _ (ih h)
  | case3 => cases h

theorem dropBlockComments_block (h : afterBlockEnd cs = some rest) :
    dropBlockComments ('/' :: '*' :: cs) = dropBlockComments rest := by
  rw [dropBlockComments]
  split
  · rename_i r hr
    rw [Option.some.inj (hr.symm.trans h)]
  · rename_i hr
    rw [h] at hr
    cases hr

theorem dropBlockComments_open (h : afterBlockEnd cs = none) :
    dropBlockComments ('/' :: '*' :: cs) = '/' :: '*' :: cs := by
  have hstar : dropBlockComments ('*' :: cs) = '*' :: cs := by
    rw [dropBlockComments, dropBlockComments_of_unclosed h]
    exact fun _ heq => absurd heq (by decide)
  rw [dropBlockComments]
  split
  · rename_i r hr
    rw [h] at hr
    cases hr
  · rw [hstar]

/-- Of a line, what is in no block comment stays, and a block that it opens goes on until its end.
-/
theorem dropBlockComments_line (q : List Char) (hc : '\n' ∉ c) :
    ∃ kept, '\n' ∉ kept ∧
      dropBlockComments (c ++ '\n' :: q) = kept ++ dropBlockComments (afterLine c q) := by
  fun_induction dropBlockComments c with
  | case1 cs rest hrest ih =>
    have hends : endsInBlock false ('/' :: '*' :: cs) = endsInBlock false rest := by
      rw [endsInBlock, endsInBlock_true, hrest]
      rfl
    have hcut : afterBlockEnd (cs ++ '\n' :: q) = some (rest ++ '\n' :: q) := by
      rw [afterBlockEnd_newline, hrest]
      rfl
    have hcs : '\n' ∉ cs := fun h => hc (by simp [h])
    obtain ⟨kept, hkept, hline⟩ := ih fun h => hcs (mem_of_afterBlockEnd hrest h)
    refine ⟨kept, hkept, ?_⟩
    rw [afterLine, hends, ← afterLine, ← hline]
    exact dropBlockComments_block hcut
  | case2 cs hrest _ =>
    have hends : endsInBlock false ('/' :: '*' :: cs) = true := by
      rw [endsInBlock, endsInBlock_true, hrest]
      rfl
    have hcut : afterBlockEnd (cs ++ '\n' :: q) = afterBlockEnd q := by
      rw [afterBlockEnd_newline, hrest]
      rfl
    rw [afterLine, hends, if_pos rfl]
    cases hq : afterBlockEnd q with
    | some next =>
      rw [hq] at hcut
      exact ⟨[], by simp, dropBlockComments_block hcut⟩
    | none =>
      -- there is no end anywhere after the start, so nothing goes
      have hopen : afterBlockEnd (cs ++ '\n' :: q) = none := hcut.trans hq
      have hnext : afterBlockEnd ('\n' :: q) = none := hq
      refine ⟨'/' :: '*' :: cs, hc, ?_⟩
      rw [Option.getD_none, dropBlockComments_of_unclosed hnext]
      exact dropBlockComments_open hopen
  | case3 c cs hno ih =>
    obtain ⟨kept, hkept, hline⟩ := ih fun h => hc (List.mem_cons_of_mem _ h)
    have hends : endsInBlock false (c :: cs) = endsInBlock false cs := by
      rw [endsInBlock]
      · exact fun rest _ => hno rest
      · exact fun _ h => absurd h (by decide)
    refine ⟨c :: kept, fun h => ?_, ?_⟩
    · rcases List.mem_cons.mp h with rfl | h
      · exact hc (by simp)
      · exact hkept h
    rw [afterLine, hends, ← afterLine, List.cons_append, List.cons_append, ← hline,
      dropBlockComments]
    rintro rest rfl hrest
    cases cs with
    | nil => exact absurd (List.cons.inj hrest).1 (by decide)
    | cons e cs =>
      obtain ⟨rfl, _⟩ := List.cons.inj hrest
      exact hno cs rfl rfl
  | case4 => exact ⟨[], by simp, rfl⟩

/-! ### Line comments -/

/-- A line comment goes up to the end of its line. -/
theorem dropLineCommentsFrom_true (hc : '\n' ∉ c) (cs : List Char) :
    dropLineCommentsFrom true (c ++ cs) = dropLineCommentsFrom true cs := by
  induction c with
  | nil => rfl
  | cons d c ih =>
    have hd : d ≠ '\n' := fun heq => hc (by simp [heq])
    rw [List.cons_append, dropLineCommentsFrom, if_neg hd,
      ih fun h => hc (List.mem_cons_of_mem _ h)]

/-- What is kept of the text before a line comment is what is kept of it before the end of a line.
-/
theorem exists_dropLineCommentsFrom (inside : Bool) (hp : p.getLast? ≠ some '-') :
    ∃ kept,
      (∀ cs, dropLineCommentsFrom inside (p ++ '-' :: '-' :: cs) =
        kept ++ dropLineCommentsFrom true cs) ∧
      ∀ cs, dropLineCommentsFrom inside (p ++ '\n' :: cs) =
        kept ++ '\n' :: dropLineCommentsFrom false cs := by
  have hlast : ∀ {c : Char} {p : List Char}, (c :: p).getLast? ≠ some '-' →
      p.getLast? ≠ some '-' :=
    fun hne heq => hne (by rw [List.getLast?_cons, heq]; rfl)
  fun_induction dropLineCommentsFrom inside p with
  | case1 inside => cases inside <;> exact ⟨[], fun _ => rfl, fun _ => rfl⟩
  | case2 p ih =>
    obtain ⟨kept, hcomment, hline⟩ := ih (hlast hp)
    exact ⟨'\n' :: kept, fun cs => congrArg ('\n' :: ·) (hcomment cs),
      fun cs => congrArg ('\n' :: ·) (hline cs)⟩
  | case3 c p hc ih =>
    obtain ⟨kept, hcomment, hline⟩ := ih (hlast hp)
    refine ⟨kept, fun cs => ?_, fun cs => ?_⟩
    · rw [List.cons_append, dropLineCommentsFrom, if_neg hc, hcomment]
    · rw [List.cons_append, dropLineCommentsFrom, if_neg hc, hline]
  | case4 p ih =>
    obtain ⟨kept, hcomment, hline⟩ := ih (hlast (hlast hp))
    exact ⟨kept, hcomment, hline⟩
  | case5 c p hpair ih =>
    obtain ⟨kept, hcomment, hline⟩ := ih (hlast hp)
    -- a dash at the end of `p` would be the first of two
    have hsingle : ∀ {d : Char} {ds cs : List Char}, c = '-' → p ++ d :: ds = '-' :: cs →
        False := by
      rintro d ds cs rfl heq
      cases p with
      | nil => exact hp rfl
      | cons e p =>
        obtain ⟨rfl, _⟩ := List.cons.inj heq
        exact hpair p rfl rfl
    refine ⟨c :: kept, fun cs => ?_, fun cs => ?_⟩
    · rw [List.cons_append, dropLineCommentsFrom, hcomment, List.cons_append]
      exact fun _ => hsingle
    · rw [List.cons_append, dropLineCommentsFrom, hline, List.cons_append]
      exact fun _ => hsingle

/-! ### Comments of both kinds -/

/-- A line comment is inert if no block comment starts in it and ends after its line; otherwise all
goes up to the end of that block. -/
theorem dropComments_lineComment (hp : Avoids '/' '*' p) (hlast : p.getLast? ≠ some '-')
    (hc : '\n' ∉ c) (q : List Char) :
    (endsInBlock false c = false ∨ afterBlockEnd q = none →
      dropComments (p ++ '-' :: '-' :: (c ++ '\n' :: q)) = dropComments (p ++ '\n' :: q)) ∧
    ∀ rest, endsInBlock false c = true → afterBlockEnd q = some rest →
      dropComments (p ++ '-' :: '-' :: (c ++ '\n' :: q)) =
        dropComments (p ++ '-' :: '-' :: rest) := by
  have hblocks : ∀ cs, dropBlockComments (p ++ '-' :: '-' :: cs) =
      p ++ '-' :: '-' :: dropBlockComments cs := by
    intro cs
    have hdash : ∀ cs, dropBlockComments ('-' :: cs) = '-' :: dropBlockComments cs := by
      intro cs
      rw [dropBlockComments]
      exact fun _ heq => absurd heq (by decide)
    rw [dropBlockComments_append hp (by decide), hdash, hdash]
  obtain ⟨kept, hkept, hline⟩ := dropBlockComments_line q hc
  obtain ⟨before, hcomment, hbefore⟩ := exists_dropLineCommentsFrom false hlast
  -- the comment goes, and reading goes on where its line ends
  have hread : dropComments (p ++ '-' :: '-' :: (c ++ '\n' :: q)) =
      before ++ dropLineCommentsFrom true (dropBlockComments (afterLine c q)) := by
    rw [dropComments, hblocks, hline, dropLineComments, hcomment, dropLineCommentsFrom_true hkept]
  refine ⟨fun hinert => ?_, fun rest hopen hrest => ?_⟩
  · have hafter : afterLine c q = '\n' :: q := by
      unfold afterLine
      rcases hinert with hclosed | hq
      · rw [hclosed]
        rfl
      · rw [hq]
        exact ite_self _
    rw [hread, hafter, dropBlockComments_newline, dropComments,
      dropBlockComments_append hp (by decide), dropBlockComments_newline, dropLineComments, hbefore]
    rfl
  · have hafter : afterLine c q = rest := by
      rw [afterLine, hopen, if_pos rfl, hrest]
      rfl
    rw [hread, hafter, dropComments, hblocks, dropLineComments, hcomment]

theorem dropComments_lineComment_marks :
    dropComments "a -- b /* c */ d\ne /* f */".toList = dropComments "a \ne /* f */".toList ∧
      dropComments "a -- b /* c\nd */ e\nf".toList = dropComments "a -- e\nf".toList :=
  ⟨(dropComments_lineComment (p := "a ".toList) (c := " b /* c */ d".toList) (by decide) (by decide)
      (by decide) "e /* f */".toList).1 (.inl (by decide)),
    (dropComments_lineComment (p := "a ".toList) (c := " b /* c".toList) (by decide) (by decide)
      (by decide) "d */ e\nf".toList).2 " e\nf".toList (by decide) (by decide)⟩

end SchemaDraft.Script
