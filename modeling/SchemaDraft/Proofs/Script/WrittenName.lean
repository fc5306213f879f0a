import SchemaDraft.Proofs.Script.Phrase
import SchemaDraft.Proofs.Script.Split
import SchemaDraft.Proofs.Text.LetterCase

/-!
Names as they are written: bare or in one of the three styles of quotes (`Writes`), and dotted names
of which only the last part counts (`WritesPath`). What is written is read as a whole, whatever
stands after it, and its normal form is the name in lower case (`normalName_of_writes`,
`normalTableName_of_writesPath`).
-/

namespace SchemaDraft.Script

open Reader Text

variable {rest text name : List Char}

/-- Is this text a way to write a name? -/
inductive Writes : List Char → List Char → Prop
  | bare {name : List Char} : name ≠ [] → (∀ c ∈ name, isBare c = true) → Writes name name
  | quoted {opening closing : Char} {name : List Char} : (opening, closing) ∈ quotePairs →
      name ≠ [] → closing ∉ name → Writes (opening :: (name ++ [closing])) name

/-- Is this text a way to write a dotted name whose last part is the name? -/
inductive WritesPath : List Char → List Char → Prop
  | last {text name : List Char} : Writes text name → WritesPath text name
  | dotted {part first before after tail name : List Char} : Writes part first → AllBlank before →
      AllBlank after → WritesPath tail name →
        WritesPath (part ++ (before ++ '.' :: (after ++ tail))) name

/-! ### Single names -/

/-- Is this a character that does not go on a bare name? -/
def isBreak (c : Char) : Bool := !isBare c

theorem isBreak_of_isBlank {c : Char} (h : isBlank c = true) : isBreak c = true := by
  simp [isBreak, isBare, h]

theorem isInk_of_isBare {c : Char} (h : isBare c = true) : isInk c = true := by
  cases hblank : isBlank c with
  | false => simp [isInk, hblank]
  | true =>
    rw [isBare, hblank] at h
    exact absurd h (by simp)

theorem isBare_of_isWordChar {c : Char} (h : isWordChar c = true) : isBare c = true := by
  have hmarks : ∀ m ∈ ['(', ')', ',', '.', ';', '"', '\x60', '[', ']'], isWordChar m = false := by
    decide +kernel
  have hmem : c ∉ ['(', ')', ',', '.', ';', '"', '\x60', '[', ']'] := by
    intro hmem
    rw [hmarks c hmem] at h
    exact absurd h (by decide)
  simpa [isBare, not_isBlank_of_isWordChar h] using hmem

theorem quotedName_append {opening closing : Char} (hne : name ≠ []) (hnot : closing ∉ name) :
    quotedName opening closing (opening :: (name ++ [closing]) ++ rest) =
      some (opening :: (name ++ [closing]), rest) := by
  have hinner : run1 (· ≠ closing) (name ++ closing :: rest) = some (name, closing :: rest) := by
    refine run1_append hne (fun c hc => ?_) (starts_cons.mpr (by simp))
    have hother : c ≠ closing := fun heq => hnot (heq ▸ hc)
    simpa using hother
  rw [List.cons_append, List.append_assoc, List.singleton_append, quotedName,
    bind_of_eq (char_cons opening), bind_of_eq hinner, bind_of_eq (char_cons closing)]
  rfl

theorem quotedName_eq_none {opening closing : Char} (h : Starts (· ≠ opening) rest) :
    quotedName opening closing rest = none := bind_of_none (char_eq_none h) _

theorem anyQuotedName_eq_none (h : ∀ quotes ∈ quotePairs, Starts (· ≠ quotes.1) rest) :
    anyQuotedName rest = none := by
  refine firstOf_eq_none fun r hr => ?_
  obtain ⟨⟨opening, closing⟩, hquotes, rfl⟩ := List.mem_map.mp hr
  exact quotedName_eq_none (h _ hquotes)

theorem anyQuotedName_append {opening closing : Char} (hquotes : (opening, closing) ∈ quotePairs)
    (hne : name ≠ []) (hnot : closing ∉ name) :
    anyQuotedName (opening :: (name ++ [closing]) ++ rest) =
      some (opening :: (name ++ [closing]), rest) := by
  have hread : quotedName opening closing (opening :: (name ++ [closing]) ++ rest) =
      some (opening :: (name ++ [closing]), rest) := quotedName_append hne hnot
  have hother : ∀ c d, opening ≠ c →
      quotedName c d (opening :: (name ++ [closing]) ++ rest) = none :=
    fun c d hc => quotedName_eq_none (starts_cons.mpr (by simpa using hc))
  simp only [quotePairs, List.mem_cons, Prod.mk.injEq, List.not_mem_nil, or_false] at hquotes
  show firstOf [quotedName '"' '"', quotedName '\x60' '\x60', quotedName '[' ']'] _ = _
  rcases hquotes with ⟨rfl, rfl⟩ | ⟨rfl, rfl⟩ | ⟨rfl, rfl⟩
  · exact firstOf_of_some hread
  · rw [firstOf_of_none (hother _ _ (by decide))]
    exact firstOf_of_some hread
  · rw [firstOf_of_none (hother _ _ (by decide)), firstOf_of_none (hother _ _ (by decide))]
    exact firstOf_of_some hread

theorem Writes.ne_nil (h : Writes text name) : text ≠ [] := by
  cases h with
  | bare hne _ => exact hne
  | quoted => simp

theorem Writes.name_ne_nil (h : Writes text name) : name ≠ [] := by
  cases h with
  | bare hne _ => exact hne
  | quoted _ hne _ => exact hne

/-- The marks that quote names. -/
theorem quotePairs_isInk : ∀ quotes ∈ quotePairs,
    isInk quotes.1 = true ∧ isInk quotes.2 = true ∧ isBare quotes.1 = false := by decide

theorem Writes.starts (h : Writes text name) : Starts isInk (text ++ rest) := by
  cases h with
  | bare hne hbare =>
    cases text with
    | nil => exact absurd rfl hne
    | cons c text => exact starts_cons.mpr (isInk_of_isBare (hbare c (by simp)))
  | quoted hquotes _ _ => exact starts_cons.mpr (quotePairs_isInk _ hquotes).1

/-- A written name is read as a whole. -/
theorem identifier_append (h : Writes text name) (hrest : Starts isBreak rest) :
    identifier (text ++ rest) = some (text, rest) := by
  cases h with
  | bare hne hbare =>
    have hunquoted : anyQuotedName (text ++ rest) = none := by
      refine anyQuotedName_eq_none fun quotes hquotes => ?_
      cases text with
      | nil => exact absurd rfl hne
      | cons c text =>
        refine starts_cons.mpr (decide_eq_true fun heq => ?_)
        have hc := hbare c (by simp)
        rw [heq, (quotePairs_isInk quotes hquotes).2.2] at hc
        exact absurd hc (by decide)
    rw [identifier, firstOf_of_none hunquoted]
    exact firstOf_of_some (run1_append hne hbare hrest)
  | quoted hquotes hne hnot => exact firstOf_of_some (anyQuotedName_append hquotes hne hnot)

/-- No name starts at a blank, a dot or another mark that is no quote. -/
theorem identifier_eq_none (h : Starts isBreak rest)
    (hunquoted : ∀ quotes ∈ quotePairs, Starts (· ≠ quotes.1) rest) : identifier rest = none := by
  rw [identifier, firstOf_of_none (anyQuotedName_eq_none hunquoted)]
  exact firstOf_eq_none fun r hr => by
    obtain rfl := List.mem_singleton.mp hr
    exact run1_eq_none h

theorem quotedName_eq_some {opening closing : Char} {cs : List Char}
    (h : quotedName opening closing cs = some (text, rest)) :
    ∃ name, text = opening :: (name ++ [closing]) ∧ cs = text ++ rest ∧ name ≠ [] ∧
      closing ∉ name := by
  obtain ⟨_, afterOpen, hopen, h⟩ := bind_eq_some h
  obtain ⟨name, afterInner, hinner, h⟩ := bind_eq_some h
  obtain ⟨_, afterClose, hclose, h⟩ := bind_eq_some h
  obtain ⟨rfl, rfl⟩ := Prod.mk.inj (Option.some.inj h)
  obtain ⟨hsplit, hne, hchars, _⟩ := run1_eq_some hinner
  refine ⟨name, rfl, ?_, hne, fun hmem => absurd (hchars _ hmem) (by simp)⟩
  rw [char_eq_some hopen, hsplit, char_eq_some hclose]
  simp

/-- What is read as a name is a way to write one. -/
theorem identifier_eq_some {cs : List Char} (h : identifier cs = some (text, rest)) :
    cs = text ++ rest ∧ ∃ name, Writes text name := by
  obtain ⟨r, hr, hread⟩ := exists_of_firstOf h
  rcases List.mem_cons.mp hr with rfl | hr
  · obtain ⟨s, hs, hquoted⟩ := exists_of_firstOf hread
    obtain ⟨⟨opening, closing⟩, hquotes, rfl⟩ := List.mem_map.mp hs
    obtain ⟨name, rfl, hsplit, hne, hnot⟩ := quotedName_eq_some hquoted
    exact ⟨hsplit, name, .quoted hquotes hne hnot⟩
  · obtain rfl := List.mem_singleton.mp hr
    obtain ⟨hsplit, hne, hbare, _⟩ := run1_eq_some hread
    exact ⟨hsplit, text, .bare hne hbare⟩

/-! ### Normal form -/

theorem isTrimmed_quoted {opening closing : Char} (hquotes : (opening, closing) ∈ quotePairs) :
    IsTrimmed (opening :: (name ++ [closing])) := by
  obtain ⟨hopening, hclosing, _⟩ := quotePairs_isInk _ hquotes
  exact isTrimmed_frame (by simpa [isInk] using hopening) (by simpa [isInk] using hclosing) name

theorem isQuotedBy_quoted (opening closing : Char) (name : List Char) :
    isQuotedBy (opening, closing) (opening :: (name ++ [closing])) = true := by
  have hlast : (opening :: (name ++ [closing])).getLast? = some closing := by
    rw [← List.cons_append, List.getLast?_append]; rfl
  simp [isQuotedBy, hlast]

theorem unquote_quoted {opening closing : Char} (hquotes : (opening, closing) ∈ quotePairs) :
    unquote (opening :: (name ++ [closing])) = name := by
  have hany : (quotePairs.any fun quotes =>
      isQuotedBy quotes (opening :: (name ++ [closing]))) = true :=
    List.any_eq_true.mpr ⟨_, hquotes, isQuotedBy_quoted opening closing name⟩
  simp only [unquote, trim_eq_self (isTrimmed_quoted hquotes), hany, if_true]
  simp

theorem isTrimmed_bare (hbare : ∀ c ∈ name, isBare c = true) : IsTrimmed name := by
  refine ⟨fun c hc => ?_, fun c hc => ?_⟩
  · simpa [isInk] using isInk_of_isBare (hbare c (List.mem_of_mem_head? hc))
  · simpa [isInk] using isInk_of_isBare (hbare c (List.mem_of_getLast? hc))

theorem Writes.isTrimmed (h : Writes text name) : IsTrimmed text := by
  cases h with
  | bare _ hbare => exact isTrimmed_bare hbare
  | quoted hquotes _ _ => exact isTrimmed_quoted hquotes

theorem unquote_bare (hbare : ∀ c ∈ name, isBare c = true) : unquote name = name := by
  have hany : (quotePairs.any fun quotes => isQuotedBy quotes name) = false := by
    refine List.any_eq_false.mpr fun quotes hquotes hquoted => ?_
    simp only [isQuotedBy, Bool.and_eq_true, beq_iff_eq] at hquoted
    have hopening := hbare quotes.1 (List.mem_of_mem_head? hquoted.1.2)
    rw [(quotePairs_isInk quotes hquotes).2.2] at hopening
    exact absurd hopening (by decide)
  simp only [unquote, trim_eq_self (isTrimmed_bare hbare), hany, Bool.false_eq_true, if_false]

theorem unquote_of_writes (h : Writes text name) : unquote text = name := by
  cases h with
  | bare _ hbare => exact unquote_bare hbare
  | quoted hquotes _ _ => exact unquote_quoted hquotes

/-- However a name is written, it is compared in lower case and without quotes. -/
theorem normalName_of_writes (h : Writes text name) : normalName text = lower name := by
  rw [normalName, unquote_of_writes h]

theorem mem_of_mem_unquote {cs : List Char} {c : Char} (h : c ∈ unquote cs) : c ∈ cs := by
  have htrim : ∀ d ∈ trim cs, d ∈ cs := fun d hd => (isInfix_trim cs).subset hd
  rw [unquote] at h
  split at h
  · exact htrim c (List.mem_of_mem_drop (List.mem_of_mem_dropLast h))
  · exact htrim c h

/-- A mark that is in the names of a list is in the list. -/
theorem mem_of_mem_columnNames {list name : List Char} (h : name ∈ columnNames list) {c : Char}
    (hmark : c.toNat < 97) (hc : c ∈ name) : c ∈ list := by
  obtain ⟨piece, hpiece, rfl⟩ := List.mem_map.mp h
  exact mem_of_mem_splitCommas hpiece (mem_of_mem_unquote (mem_of_mem_lower hmark hc))

/-! ### Dotted names -/

/-- Does no dot come next, blanks being passed over? -/
def NoDotNext (cs : List Char) : Prop := Starts (· ≠ '.') (trimLeft cs)

instance (cs : List Char) : Decidable (NoDotNext cs) :=
  inferInstanceAs (Decidable (Starts (· ≠ '.') (trimLeft cs)))

theorem noDotNext_append {before : List Char} (hbefore : AllBlank before)
    (hrest : Starts isInk rest) (hdot : Starts (· ≠ '.') rest) : NoDotNext (before ++ rest) := by
  rw [NoDotNext, trimLeft_append_of_blank hbefore, trimLeft_eq_self]
  · exact hdot
  · exact fun c hc => by simpa [isInk] using hrest c hc

theorem dottedPart_eq_none (h : NoDotNext rest) : dottedPart rest = none := by
  have hgap : gap rest = some (rest.takeWhile isBlank, trimLeft rest) := rfl
  rw [dottedPart, bind_of_eq hgap]
  exact bind_of_none (char_eq_none h) _

theorem dottedParts_of_noDotNext (h : NoDotNext rest) (fuel : Nat) :
    dottedParts fuel rest = some ([], rest) := by
  cases fuel with
  | zero => rfl
  | succ fuel => simp only [dottedParts, dottedPart_eq_none h]

theorem dottedPart_append {before after part : List Char} (hbefore : AllBlank before)
    (hafter : AllBlank after) (hpart : Starts isInk (part ++ rest))
    (hread : identifier (part ++ rest) = some (part, rest)) :
    dottedPart (before ++ '.' :: (after ++ (part ++ rest))) =
      some (before ++ '.' :: (after ++ part), rest) := by
  rw [dottedPart, bind_of_eq (gap_append hbefore (starts_cons.mpr (by decide))),
    bind_of_eq (char_cons '.'), bind_of_eq (gap_append hafter hpart), bind_of_eq hread]
  rfl

/-- A written path is its first name and dotted parts that are read as a whole. -/
theorem exists_parts_of_writesPath (h : WritesPath text name) (hrest : Starts isBreak rest)
    (hdot : NoDotNext rest) :
    ∃ first parts, text = first ++ parts ∧
      Starts isInk (first ++ (parts ++ rest)) ∧
      identifier (first ++ (parts ++ rest)) = some (first, parts ++ rest) ∧
      ∀ fuel, parts.length ≤ fuel → dottedParts fuel (parts ++ rest) = some (parts, rest) := by
  induction h with
  | @last text name hname =>
    exact ⟨text, [], by simp, hname.starts, identifier_append hname hrest,
      fun fuel _ => dottedParts_of_noDotNext hdot fuel⟩
  | @dotted part first before after tail name hpart hbefore hafter _ ih =>
    obtain ⟨next, parts, rfl, hstarts, hread, hparts⟩ := ih
    have hbreak : Starts isBreak (before ++ '.' :: (after ++ (next ++ (parts ++ rest)))) :=
      Starts.append (fun c hc => isBreak_of_isBlank (hbefore c hc)) (starts_cons.mpr (by decide))
    refine ⟨part, before ++ '.' :: (after ++ (next ++ parts)), rfl, hpart.starts, ?_,
      fun fuel hfuel => ?_⟩
    · have hread := identifier_append hpart hbreak
      simpa only [List.append_assoc, List.cons_append] using hread
    · cases fuel with
      | zero => exact absurd hfuel (by simp)
      | succ fuel =>
        -- one dotted part costs one unit of the fuel and at least one character
        have hpiece := dottedPart_append hbefore hafter hstarts hread
        have hfuel' : parts.length ≤ fuel := by
          simp only [List.length_append, List.length_cons] at hfuel
          omega
        simp only [List.append_assoc, List.cons_append, dottedParts, hpiece, hparts fuel hfuel']

/-- A written path is read as a whole. -/
theorem qualifiedName_append (h : WritesPath text name) (hrest : Starts isBreak rest)
    (hdot : NoDotNext rest) : qualifiedName (text ++ rest) = some (text, rest) := by
  obtain ⟨first, parts, rfl, _, hread, hparts⟩ := exists_parts_of_writesPath h hrest hdot
  rw [List.append_assoc, qualifiedName, bind_of_eq hread]
  exact bind_of_eq (r := fun cs => dottedParts cs.length cs)
    (hparts (parts ++ rest).length (by simp)) _

/-- A dotted part that is read is a dot with blanks around it and a name. -/
theorem dottedPart_eq_some {cs piece : List Char} (h : dottedPart cs = some (piece, rest)) :
    cs = piece ++ rest ∧ ∃ before after part name, piece = before ++ '.' :: (after ++ part) ∧
      AllBlank before ∧ AllBlank after ∧ Writes part name := by
  obtain ⟨before, afterGap, hgap, h⟩ := bind_eq_some h
  obtain ⟨_, afterDot, hdot, h⟩ := bind_eq_some h
  obtain ⟨after, afterGap', hgap', h⟩ := bind_eq_some h
  obtain ⟨part, afterName, hname, h⟩ := bind_eq_some h
  obtain ⟨rfl, rfl⟩ := Prod.mk.inj (Option.some.inj h)
  obtain ⟨hsplit, hblank⟩ := gap_eq_some hgap
  obtain ⟨hsplit', hblank'⟩ := gap_eq_some hgap'
  obtain ⟨hpart, name, hwrites⟩ := identifier_eq_some hname
  refine ⟨?_, before, after, part, name, rfl, hblank, hblank', hwrites⟩
  rw [hsplit, char_eq_some hdot, hsplit', hpart]
  simp

/-- Dotted parts that are read end in a dot, blanks and a name. -/
theorem dottedParts_eq_some {fuel : Nat} {cs parts : List Char}
    (h : dottedParts fuel cs = some (parts, rest)) :
    cs = parts ++ rest ∧ (parts = [] ∨ ∃ before after part name,
      parts = before ++ '.' :: (after ++ part) ∧ AllBlank after ∧ Writes part name) := by
  induction fuel generalizing cs parts with
  | zero =>
    obtain ⟨rfl, rfl⟩ := Prod.mk.inj (Option.some.inj h)
    exact ⟨rfl, .inl rfl⟩
  | succ fuel ih =>
    simp only [dottedParts] at h
    split at h
    · obtain ⟨rfl, rfl⟩ := Prod.mk.inj (Option.some.inj h)
      exact ⟨rfl, .inl rfl⟩
    · rename_i piece afterPiece hpiece
      split at h
      · exact absurd h (by simp)
      · rename_i more left hmore
        obtain ⟨rfl, rfl⟩ := Prod.mk.inj (Option.some.inj h)
        obtain ⟨hsplit, before, after, part, name, rfl, _, hblank', hwrites⟩ :=
          dottedPart_eq_some hpiece
        obtain ⟨hrest, hcases⟩ := ih hmore
        refine ⟨?_, .inr ?_⟩
        · rw [hsplit, hrest]
          simp
        · rcases hcases with rfl | ⟨before', after'', part', name', rfl, hafter, hpart'⟩
          · exact ⟨before, after, part, name, by simp, hblank', hwrites⟩
          · exact ⟨_, after'', part', name',
              (List.append_assoc (before ++ '.' :: (after ++ part)) before' _).symm, hafter, hpart'⟩

/-- A dotted name that is read ends in a name, after nothing or after a dot and blanks. -/
theorem qualifiedName_eq_some {cs : List Char} (h : qualifiedName cs = some (text, rest)) :
    cs = text ++ rest ∧ ∃ before part name, text = before ++ part ∧ Writes part name ∧
      (before = [] ∨ ∃ start after, before = start ++ '.' :: after ∧ AllBlank after) := by
  obtain ⟨first, afterFirst, hfirst, h⟩ := bind_eq_some h
  obtain ⟨parts, afterParts, hparts, h⟩ := bind_eq_some h
  obtain ⟨rfl, rfl⟩ := Prod.mk.inj (Option.some.inj h)
  obtain ⟨hsplit, name, hwrites⟩ := identifier_eq_some hfirst
  obtain ⟨hrest, hcases⟩ := dottedParts_eq_some hparts
  refine ⟨by rw [hsplit, hrest, List.append_assoc], ?_⟩
  rcases hcases with rfl | ⟨before, after, part, name', rfl, hafter, hpart⟩
  · exact ⟨[], first, name, by simp, hwrites, .inl rfl⟩
  · exact ⟨first ++ (before ++ '.' :: after), part, name', by simp, hpart,
      .inr ⟨first ++ before, after, by simp, hafter⟩⟩

theorem writesPath_of_dottedParts {fuel : Nat} {cs parts : List Char}
    (h : dottedParts fuel cs = some (parts, rest)) {first firstName : List Char}
    (hfirst : Writes first firstName) : ∃ name, WritesPath (first ++ parts) name := by
  induction fuel generalizing cs parts first firstName with
  | zero =>
    obtain ⟨rfl, rfl⟩ := Prod.mk.inj (Option.some.inj h)
    exact ⟨firstName, by simpa using WritesPath.last hfirst⟩
  | succ fuel ih =>
    simp only [dottedParts] at h
    split at h
    · obtain ⟨rfl, rfl⟩ := Prod.mk.inj (Option.some.inj h)
      exact ⟨firstName, by simpa using WritesPath.last hfirst⟩
    · rename_i piece afterPiece hpiece
      split at h
      · exact absurd h (by simp)
      · rename_i more left hmore
        obtain ⟨rfl, rfl⟩ := Prod.mk.inj (Option.some.inj h)
        obtain ⟨_, before, after, part, partName, rfl, hbefore, hafter, hpart⟩ :=
          dottedPart_eq_some hpiece
        obtain ⟨name, hpath⟩ := ih hmore hpart
        refine ⟨name, ?_⟩
        have hdotted := WritesPath.dotted hfirst hbefore hafter hpath
        simpa only [List.append_assoc, List.cons_append] using hdotted

/-- Whatever is read as a dotted name is a written path. -/
theorem writesPath_of_qualifiedName {cs : List Char} (h : qualifiedName cs = some (text, rest)) :
    ∃ name, WritesPath text name := by
  obtain ⟨first, afterFirst, hfirst, h⟩ := bind_eq_some h
  obtain ⟨parts, afterParts, hparts, h⟩ := bind_eq_some h
  obtain ⟨rfl, rfl⟩ := Prod.mk.inj (Option.some.inj h)
  obtain ⟨_, name, hwrites⟩ := identifier_eq_some hfirst
  exact writesPath_of_dottedParts hparts hwrites

/-- Marks that start no name are passed over. -/
theorem identifiersIn_append {skipped : List Char}
    (hskipped : ∀ c ∈ skipped, isBreak c = true ∧ ∀ quotes ∈ quotePairs, c ≠ quotes.1) {fuel : Nat}
    (hfuel : (skipped ++ rest).length ≤ fuel) :
    ∃ left, rest.length ≤ left ∧
      identifiersIn fuel (skipped ++ rest) = identifiersIn left rest := by
  induction skipped generalizing fuel with
  | nil => exact ⟨fuel, hfuel, rfl⟩
  | cons c skipped ih =>
    obtain ⟨hbreak, hquotes⟩ := hskipped c (by simp)
    cases fuel with
    | zero => exact absurd hfuel (by simp)
    | succ fuel =>
      -- a break that opens no quotes starts no name, and is passed over
      have hnone : identifier (c :: (skipped ++ rest)) = none :=
        identifier_eq_none (starts_cons.mpr hbreak) fun quotes hq =>
          starts_cons.mpr (decide_eq_true (hquotes quotes hq))
      obtain ⟨left, hleft, heq⟩ := ih (fun d hd => hskipped d (List.mem_cons_of_mem _ hd))
        (by simpa using hfuel)
      refine ⟨left, hleft, ?_⟩
      rw [List.cons_append, identifiersIn, hnone]
      exact heq

theorem identifiersIn_cons {part : List Char} (hne : part ≠ [])
    (hread : identifier (part ++ rest) = some (part, rest)) {fuel : Nat}
    (hfuel : (part ++ rest).length ≤ fuel) :
    ∃ left, rest.length ≤ left ∧
      identifiersIn fuel (part ++ rest) = part :: identifiersIn left rest := by
  cases part with
  | nil => exact absurd rfl hne
  | cons c part =>
    cases fuel with
    | zero => exact absurd hfuel (by simp)
    | succ fuel =>
      refine ⟨fuel, ?_, ?_⟩
      · simp only [List.cons_append, List.length_cons, List.length_append] at hfuel
        omega
      · rw [List.cons_append] at hread ⊢
        rw [identifiersIn, hread]

theorem identifiersIn_nil (fuel : Nat) : identifiersIn fuel [] = [] := by
  cases fuel <;> rfl

/-- A name with a dot behind it is found, and the search goes on behind the dot. -/
theorem identifiersIn_dotted {part before after : List Char} (hpart : Writes part name)
    (hbefore : AllBlank before) (hafter : AllBlank after) {fuel : Nat}
    (hfuel : (part ++ (before ++ '.' :: (after ++ rest))).length ≤ fuel) :
    ∃ left, rest.length ≤ left ∧
      identifiersIn fuel (part ++ (before ++ '.' :: (after ++ rest))) =
        part :: identifiersIn left rest := by
  have hmarks : ∀ c ∈ before ++ '.' :: after, isBreak c = true ∧
      ∀ quotes ∈ quotePairs, c ≠ quotes.1 := by
    have hblank : ∀ c, isBlank c = true →
        isBreak c = true ∧ ∀ quotes ∈ quotePairs, c ≠ quotes.1 := by
      refine fun c hc => ⟨isBreak_of_isBlank hc, fun quotes hq heq => ?_⟩
      have hink := (quotePairs_isInk quotes hq).1
      rw [← heq, isInk, hc] at hink
      exact absurd hink (by decide)
    intro c hc
    rcases List.mem_append.mp hc with hc | hc
    · exact hblank c (hbefore c hc)
    · rcases List.mem_cons.mp hc with rfl | hc
      · decide
      · exact hblank c (hafter c hc)
  have hbreak : Starts isBreak (before ++ '.' :: (after ++ rest)) :=
    Starts.append (fun c hc => isBreak_of_isBlank (hbefore c hc)) (starts_cons.mpr (by decide))
  obtain ⟨left, hleft, heq⟩ :=
    identifiersIn_cons hpart.ne_nil (identifier_append hpart hbreak) hfuel
  have hassoc : before ++ '.' :: (after ++ rest) = (before ++ '.' :: after) ++ rest := by simp
  rw [hassoc] at hleft
  obtain ⟨left', hleft', hskip⟩ := identifiersIn_append hmarks hleft
  refine ⟨left', hleft', ?_⟩
  rw [heq, hassoc, hskip]

/-- The last name found in a written path is its last part. -/
theorem identifiersIn_of_writesPath (h : WritesPath text name) {fuel : Nat}
    (hfuel : text.length ≤ fuel) :
    ∃ before part, identifiersIn fuel text = before ++ [part] ∧ Writes part name := by
  induction h generalizing fuel with
  | @last text name hname =>
    have hread : identifier (text ++ []) = some (text, []) := identifier_append hname starts_nil
    obtain ⟨left, _, heq⟩ := identifiersIn_cons hname.ne_nil hread (by simpa using hfuel)
    rw [List.append_nil, identifiersIn_nil] at heq
    exact ⟨[], text, heq, hname⟩
  | @dotted part first before after tail name hpart hbefore hafter _ ih =>
    obtain ⟨left, hleft, heq⟩ := identifiersIn_dotted hpart hbefore hafter hfuel
    obtain ⟨names, last, hnames, hlast⟩ := ih hleft
    refine ⟨part :: names, last, ?_, hlast⟩
    rw [heq, hnames, List.cons_append]

/-- However a dotted name is written, its last part counts, in lower case and without quotes. -/
theorem normalTableName_of_writesPath (h : WritesPath text name) :
    normalTableName text = lower name := by
  obtain ⟨before, part, heq, hpart⟩ := identifiersIn_of_writesPath h (Nat.le_refl text.length)
  rw [normalTableName, heq, List.getLast?_append]
  exact normalName_of_writes hpart

/-! ### Lists in parentheses -/

theorem parenthesised_append {inner : List Char} (hne : inner ≠ []) (hnot : ')' ∉ inner) :
    parenthesised ('(' :: (inner ++ ')' :: rest)) = some (inner, rest) := by
  have hinner : run1 (· ≠ ')') (inner ++ ')' :: rest) = some (inner, ')' :: rest) := by
    refine run1_append hne (fun c hc => ?_) (starts_cons.mpr (by simp))
    have hother : c ≠ ')' := fun heq => hnot (heq ▸ hc)
    simpa using hother
  rw [parenthesised, bind_of_eq (char_cons '('), bind_of_eq hinner, bind_of_eq (char_cons ')')]
  rfl

theorem parenthesised_eq_none (h : Starts (· ≠ '(') rest) : parenthesised rest = none :=
  bind_of_none (char_eq_none h) _

theorem parenthesised_eq_some {cs inner : List Char} (h : parenthesised cs = some (inner, rest)) :
    cs = '(' :: (inner ++ ')' :: rest) ∧ inner ≠ [] ∧ ')' ∉ inner := by
  obtain ⟨_, afterOpen, hopen, h⟩ := bind_eq_some h
  obtain ⟨taken, afterInner, hinner, h⟩ := bind_eq_some h
  obtain ⟨_, afterClose, hclose, h⟩ := bind_eq_some h
  obtain ⟨rfl, rfl⟩ := Prod.mk.inj (Option.some.inj h)
  obtain ⟨hsplit, hne, hchars, _⟩ := run1_eq_some hinner
  rw [char_eq_some hopen, hsplit, char_eq_some hclose]
  exact ⟨rfl, hne, fun hmem => absurd (hchars _ hmem) (by simp)⟩

end SchemaDraft.Script
