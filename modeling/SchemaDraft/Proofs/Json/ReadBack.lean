import SchemaDraft.Proofs.Json.Scalars

/-!
A value reads back as it was written, however it is laid out (`readWithin_write`), if all its
numbers are integers that the reader does not find too long. The readers work through a text from
its start, so they are followed over texts that go on behind the value.
-/

namespace SchemaDraft

open Number Text

/-- Is this an integer that is not too long for a reader? -/
def Number.IsWholeWithin (limit : Option Nat) : Number → Prop
  | int n => Json.isTooLong limit (intText n).length = false
  | real _ => False

instance (limit : Option Nat) : ∀ n : Number, Decidable (n.IsWholeWithin limit)
  | .int n => inferInstanceAs (Decidable (Json.isTooLong limit (intText n).length = false))
  | .real _ => inferInstanceAs (Decidable False)

-- without a limit no integer is too long
example (n : Int) : (Number.int n).IsWholeWithin none := rfl

namespace Json

variable {limit : Option Nat} {rest : List Char}

/-! ### Rules of reading -/

section Rules

/-- Can a value or a member begin with this character? -/
def beginsValue (c : Char) : Bool := !isGap c && c != ']' && c != '\x7d'

/-- Does a text begin as a value or a member does? -/
def Begins (cs : List Char) : Prop := ∃ c rest, cs = c :: rest ∧ beginsValue c = true

variable {fuel : Nat} {cs inner after more : List Char} {v : Json}

theorem Begins.append (h : Begins cs) (rest : List Char) : Begins (cs ++ rest) := by
  obtain ⟨c, cs, rfl, hc⟩ := h
  exact ⟨c, cs ++ rest, rfl, hc⟩

/-- Blanks before a value are skipped. -/
theorem Begins.skipGap (h : Begins cs) {gap : List Char} (hgap : ∀ c ∈ gap, isGap c = true) :
    skipGap (gap ++ cs) = cs := by
  obtain ⟨c, cs, rfl, hc⟩ := h
  have hblank : isGap c = false := by
    simp only [beginsValue, Bool.and_eq_true, Bool.not_eq_true'] at hc
    exact hc.1.1
  exact dropWhile_append_of_stop hgap (starts_cons.mpr (by rw [hblank]; rfl))

theorem readValue_scalar {c : Char} (hc : c ∉ ['"', '[', '\x7b']) (fuel : Nat) (cs : List Char) :
    readValue limit (fuel + 1) (c :: cs) = readScalar limit (c :: cs) := by
  rw [readValue] <;> simp_all

theorem readValue_string (s : String) (fuel : Nat) (rest : List Char) :
    readValue limit (fuel + 1) (quoted s.toList ++ rest) = some (string s, rest) := by
  have hquoted : quoted s.toList ++ rest = '"' :: (s.toList.flatMap escapeChar ++ '"' :: rest) := by
    simp [quoted]
  rw [hquoted, readValue, readStringRest_quoted]
  simp

theorem readValue_array {items : List Json} (hopen : skipGap cs = inner) (hinner : Begins inner)
    (hitems : readItems limit fuel inner = some (items, rest)) :
    readValue limit (fuel + 1) ('[' :: cs) = some (array items, rest) := by
  obtain ⟨c, inner, rfl, hc⟩ := hinner
  have hclosing : c ≠ ']' := by rintro rfl; exact absurd hc (by decide)
  rw [readValue, hopen]
  simp [hclosing, hitems]

theorem readValue_object {members : List (String × Json)} (hopen : skipGap cs = inner)
    (hinner : Begins inner) (hmembers : readMembers limit fuel inner = some (members, rest)) :
    readValue limit (fuel + 1) ('\x7b' :: cs) = some (object members, rest) := by
  obtain ⟨c, inner, rfl, hc⟩ := hinner
  have hclosing : c ≠ '\x7d' := by rintro rfl; exact absurd hc (by decide)
  rw [readValue, hopen]
  simp [hclosing, hmembers]

theorem skipGap_cons {c : Char} (hc : isGap c = false) (cs : List Char) :
    skipGap (c :: cs) = c :: cs :=
  List.dropWhile_cons_of_neg (by simp [hc])

theorem readItems_last (hv : readValue limit fuel cs = some (v, after))
    (hafter : skipGap after = ']' :: rest) : readItems limit (fuel + 1) cs = some ([v], rest) := by
  rw [readItems, hv]
  simp [hafter]

theorem readItems_more {vs : List Json} (hv : readValue limit fuel cs = some (v, ',' :: more))
    (hvs : readItems limit fuel (skipGap more) = some (vs, rest)) :
    readItems limit (fuel + 1) cs = some (v :: vs, rest) := by
  have hcomma : skipGap (',' :: more) = ',' :: more := skipGap_cons (by decide) more
  rw [readItems, hv]
  simp [hcomma, hvs]

/-- The text of a key and of the value behind it. -/
def withKey (key : String) (text : List Char) : List Char := quoted key.toList ++ ':' :: ' ' :: text

theorem withKey_append (key : String) (text rest : List Char) :
    withKey key text ++ rest = withKey key (text ++ rest) := by
  simp [withKey]

theorem withKey_eq (key : String) (text : List Char) :
    withKey key text = '"' :: (key.toList.flatMap escapeChar ++ '"' :: (':' :: ' ' :: text)) := by
  simp [withKey, quoted]

theorem skipGap_colon (cs : List Char) : skipGap (':' :: cs) = ':' :: cs :=
  skipGap_cons (by decide) cs

/-- Between a colon and a value stands one blank. -/
theorem Begins.skipGap_blank (h : Begins cs) : Json.skipGap (' ' :: cs) = cs := by
  have hblank : ∀ c ∈ [' '], isGap c = true := by decide
  exact h.skipGap hblank

theorem readMembers_last {key : String} (hcs : Begins cs)
    (hv : readValue limit fuel cs = some (v, after)) (hafter : skipGap after = '\x7d' :: rest) :
    readMembers limit (fuel + 1) (withKey key cs) = some ([(key, v)], rest) := by
  rw [withKey_eq, readMembers, readStringRest_quoted]
  simp [skipGap_colon, hcs.skipGap_blank, hv, hafter]

theorem readMembers_more {key : String} {ms : List (String × Json)} (hcs : Begins cs)
    (hv : readValue limit fuel cs = some (v, ',' :: more))
    (hms : readMembers limit fuel (skipGap more) = some (ms, rest)) :
    readMembers limit (fuel + 1) (withKey key cs) = some ((key, v) :: ms, rest) := by
  have hcomma : skipGap (',' :: more) = ',' :: more := skipGap_cons (by decide) more
  rw [withKey_eq, readMembers, readStringRest_quoted]
  simp [skipGap_colon, hcs.skipGap_blank, hv, hcomma, hms]

end Rules

/-! ### Layout -/

/-- Are these all blanks between tokens? -/
def AllGap (cs : List Char) : Prop := ∀ c ∈ cs, isGap c = true

variable {indent : Indent} {level fuel : Nat}

theorem allGap_lineStart (indent : Indent) (level : Nat) : AllGap (lineStart indent level) := by
  intro c hc
  cases indent with
  | none => exact absurd hc (by simp [lineStart])
  | some width =>
    rcases List.mem_cons.mp hc with rfl | hc
    · rfl
    · rw [List.eq_of_mem_replicate hc]
      rfl

theorem exists_itemBreak (indent : Indent) (level : Nat) :
    ∃ gap, itemBreak indent level = ',' :: gap ∧ AllGap gap := by
  cases indent with
  | none => exact ⟨[' '], rfl, by simp [AllGap, isGap]⟩
  | some width => exact ⟨_, rfl, allGap_lineStart (some width) level⟩

/-- Blanks before a closing mark are skipped. -/
theorem skipGap_closing {gap : List Char} (hgap : AllGap gap) {c : Char} (hc : isGap c = false)
    (rest : List Char) : skipGap (gap ++ c :: rest) = c :: rest :=
  dropWhile_append_of_stop hgap (starts_cons.mpr (by rw [hc]; rfl))

/-- Blanks and a closing mark end a number. -/
theorem endsNumber_closing {gap : List Char} (hgap : AllGap gap) {c : Char}
    (hc : goesOnNumber c = false) (rest : List Char) : EndsNumber (gap ++ c :: rest) := by
  refine Starts.append (fun d hd => ?_) (starts_cons.mpr (by rw [hc]; rfl))
  have hblank := hgap d hd
  simp only [isGap, Bool.or_eq_true, beq_iff_eq] at hblank
  rcases hblank with ((rfl | rfl) | rfl) | rfl <;> decide

/-- The texts of some items with what is between them. -/
def joined (indent : Indent) (level : Nat) (texts : List (List Char)) : List Char :=
  (itemBreak indent level).intercalate texts

theorem joined_singleton (text : List Char) : joined indent level [text] = text := by
  simp [joined, List.intercalate]

theorem joined_cons_cons (text next : List Char) (texts : List (List Char)) :
    joined indent level (text :: next :: texts) =
      text ++ (itemBreak indent level ++ joined indent level (next :: texts)) := by
  rw [joined, List.intercalate_cons_cons, List.append_assoc]
  rfl

/-- What is between two items is a comma and blanks. -/
theorem exists_joined (text next : List Char) (texts : List (List Char)) :
    ∃ gap, AllGap gap ∧ joined indent level (text :: next :: texts) =
      text ++ ',' :: (gap ++ joined indent level (next :: texts)) := by
  obtain ⟨gap, hbreak, hgap⟩ := exists_itemBreak indent level
  refine ⟨gap, hgap, ?_⟩
  rw [joined_cons_cons, hbreak]
  rfl

theorem begins_joined {text : List Char} (h : Begins text) (texts : List (List Char)) :
    Begins (joined indent level (text :: texts)) := by
  cases texts with
  | nil => rwa [joined_singleton]
  | cons next texts =>
    rw [joined_cons_cons]
    exact h.append _

theorem container_eq (opening closing : Char) {texts : List (List Char)} (hne : texts ≠ []) :
    container opening closing indent level texts =
      opening :: (lineStart indent (level + 1) ++ (joined indent (level + 1) texts
        ++ (lineStart indent level ++ [closing]))) := by
  have hempty : texts.isEmpty = false := by simpa using hne
  rw [container, hempty, joined]
  simp

theorem length_joined_le (opening closing : Char) {texts : List (List Char)} (hne : texts ≠ [])
    (hfuel : (container opening closing indent level texts).length ≤ fuel + 1) :
    (joined indent (level + 1) texts).length + 1 ≤ fuel := by
  rw [container_eq opening closing hne] at hfuel
  simp only [List.length_cons, List.length_append, List.length_nil] at hfuel
  omega

theorem exists_container (opening closing : Char) (texts : List (List Char)) :
    ∃ cs, container opening closing indent level texts = opening :: cs := by
  by_cases hne : texts = []
  · exact ⟨[closing], by rw [hne]; rfl⟩
  · exact ⟨_, container_eq opening closing hne⟩

/-! ### Values -/

/-- Are all numbers in a value integers that are not too long for a reader? -/
def IsWholeWithin (limit : Option Nat) (v : Json) : Prop := ∀ n ∈ v.numbers, n.IsWholeWithin limit

theorem begins_intText (n : Int) : Begins (intText n) := by
  obtain ⟨c, cs, hcons, hc⟩ := exists_intText n
  refine ⟨c, cs, hcons, ?_⟩
  rcases hc with rfl | hc
  · rfl
  · have hmark : c ∉ [' ', '\t', '\n', '\r', ']', '\x7d'] := notMem_of_isDigit hc (by decide)
    simp_all [beginsValue, isGap]

theorem begins_textAt {v : Json} (h : v.IsWholeWithin limit) : Begins (textAt indent level v) := by
  cases v with
  | null => exact ⟨_, _, rfl, rfl⟩
  | bool b => cases b <;> exact ⟨_, _, rfl, rfl⟩
  | number n =>
    cases n with
    | int n => exact begins_intText n
    | real x => exact absurd (h _ (List.mem_singleton.mpr rfl)) id
  | string s => exact ⟨_, _, rfl, rfl⟩
  | array items =>
    obtain ⟨cs, hcs⟩ := exists_container '[' ']' (itemTexts indent (level + 1) items)
    exact ⟨_, cs, hcs, rfl⟩
  | object members =>
    obtain ⟨cs, hcs⟩ := exists_container '\x7b' '\x7d' (memberTexts indent (level + 1) members)
    exact ⟨_, cs, hcs, rfl⟩

theorem readValue_number {n : Number} (h : n.IsWholeWithin limit) (hrest : EndsNumber rest) :
    readValue limit (fuel + 1) (n.text .document ++ rest) = some (number n, rest) := by
  cases n with
  | real x => exact absurd h id
  | int n =>
    obtain ⟨c, cs, hcons, hc⟩ := exists_intText n
    -- the first character is a sign or a digit, so a scalar is read
    have hmark : c ∉ ['"', '[', '\x7b'] := by
      rcases hc with rfl | hc
      · decide
      · exact notMem_of_isDigit hc (by decide)
    have hread : readScalar limit (intText n ++ rest) = some (number (.int n), rest) :=
      readScalar_intText h hrest
    rw [Number.text, hcons, List.cons_append] at *
    rw [readValue_scalar hmark, hread]

theorem readValue_arrayText {v : Json} {vs : List Json} (hv : v.IsWholeWithin limit)
    (hread : readItems limit fuel
      (joined indent (level + 1) (itemTexts indent (level + 1) (v :: vs))
      ++ (lineStart indent level ++ ']' :: rest)) = some (v :: vs, rest)) :
    readValue limit (fuel + 1) (textAt indent level (array (v :: vs)) ++ rest) =
      some (array (v :: vs), rest) := by
  have hbegins : Begins (joined indent (level + 1) (itemTexts indent (level + 1) (v :: vs))) :=
    begins_joined (begins_textAt hv) _
  have hinner := hbegins.append (lineStart indent level ++ ']' :: rest)
  rw [textAt, container_eq '[' ']' (by simp [itemTexts])]
  simp only [List.cons_append, List.append_assoc, List.nil_append]
  exact readValue_array (hinner.skipGap (allGap_lineStart indent (level + 1))) hinner hread

theorem readValue_objectText {m : String × Json} {ms : List (String × Json)}
    (hread : readMembers limit fuel
      (joined indent (level + 1) (memberTexts indent (level + 1) (m :: ms))
      ++ (lineStart indent level ++ '\x7d' :: rest)) = some (m :: ms, rest)) :
    readValue limit (fuel + 1) (textAt indent level (object (m :: ms)) ++ rest) =
      some (object (m :: ms), rest) := by
  have hbegins : Begins (joined indent (level + 1) (memberTexts indent (level + 1) (m :: ms))) :=
    begins_joined ⟨_, _, rfl, rfl⟩ _
  have hinner := hbegins.append (lineStart indent level ++ '\x7d' :: rest)
  rw [textAt, container_eq '\x7b' '\x7d' (by simp [memberTexts])]
  simp only [List.cons_append, List.append_assoc, List.nil_append]
  exact readValue_object (hinner.skipGap (allGap_lineStart indent (level + 1))) hinner hread

mutual

theorem readValue_textAt (indent : Indent) : ∀ (v : Json) (level fuel : Nat) {rest : List Char},
    v.IsWholeWithin limit → (textAt indent level v).length ≤ fuel → EndsNumber rest →
      readValue limit fuel (textAt indent level v ++ rest) = some (v, rest)
  -- each level takes one step of the fuel, and no value has an empty text
  | v, level, 0, _, h, hfuel, _ => by
    obtain ⟨c, cs, htext, _⟩ := begins_textAt h
    rw [htext] at hfuel
    exact absurd hfuel (by simp)
  | .null, _, fuel + 1, _, _, _, _ => readValue_scalar (by decide) fuel _
  | .bool true, _, fuel + 1, _, _, _, _ => readValue_scalar (by decide) fuel _
  | .bool false, _, fuel + 1, _, _, _, _ => readValue_scalar (by decide) fuel _
  | .number n, _, fuel + 1, _, h, _, hrest =>
    readValue_number (h n (List.mem_singleton.mpr rfl)) hrest
  | .string s, _, fuel + 1, rest, _, _, _ => readValue_string s fuel rest
  | .array [], _, fuel + 1, _, _, _, _ => rfl
  | .array (v :: vs), level, fuel + 1, rest, h, hfuel, _ =>
    have hitems := length_joined_le '[' ']' (by simp [itemTexts]) hfuel
    readValue_arrayText (fun n hn => h n (List.mem_append_left _ hn))
      (readItems_itemTexts indent v vs (level + 1) fuel h (allGap_lineStart indent level) hitems)
  | .object [], _, fuel + 1, _, _, _, _ => rfl
  | .object (m :: ms), level, fuel + 1, rest, h, hfuel, _ =>
    have hmembers := length_joined_le '\x7b' '\x7d' (by simp [memberTexts]) hfuel
    readValue_objectText
      (readMembers_memberTexts indent m ms (level + 1) fuel h
        (allGap_lineStart indent level) hmembers)

theorem readItems_itemTexts (indent : Indent) :
    ∀ (v : Json) (vs : List Json) (level fuel : Nat) {gap rest : List Char},
      (array (v :: vs)).IsWholeWithin limit → AllGap gap →
        (joined indent level (itemTexts indent level (v :: vs))).length + 1 ≤ fuel →
          readItems limit fuel
              (joined indent level (itemTexts indent level (v :: vs)) ++ (gap ++ ']' :: rest)) =
            some (v :: vs, rest)
  | _, _, _, 0, _, _, _, _, hfuel => absurd hfuel (by omega)
  | v, [], level, fuel + 1, gap, rest, h, hgap, hfuel => by
    have hv : v.IsWholeWithin limit := fun n hn => h n (List.mem_append_left _ hn)
    rw [itemTexts, itemTexts, joined_singleton] at hfuel ⊢
    exact readItems_last
      (readValue_textAt indent v level fuel hv (by omega)
        (endsNumber_closing hgap (by decide) rest))
      (skipGap_closing hgap (by decide) rest)
  | v, w :: vs, level, fuel + 1, gap, rest, h, hgap, hfuel => by
    have hv : v.IsWholeWithin limit := fun n hn => h n (List.mem_append_left _ hn)
    have hvs : (array (w :: vs)).IsWholeWithin limit := fun n hn => h n (List.mem_append_right _ hn)
    -- what follows the comma begins with the next value, behind its gap
    have hbegins : Begins (joined indent level (itemTexts indent level (w :: vs))) :=
      begins_joined (begins_textAt fun n hn => hvs n (List.mem_append_left _ hn)) _
    obtain ⟨sep, hsep, hjoined⟩ : ∃ sep, AllGap sep ∧
        joined indent level (itemTexts indent level (v :: w :: vs)) =
          textAt indent level v ++
            ',' :: (sep ++ joined indent level (itemTexts indent level (w :: vs))) :=
      exists_joined ..
    rw [hjoined] at hfuel ⊢
    simp only [List.length_append, List.length_cons] at hfuel
    rw [List.append_assoc, List.cons_append, List.append_assoc]
    refine readItems_more
      (readValue_textAt indent v level fuel hv (by omega) (starts_cons.mpr rfl)) ?_
    rw [(hbegins.append _).skipGap hsep]
    exact readItems_itemTexts indent w vs level fuel hvs hgap (by omega)

theorem readMembers_memberTexts (indent : Indent) :
    ∀ (m : String × Json) (ms : List (String × Json)) (level fuel : Nat) {gap rest : List Char},
      (object (m :: ms)).IsWholeWithin limit → AllGap gap →
        (joined indent level (memberTexts indent level (m :: ms))).length + 1 ≤ fuel →
          readMembers limit fuel
              (joined indent level (memberTexts indent level (m :: ms)) ++
                (gap ++ '\x7d' :: rest)) =
            some (m :: ms, rest)
  | _, _, _, 0, _, _, _, _, hfuel => absurd hfuel (by omega)
  | (k, v), [], level, fuel + 1, gap, rest, h, hgap, hfuel => by
    have hv : v.IsWholeWithin limit := fun n hn => h n (List.mem_append_left _ hn)
    rw [memberTexts, memberTexts, joined_singleton] at hfuel ⊢
    simp only [List.length_append, List.length_cons] at hfuel
    rw [← withKey, withKey_append]
    exact readMembers_last ((begins_textAt hv).append _)
      (readValue_textAt indent v level fuel hv (by omega)
        (endsNumber_closing hgap (by decide) rest))
      (skipGap_closing hgap (by decide) rest)
  | (k, v), m :: ms, level, fuel + 1, gap, rest, h, hgap, hfuel => by
    have hv : v.IsWholeWithin limit := fun n hn => h n (List.mem_append_left _ hn)
    have hms : (object (m :: ms)).IsWholeWithin limit :=
      fun n hn => h n (List.mem_append_right _ hn)
    have hbegins : Begins (joined indent level (memberTexts indent level (m :: ms))) :=
      begins_joined ⟨_, _, rfl, rfl⟩ _
    obtain ⟨sep, hsep, hjoined⟩ : ∃ sep, AllGap sep ∧
        joined indent level (memberTexts indent level ((k, v) :: m :: ms)) =
          withKey k (textAt indent level v) ++
            ',' :: (sep ++ joined indent level (memberTexts indent level (m :: ms))) :=
      exists_joined ..
    rw [hjoined] at hfuel ⊢
    simp only [List.length_append, List.length_cons, withKey] at hfuel
    rw [List.append_assoc, List.cons_append, List.append_assoc, withKey_append]
    refine readMembers_more ((begins_textAt hv).append _)
      (readValue_textAt indent v level fuel hv (by omega) (starts_cons.mpr rfl)) ?_
    rw [(hbegins.append _).skipGap hsep]
    exact readMembers_memberTexts indent m ms level fuel hms hgap (by omega)

end

/-- A value whose numbers a reader can take is read back as it was written, with any indentation. -/
theorem readWithin_write (indent : Indent) {v : Json} (h : v.IsWholeWithin limit) :
    readWithin limit (write indent v) = some v := by
  have hgap : ∀ c ∈ ([] : List Char), isGap c = true := by simp
  have hskip : skipGap (textAt indent 0 v) = textAt indent 0 v := (begins_textAt h).skipGap hgap
  have hread : readValue limit (2 * (textAt indent 0 v).length + 2) (textAt indent 0 v ++ []) =
      some (v, []) := readValue_textAt indent v 0 _ h (by omega) starts_nil
  rw [List.append_nil] at hread
  have hend : skipGap [] = [] := rfl
  simp only [readWithin, write, String.toList_ofList, hskip, hread, hend, if_true]

end Json

end SchemaDraft
