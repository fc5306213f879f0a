import Mathlib.Tactic.SplitIfs
import SchemaDraft.Json.Read
import SchemaDraft.Json.Write
import SchemaDraft.Proofs.Number.Digits
import SchemaDraft.Proofs.Text.Runs

/-!
Strings and integers read back as they were written (`readStringRest_quoted`, `readScalar_intText`).
A character of a string is one escape, two escapes with the halves of its pair beyond U+FFFF, or
itself. What follows an integer decides where it ends, so it is read in front of a text that does
not go on with it.
-/

namespace SchemaDraft.Json

open Number Text

/-! ### Strings -/

theorem hexValue_hexDigit : ∀ n < 16, hexValue (hexDigit n) = some n := by decide

theorem unitValue_hexDigits {n : Nat} (hn : n < 0x10000) :
    unitValue (hexDigit (n / 4096 % 16)) (hexDigit (n / 256 % 16)) (hexDigit (n / 16 % 16))
      (hexDigit (n % 16)) = some n := by
  have hmod : ∀ k : Nat, k % 16 < 16 := fun k => Nat.mod_lt k (by decide)
  simp only [unitValue, hexValue_hexDigit _ (hmod _), Option.bind_eq_bind, Option.bind_some,
    Option.pure_def]
  congr 1
  omega

/-- An escape of a whole character. -/
theorem readStringRest_unitEscape {n : Nat} (hn : n < 0x10000) (hwhole : n < 0xD800 ∨ 0xE000 ≤ n)
    (rest : List Char) :
    readStringRest (unitEscape n ++ rest) =
      (readStringRest rest).map fun p => (Char.ofNat n :: p.1, p.2) := by
  simp only [unitEscape, List.cons_append, List.nil_append]
  rw [readStringRest]
  simp only [unitValue_hexDigits hn, if_pos hwhole]

/-- Two escapes, of the halves of a pair. -/
theorem readStringRest_pairEscape {n : Nat} (hn : n < 0x100000) (rest : List Char) :
    readStringRest (unitEscape (0xD800 + n / 1024) ++ unitEscape (0xDC00 + n % 1024) ++ rest) =
      (readStringRest rest).map fun p => (Char.ofNat (0x10000 + n) :: p.1, p.2) := by
  have hfirst : 0xD800 + n / 1024 < 0xDC00 := by omega
  have hsecond : 0xDC00 + n % 1024 < 0xE000 := by omega
  have hpair : 0x10000 + (0xD800 + n / 1024 - 0xD800) * 1024 + (0xDC00 + n % 1024 - 0xDC00) =
      0x10000 + n := by omega
  simp only [unitEscape, List.cons_append, List.nil_append]
  rw [readStringRest]
  simp only [unitValue_hexDigits (Nat.lt_trans hfirst (by decide))]
  rw [if_neg (by omega), if_pos hfirst]
  simp only [unitValue_hexDigits (Nat.lt_trans hsecond (by decide))]
  rw [if_pos ⟨Nat.le_add_right _ _, hsecond⟩, hpair]

/-- An escape of one letter. -/
theorem readStringRest_shortEscape {c d : Char} (hc : c ≠ 'u') (hd : shortEscape c = some d)
    (rest : List Char) :
    readStringRest ('\\' :: c :: rest) = (readStringRest rest).map fun p => (d :: p.1, p.2) := by
  rw [readStringRest, hd]
  exact fun _ _ _ _ _ heq => absurd heq hc

/-- A character that is not escaped stands for itself. -/
theorem readStringRest_plain {c : Char} (hquote : c ≠ '"') (hbackslash : c ≠ '\\')
    (hc : 0x20 ≤ c.toNat) (rest : List Char) :
    readStringRest (c :: rest) = (readStringRest rest).map fun p => (c :: p.1, p.2) := by
  have hnone : ¬(c = '\\' ∨ c.toNat < 0x20) := by
    rintro (h | h)
    · exact hbackslash h
    · omega
  rw [readStringRest, if_neg hnone]
  · exact hquote
  · exact fun _ _ _ _ _ h => absurd h hbackslash
  · exact fun _ _ h => absurd h hbackslash

/-- What is written for a character is read as that character. -/
theorem readStringRest_escapeChar (c : Char) (rest : List Char) :
    readStringRest (escapeChar c ++ rest) = (readStringRest rest).map fun p => (c :: p.1, p.2) := by
  unfold escapeChar
  split_ifs with hquote hbackslash hnewline hreturn htab hback hfeed hprint hsmall
  · exact readStringRest_shortEscape (by decide) (by rw [hquote]; decide) rest
  · exact readStringRest_shortEscape (by decide) (by rw [hbackslash]; decide) rest
  · exact readStringRest_shortEscape (by decide) (by rw [hnewline]; decide) rest
  · exact readStringRest_shortEscape (by decide) (by rw [hreturn]; decide) rest
  · exact readStringRest_shortEscape (by decide) (by rw [htab]; decide) rest
  · exact readStringRest_shortEscape (by decide) (by rw [hback]; decide) rest
  · exact readStringRest_shortEscape (by decide) (by rw [hfeed]; decide) rest
  · exact readStringRest_plain hquote hbackslash hprint.1 rest
  · -- a character is no half of a pair
    have hwhole : c.toNat < 0xD800 ∨ 0xE000 ≤ c.toNat := c.valid.imp id And.left
    rw [readStringRest_unitEscape hsmall hwhole, Char.ofNat_toNat]
  · -- two halves, which add up to the character again
    have hvalid : c.toNat < 0x110000 :=
      c.valid.elim (fun h => Nat.lt_trans h (by decide)) And.right
    have hsum : 0x10000 + (c.toNat - 0x10000) = c.toNat := by omega
    rw [readStringRest_pairEscape (by omega), hsum, Char.ofNat_toNat]

theorem readStringRest_quoted (cs rest : List Char) :
    readStringRest (cs.flatMap escapeChar ++ '"' :: rest) = some (cs, rest) := by
  induction cs with
  | nil => rw [List.flatMap_nil, List.nil_append, readStringRest]
  | cons c cs ih =>
    rw [List.flatMap_cons, List.append_assoc, readStringRest_escapeChar, ih]
    rfl

/-! ### Integers -/

/-- Does this character stand for more of a number? -/
def goesOnNumber (c : Char) : Bool := isDigit c || c == '.' || c == 'e' || c == 'E'

/-- Does a number end before this text? -/
def EndsNumber (rest : List Char) : Prop := Starts (fun c => !goesOnNumber c) rest

variable {limit : Option Nat} {rest : List Char}

theorem EndsNumber.starts (h : EndsNumber rest) : Starts (fun c => !isDigit c) rest := by
  intro c hc
  have hgoes := h c hc
  simp only [goesOnNumber, Bool.not_eq_true', Bool.or_eq_false_iff] at hgoes
  simp [hgoes.1.1.1]

theorem readWholePart_natText (n : Nat) (hrest : EndsNumber rest) :
    readWholePart (natText n ++ rest) = some (natText n, rest) := by
  have hdigits : ∀ c ∈ natText n, isDigit c = true := fun _ => isDigit_of_mem_natText
  have htake := takeWhile_append_of_stop hdigits hrest.starts
  have hdrop := dropWhile_append_of_stop hdigits hrest.starts
  obtain ⟨c, cs, hcons⟩ := List.exists_cons_of_ne_nil (natText_ne_nil n)
  have hc : isDigit c = true := hdigits c (by rw [hcons]; simp)
  by_cases hzero : c = '0'
  · rw [hzero] at hcons
    rw [natText_of_head_zero hcons]
    rfl
  · rw [hcons, List.cons_append] at htake hdrop ⊢
    rw [readWholePart, if_neg hzero, if_pos hc, htake, hdrop]

theorem readFractionPart_of_ends (h : EndsNumber rest) :
    readFractionPart rest = some (none, rest) := by
  cases rest with
  | nil => rfl
  | cons c rest =>
    have hpoint : c ≠ '.' := by
      rintro rfl
      exact absurd (starts_cons.mp h) (by decide)
    simp [readFractionPart, hpoint]

theorem readExponentPart_of_ends (h : EndsNumber rest) :
    readExponentPart rest = some (none, rest) := by
  cases rest with
  | nil => rfl
  | cons c rest =>
    have hmark : ¬(c = 'e' ∨ c = 'E') := by
      rintro (rfl | rfl)
      · exact absurd (starts_cons.mp h) (by decide)
      · exact absurd (starts_cons.mp h) (by decide)
    rw [readExponentPart, if_neg hmark]

theorem readMagnitude_natText (negative : Bool) (n : Nat)
    (hlimit : isTooLong limit (signLength negative + (natText n).length) = false)
    (hrest : EndsNumber rest) : readMagnitude limit negative (natText n ++ rest) =
      some (.int (if negative then -(n : Int) else n), rest) := by
  simp [readMagnitude, readWholePart_natText n hrest, hlimit, readFractionPart_of_ends hrest,
    readExponentPart_of_ends hrest, digitsValue_natText]

theorem notMem_of_isDigit {c : Char} (hc : isDigit c = true) {ds : List Char}
    (hds : ∀ d ∈ ds, isDigit d = false) : c ∉ ds :=
  fun hmem => absurd (hc.symm.trans (hds c hmem)) (by decide)

/-- An integer begins with its sign or a digit. -/
theorem exists_intText (n : Int) : ∃ c cs, intText n = c :: cs ∧ (c = '-' ∨ isDigit c = true) := by
  obtain ⟨c, cs, hcons⟩ := List.exists_cons_of_ne_nil (natText_ne_nil n.natAbs)
  have hc : isDigit c = true := isDigit_of_mem_natText (by rw [hcons]; simp)
  by_cases hn : n < 0
  · exact ⟨_, _, if_pos hn, .inl rfl⟩
  · exact ⟨c, cs, (if_neg hn).trans hcons, .inr hc⟩

/-- A text that begins with a digit is no word and no number below zero. -/
theorem readScalar_of_digit {c : Char} (hc : isDigit c = true) (cs : List Char) :
    readScalar limit (c :: cs) =
      (readMagnitude limit false (c :: cs)).map fun p => (number p.1, p.2) := by
  have hword : c ∉ ['n', 't', 'f', 'N', 'I', '-'] := notMem_of_isDigit hc (by decide)
  unfold readScalar
  split
  case h_8 => rfl
  all_goals simp_all

theorem readScalar_minus {c : Char} (hc : isDigit c = true) (cs : List Char) :
    readScalar limit ('-' :: c :: cs) =
      (readMagnitude limit true (c :: cs)).map fun p => (number p.1, p.2) := by
  have hword : c ∉ ['I'] := notMem_of_isDigit hc (by decide)
  unfold readScalar
  split
  case h_7 => simp_all
  all_goals simp_all

theorem readScalar_intText {n : Int} (hlimit : isTooLong limit (intText n).length = false)
    (hrest : EndsNumber rest) :
    readScalar limit (intText n ++ rest) = some (number (.int n), rest) := by
  obtain ⟨c, cs, hcons⟩ := List.exists_cons_of_ne_nil (natText_ne_nil n.natAbs)
  have hc : isDigit c = true := isDigit_of_mem_natText (by rw [hcons]; simp)
  -- the sign counts as a character of the number
  by_cases hn : n < 0
  · have hvalue : -(n.natAbs : Int) = n := by omega
    rw [intText, if_pos hn, List.length_cons, Nat.add_comm] at hlimit
    have hread := readMagnitude_natText true n.natAbs hlimit hrest
    rw [hcons, List.cons_append] at hread
    rw [intText, if_pos hn, List.cons_append, hcons, List.cons_append, readScalar_minus hc, hread]
    simp only [Option.map_some, if_true, hvalue]
  · have hvalue : (n.natAbs : Int) = n := by omega
    rw [intText, if_neg hn] at hlimit ⊢
    rw [← Nat.zero_add (natText n.natAbs).length] at hlimit
    have hread := readMagnitude_natText false n.natAbs hlimit hrest
    rw [hcons, List.cons_append] at hread ⊢
    rw [readScalar_of_digit hc, hread]
    simp only [Option.map_some, Bool.false_eq_true, if_false, hvalue]

end SchemaDraft.Json
