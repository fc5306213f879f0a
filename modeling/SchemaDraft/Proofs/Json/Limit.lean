import Mathlib.Algebra.Group.Nat.Defs
import SchemaDraft.Proofs.Json.ReadBack

/-!
A limit on the length of numbers only takes values away. What a reader with a limit reads, one
without reads as well, and none of its integers is too long (`readWithin_eq_some`). The limit is
checked on the text of an integer, which is never shorter than the integer needs
(`length_intText_le`).
-/

namespace SchemaDraft.Json

open Number

variable {limit : Option Nat} {cs rest : List Char}

/-- Is this a double, or an integer that is not too long for a reader? -/
def IsWithin (limit : Option Nat) : Number → Prop
  | .int n => isTooLong limit (intText n).length = false
  | .real _ => True

/-! ### Numbers -/

theorem foldl_digits_lt (h : ∀ c ∈ cs, isDigit c = true) (start : Nat) :
    cs.foldl (fun n c => 10 * n + (c.toNat - '0'.toNat)) start < (start + 1) * 10 ^ cs.length := by
  induction cs generalizing start with
  | nil => simp
  | cons c cs ih =>
    have hc : c.toNat - '0'.toNat < 10 := by
      have hdigit := h c (by simp)
      simp only [isDigit, Bool.and_eq_true, decide_eq_true_eq, Char.le_def,
        UInt32.le_iff_toNat_le] at hdigit
      have hnine : c.toNat ≤ 57 := hdigit.2
      have hzero : '0'.toNat = 48 := rfl
      omega
    have hrest :=
      ih (fun d hd => h d (List.mem_cons_of_mem _ hd)) (10 * start + (c.toNat - '0'.toNat))
    -- one more digit multiplies by ten and adds less than ten
    have hstart : 10 * start + (c.toNat - '0'.toNat) + 1 ≤ (start + 1) * 10 := by omega
    rw [List.foldl_cons, List.length_cons, Nat.pow_succ', ← Nat.mul_assoc]
    exact Nat.lt_of_lt_of_le hrest (Nat.mul_le_mul_right _ hstart)

theorem digitsValue_lt (h : ∀ c ∈ cs, isDigit c = true) : digitsValue cs < 10 ^ cs.length := by
  have hlt := foldl_digits_lt h 0
  rwa [Nat.zero_add, Nat.one_mul] at hlt

/-- A sign and some digits are never shorter than the integer that they stand for. -/
theorem length_intText_le (negative : Bool) (h : ∀ c ∈ cs, isDigit c = true) (hne : cs ≠ []) :
    (intText (if negative then -(digitsValue cs : Int) else digitsValue cs)).length ≤
      signLength negative + cs.length := by
  have hdigits : (natText (digitsValue cs)).length ≤ cs.length :=
    (Nat.length_toDigits_le_iff (by decide) (List.length_pos_iff.mpr hne)).mpr (digitsValue_lt h)
  cases negative with
  | false =>
    have hsign : ¬(digitsValue cs : Int) < 0 := by omega
    simpa [intText, hsign, signLength] using hdigits
  | true =>
    simp only [intText, if_true, Int.natAbs_neg, Int.natAbs_natCast, signLength]
    split
    · rw [List.length_cons]
      omega
    · -- zero has no sign, whatever sign it was read with
      omega

theorem readWholePart_eq_some {whole : List Char} (h : readWholePart cs = some (whole, rest)) :
    whole ≠ [] ∧ ∀ c ∈ whole, isDigit c = true := by
  cases cs with
  | nil => exact absurd h (by simp [readWholePart])
  | cons c cs =>
    rw [readWholePart] at h
    split at h
    · obtain ⟨rfl, _⟩ : ['0'] = whole ∧ cs = rest := by simpa using h
      exact ⟨by simp, by decide⟩
    · split at h
      · rename_i hc
        obtain ⟨rfl, _⟩ := Prod.mk.inj (Option.some.inj h)
        exact ⟨by simp [hc], List.all_eq_true.mp List.all_takeWhile⟩
      · exact absurd h (by simp)

theorem isTooLong_of_le {m n : Nat} (hle : m ≤ n) (h : isTooLong limit n = false) :
    isTooLong limit m = false := by
  cases limit with
  | none => rfl
  | some most =>
    simp only [isTooLong, Option.any_some, decide_eq_false_iff_not] at h ⊢
    omega

theorem readMagnitude_eq_some {negative : Bool} {n : Number}
    (h : readMagnitude limit negative cs = some (n, rest)) :
    readMagnitude none negative cs = some (n, rest) ∧ IsWithin limit n := by
  unfold readMagnitude at h ⊢
  cases hwhole : readWholePart cs with
  | none => simp [hwhole] at h
  | some part =>
    obtain ⟨whole, more⟩ := part
    obtain ⟨hne, hdigits⟩ := readWholePart_eq_some hwhole
    have hnone : isTooLong none (signLength negative + whole.length) = false := rfl
    cases hfraction : readFractionPart more with
    | none => simp [hwhole, hfraction] at h
    | some part =>
      obtain ⟨fraction, more⟩ := part
      cases hexponent : readExponentPart more with
      | none => simp [hwhole, hfraction, hexponent] at h
      | some part =>
        obtain ⟨exponent, more⟩ := part
        simp [hwhole, hfraction, hexponent, hnone] at h ⊢
        obtain ⟨hlong, h⟩ := h
        refine ⟨h, ?_⟩
        split at h
        · -- an integer: no point and no exponent
          obtain ⟨rfl, _⟩ := Prod.mk.inj (Option.some.inj h)
          exact isTooLong_of_le (length_intText_le negative hdigits hne) hlong
        · obtain ⟨rfl, _⟩ := Prod.mk.inj (Option.some.inj h)
          trivial

/-! ### Values -/

theorem readNumber_eq_some {negative : Bool} {v : Json}
    (h : (readMagnitude limit negative cs).map (fun (n, more) => (number n, more)) =
      some (v, rest)) :
    (readMagnitude none negative cs).map (fun (n, more) => (number n, more)) = some (v, rest) ∧
      ∀ n ∈ v.numbers, IsWithin limit n := by
  obtain ⟨⟨n, more⟩, hread, hpair⟩ := Option.map_eq_some_iff.mp h
  obtain ⟨rfl, rfl⟩ := Prod.mk.inj hpair
  obtain ⟨hnone, hwithin⟩ := readMagnitude_eq_some hread
  rw [hnone]
  exact ⟨rfl, List.forall_mem_singleton.mpr hwithin⟩

/-- Words hold no integers. -/
theorem within_of_readWord {w : Option (List Char)} {word v : Json}
    (hword : ∀ n ∈ word.numbers, IsWithin limit n) (h : w.map (word, ·) = some (v, rest)) :
    ∀ n ∈ v.numbers, IsWithin limit n := by
  obtain ⟨more, _, hpair⟩ := Option.map_eq_some_iff.mp h
  obtain ⟨rfl, _⟩ := Prod.mk.inj hpair
  exact hword

theorem readScalar_eq_some {v : Json} (h : readScalar limit cs = some (v, rest)) :
    readScalar none cs = some (v, rest) ∧ ∀ n ∈ v.numbers, IsWithin limit n := by
  have hreal : ∀ x : Float, ∀ n ∈ (number (.real x)).numbers, IsWithin limit n :=
    fun x => List.forall_mem_singleton.mpr trivial
  unfold readScalar at h ⊢
  split at h
  case h_1 => exact ⟨h, within_of_readWord (List.forall_mem_nil _) h⟩
  case h_2 => exact ⟨h, within_of_readWord (List.forall_mem_nil _) h⟩
  case h_3 => exact ⟨h, within_of_readWord (List.forall_mem_nil _) h⟩
  case h_4 => exact ⟨h, within_of_readWord (hreal _) h⟩
  case h_5 => exact ⟨h, within_of_readWord (hreal _) h⟩
  case h_6 => exact ⟨h, within_of_readWord (hreal _) h⟩
  case h_7 => exact readNumber_eq_some h
  case h_8 => exact readNumber_eq_some h

/-- Is what each of the readers gives with so much fuel also given without the limit, and within it?
-/
structure Relaxes (limit : Option Nat) (fuel : Nat) : Prop where
  value : ∀ {cs rest : List Char} {v : Json}, readValue limit fuel cs = some (v, rest) →
    readValue none fuel cs = some (v, rest) ∧ ∀ n ∈ v.numbers, IsWithin limit n
  items : ∀ {cs rest : List Char} {vs : List Json}, readItems limit fuel cs = some (vs, rest) →
    readItems none fuel cs = some (vs, rest) ∧ ∀ n ∈ numbersOfItems vs, IsWithin limit n
  members : ∀ {cs rest : List Char} {ms : List (String × Json)},
    readMembers limit fuel cs = some (ms, rest) →
      readMembers none fuel cs = some (ms, rest) ∧ ∀ n ∈ numbersOfMembers ms, IsWithin limit n

theorem relaxes_zero : Relaxes limit 0 where
  value h := absurd h (by simp [readValue])
  items h := absurd h (by simp [readItems])
  members h := absurd h (by simp [readMembers])

variable {fuel : Nat}

theorem Relaxes.value_succ (ih : Relaxes limit fuel) {v : Json}
    (h : readValue limit (fuel + 1) cs = some (v, rest)) :
    readValue none (fuel + 1) cs = some (v, rest) ∧ ∀ n ∈ v.numbers, IsWithin limit n := by
  unfold readValue at h ⊢
  split at h
  case h_1 =>
    obtain ⟨⟨text, more⟩, _, hpair⟩ := Option.map_eq_some_iff.mp h
    obtain ⟨rfl, rfl⟩ := Prod.mk.inj hpair
    exact ⟨h, List.forall_mem_nil _⟩
  case h_2 =>
    split at h
    · -- an empty array
      obtain ⟨rfl, rfl⟩ := Prod.mk.inj (Option.some.inj h)
      exact ⟨rfl, List.forall_mem_nil _⟩
    · obtain ⟨⟨vs, more⟩, hread, hpair⟩ := Option.map_eq_some_iff.mp h
      obtain ⟨rfl, rfl⟩ := Prod.mk.inj hpair
      obtain ⟨hnone, hwithin⟩ := ih.items hread
      rw [hnone]
      exact ⟨rfl, hwithin⟩
  case h_3 =>
    split at h
    · -- an empty object
      obtain ⟨rfl, rfl⟩ := Prod.mk.inj (Option.some.inj h)
      exact ⟨rfl, List.forall_mem_nil _⟩
    · obtain ⟨⟨ms, more⟩, hread, hpair⟩ := Option.map_eq_some_iff.mp h
      obtain ⟨rfl, rfl⟩ := Prod.mk.inj hpair
      obtain ⟨hnone, hwithin⟩ := ih.members hread
      rw [hnone]
      exact ⟨rfl, hwithin⟩
  case h_4 => exact readScalar_eq_some h

theorem Relaxes.items_succ (ih : Relaxes limit fuel) {vs : List Json}
    (h : readItems limit (fuel + 1) cs = some (vs, rest)) :
    readItems none (fuel + 1) cs = some (vs, rest) ∧ ∀ n ∈ numbersOfItems vs, IsWithin limit n := by
  unfold readItems at h ⊢
  cases hvalue : readValue limit fuel cs with
  | none => simp [hvalue] at h
  | some part =>
    obtain ⟨v, more⟩ := part
    obtain ⟨hnone, hwithin⟩ := ih.value hvalue
    simp only [hvalue, hnone] at h ⊢
    split at h
    · -- the last item
      obtain ⟨rfl, rfl⟩ := Prod.mk.inj (Option.some.inj h)
      exact ⟨rfl, by simpa [numbersOfItems] using hwithin⟩
    · obtain ⟨⟨vs, more⟩, hread, hpair⟩ := Option.map_eq_some_iff.mp h
      obtain ⟨rfl, rfl⟩ := Prod.mk.inj hpair
      obtain ⟨hrest, hmore⟩ := ih.items hread
      rw [hrest]
      exact ⟨rfl, List.forall_mem_append.mpr ⟨hwithin, hmore⟩⟩
    · exact absurd h (by simp)

theorem Relaxes.members_succ (ih : Relaxes limit fuel) {ms : List (String × Json)}
    (h : readMembers limit (fuel + 1) cs = some (ms, rest)) :
    readMembers none (fuel + 1) cs = some (ms, rest) ∧
      ∀ n ∈ numbersOfMembers ms, IsWithin limit n := by
  unfold readMembers at h ⊢
  split at h
  · next cs =>
    cases hkey : readStringRest cs with
    | none => simp [hkey] at h
    | some part =>
      obtain ⟨key, more⟩ := part
      simp only [hkey] at h ⊢
      split at h
      · next after _ =>
        cases hvalue : readValue limit fuel (skipGap after) with
        | none => simp [hvalue] at h
        | some part =>
          obtain ⟨v, more⟩ := part
          obtain ⟨hnone, hwithin⟩ := ih.value hvalue
          simp only [hvalue, hnone] at h ⊢
          split at h
          · obtain ⟨rfl, rfl⟩ := Prod.mk.inj (Option.some.inj h)
            exact ⟨rfl, by simpa [numbersOfMembers] using hwithin⟩
          · obtain ⟨⟨ms, more⟩, hread, hpair⟩ := Option.map_eq_some_iff.mp h
            obtain ⟨rfl, rfl⟩ := Prod.mk.inj hpair
            obtain ⟨hrest, hmore⟩ := ih.members hread
            rw [hrest]
            exact ⟨rfl, List.forall_mem_append.mpr ⟨hwithin, hmore⟩⟩
          · exact absurd h (by simp)
      · exact absurd h (by simp)
  · exact absurd h (by simp)

/-- The readers call one another with less fuel. -/
theorem relaxes (limit : Option Nat) : ∀ fuel, Relaxes limit fuel
  | 0 => relaxes_zero
  | fuel + 1 =>
    ⟨(relaxes limit fuel).value_succ, (relaxes limit fuel).items_succ,
      (relaxes limit fuel).members_succ⟩

/-- What is read with a limit is read without one, and none of its integers is too long. -/
theorem readWithin_eq_some {text : String} {v : Json} (h : readWithin limit text = some v) :
    read text = some v ∧ ∀ n ∈ v.numbers, IsWithin limit n := by
  unfold read
  unfold readWithin at h ⊢
  cases hvalue : readValue limit (2 * text.toList.length + 2) (skipGap text.toList) with
  | none => simp [hvalue] at h
  | some part =>
    obtain ⟨w, more⟩ := part
    obtain ⟨hnone, hwithin⟩ := (relaxes limit _).value hvalue
    simp only [hvalue, hnone] at h ⊢
    refine ⟨h, ?_⟩
    split at h
    · rwa [← Option.some.inj h]
    · exact absurd h (by simp)

end SchemaDraft.Json
