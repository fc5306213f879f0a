import SchemaDraft.Number.Layout
import SchemaDraft.Number.Read

/-!
Decimal digits of integers. Digits read back as the number they were written for
(`digitsValue_natText`), so no two numbers have the same digits, and only zero is written with a
leading zero.
-/

namespace SchemaDraft.Number

theorem digitsValue_natText (n : Nat) : digitsValue (natText n) = n := by
  rw [digitsValue, natText, ← Nat.ofDigitChars_eq_foldl, Nat.ofDigitChars_ten_toDigits]

theorem natText_injective {m n : Nat} (h : natText m = natText n) : m = n := by
  rw [← digitsValue_natText m, h, digitsValue_natText]

theorem natText_ne_nil (n : Nat) : natText n ≠ [] := Nat.toDigits_ne_nil

theorem underscore_notMem_natText (n : Nat) : '_' ∉ natText n := Nat.underscore_not_in_toDigits

theorem isDigit_of_mem_natText {n : Nat} {c : Char} (h : c ∈ natText n) : isDigit c = true := by
  have hdigit : c.isDigit = true := Nat.isDigit_of_mem_toDigits (by decide) (by decide) h
  simpa [isDigit, Char.isDigit, Char.le_def] using hdigit

/-- A number that is written with a leading zero is zero. -/
theorem natText_of_head_zero {n : Nat} {rest : List Char} (h : natText n = '0' :: rest) :
    natText n = ['0'] := by
  induction n using Nat.strongRecOn generalizing rest with
  | ind n ih =>
    by_cases hn : n < 10
    · rw [natText, Nat.toDigits_of_lt_base hn] at h ⊢
      exact congrArg (· :: []) (List.cons.inj h).1
    · -- the digits of a larger number start as those of its tenth do
      have hsplit : natText n = natText (n / 10) ++ [(n % 10).digitChar] :=
        Nat.toDigits_of_base_le (by decide) (by omega)
      obtain ⟨d, ds, hds⟩ := List.exists_cons_of_ne_nil (natText_ne_nil (n / 10))
      rw [hsplit, hds, List.cons_append, List.cons.injEq] at h
      rw [h.1] at hds
      have hzero := digitsValue_natText (n / 10)
      rw [ih (n / 10) (by omega) hds] at hzero
      have htenth : 0 = n / 10 := hzero
      omega

end SchemaDraft.Number
