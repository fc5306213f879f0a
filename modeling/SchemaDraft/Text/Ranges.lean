/-!
Sets and mappings of characters given by ranges of code points. A set is a list of ranges, least
first and without overlap, and membership stops at the first range that starts beyond the code
point. A letter-case mapping is a list of *runs*: the letters of a run lie one or two apart and move
by the same distance.
-/

namespace SchemaDraft.Text

section Decidable

-- What holds of the characters of a text is decided along the text, not over all characters there
-- are.

variable (p : Char → Prop) [DecidablePred p]

instance decidableForallChars (cs : List Char) : Decidable (∀ c ∈ cs, p c) :=
  List.decidableBAll p cs

instance decidableExistsChars (cs : List Char) : Decidable (∃ c ∈ cs, p c) := List.decidableBEx p cs

instance decidableForallChar (c? : Option Char) : Decidable (∀ c ∈ c?, p c) := c?.decidableForallMem

end Decidable

/-- A set of code points: inclusive ranges, least first, without overlap. -/
abbrev Ranges := List (Nat × Nat)

/-- Does a range hold this code point? -/
def Ranges.contains : Ranges → Nat → Bool
  | [], _ => false
  | (low, high) :: rest, n =>
    decide (low ≤ n) && (decide (n ≤ high) || Ranges.contains rest n)

/-- Letters `first`, `first + step`, …, `last`, each mapped to the letter `shift` further on. -/
structure CaseRun where
  first : Nat
  last : Nat
  step : Nat
  shift : Int
  deriving Repr, DecidableEq

/-- Is the code point one of the run's letters? -/
def CaseRun.covers (run : CaseRun) (n : Nat) : Bool :=
  decide (run.first ≤ n) && decide (n ≤ run.last) && (n - run.first) % run.step == 0

/-- The letter that a list of runs, least first, maps a code point to; `none` leaves it alone. -/
def CaseRun.image : List CaseRun → Nat → Option Nat
  | [], _ => none
  | run :: rest, n =>
    if n < run.first then none
    else if run.covers n then some (n + run.shift).toNat
    else CaseRun.image rest n

end SchemaDraft.Text
