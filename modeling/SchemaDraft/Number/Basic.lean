import SchemaDraft.Number.Binary

/-!
Numbers as documents hold them: integers of any size and doubles, which stay apart. A sum or
difference of two integers is an integer and anything with a double is a double; order is exact, so
that an integer and a double of the same value are equal, and the one that came first is kept by
`largest` and `smallest`.
-/

namespace SchemaDraft

/-- An integer of any size or a double. -/
inductive Number where
  | int (n : Int)
  | real (x : Float)
  deriving Repr, Inhabited

namespace Number

instance (n : Nat) : OfNat Number n := ⟨.int n⟩

/-- The double nearest to a number. -/
def toReal : Number → Float
  | int n => Float.ofInt n
  | real x => x

/-- The least magnitude with no finite double nearest to it: halfway from the largest double to the
power of two after it. -/
def realBound : Nat := Nat.pow 2 1024 - Nat.pow 2 970

/-- Is an integer beyond all doubles? -/
def isBeyondReals (n : Int) : Bool := decide (realBound ≤ n.natAbs)

/-- The sum; of two integers an integer. -/
def add : Number → Number → Number
  | int m, int n => int (m + n)
  | a, b => real (a.toReal + b.toReal)

def sub : Number → Number → Number
  | int m, int n => int (m - n)
  | a, b => real (a.toReal - b.toReal)

instance : Add Number := ⟨add⟩
instance : Sub Number := ⟨sub⟩

/-- Is one of two numbers an integer beyond all doubles, and the other a double? They have neither a
sum nor a difference, and what `add` and `sub` give stands for none. -/
def overflows : Number → Number → Bool
  | int n, real _ => isBeyondReals n
  | real _, int n => isBeyondReals n
  | _, _ => false

/-- Strictly less, exactly; false where a double is no number. -/
def lt : Number → Number → Bool
  | int m, int n => decide (m < n)
  | real x, real y => x < y
  | real x, int n => compareInt x n == some .lt
  | int m, real y => compareInt y m == some .gt

/-- The first of the largest numbers of `first :: rest`. -/
def largest (first : Number) (rest : List Number) : Number :=
  rest.foldl (fun best x => if lt best x then x else best) first

def smallest (first : Number) (rest : List Number) : Number :=
  rest.foldl (fun best x => if lt x best then x else best) first

@[simp]
theorem int_add_int (m n : Int) : (int m + int n : Number) = int (m + n) := rfl

end Number

end SchemaDraft
