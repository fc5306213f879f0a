/-!
Texts by their bytes in UTF-8: how many a text takes, and its longest start or end that fits into so
many. No character is ever split.
-/

namespace SchemaDraft.Text

def utf8Bytes (cs : List Char) : List UInt8 := cs.flatMap String.utf8EncodeChar

/-- How many bytes a text takes. -/
def utf8Length (cs : List Char) : Nat := cs.foldr (fun c bytes => c.utf8Size + bytes) 0

/-- The longest start of a text that fits into so many bytes. -/
def fittingStart : Nat → List Char → List Char
  | _, [] => []
  | budget, c :: cs =>
    if c.utf8Size ≤ budget then c :: fittingStart (budget - c.utf8Size) cs else []

/-- The longest end of a text that fits into so many bytes. -/
def fittingEnd (budget : Nat) (cs : List Char) : List Char :=
  (fittingStart budget cs.reverse).reverse

theorem utf8Length_cons (c : Char) (cs : List Char) :
    utf8Length (c :: cs) = c.utf8Size + utf8Length cs := rfl

theorem utf8Length_append (cs ds : List Char) :
    utf8Length (cs ++ ds) = utf8Length cs + utf8Length ds := by
  induction cs with
  | nil => exact (Nat.zero_add _).symm
  | cons c cs ih => rw [List.cons_append, utf8Length_cons, utf8Length_cons, ih, Nat.add_assoc]

theorem utf8Bytes_cons (c : Char) (cs : List Char) :
    utf8Bytes (c :: cs) = String.utf8EncodeChar c ++ utf8Bytes cs := List.flatMap_cons

@[simp]
theorem length_utf8Bytes (cs : List Char) : (utf8Bytes cs).length = utf8Length cs := by
  induction cs with
  | nil => rfl
  | cons c cs ih =>
    rw [utf8Bytes_cons, List.length_append, String.length_utf8EncodeChar, ih, utf8Length_cons]

theorem fittingStart_prefix (budget : Nat) (cs : List Char) : fittingStart budget cs <+: cs := by
  induction cs generalizing budget with
  | nil => exact List.nil_prefix
  | cons c cs ih =>
    unfold fittingStart
    split
    · exact (List.prefix_cons_inj c).mpr (ih _)
    · exact List.nil_prefix

theorem fittingStart_le (budget : Nat) (cs : List Char) :
    utf8Length (fittingStart budget cs) ≤ budget := by
  induction cs generalizing budget with
  | nil => exact Nat.zero_le budget
  | cons c cs ih =>
    unfold fittingStart
    split
    · rename_i h
      have hrest := ih (budget - c.utf8Size)
      rw [utf8Length_cons]
      omega
    · exact Nat.zero_le budget

end SchemaDraft.Text
