import SchemaDraft.Proofs.Export.ConstraintNames
import SchemaDraft.Proofs.Text.Utf8

/-!
Names that are made to fit. What comes out takes no more bytes than the database keeps: 54 for a
start of the name, one for the underscore and eight for the digits of the digest. The cut is one
between bytes, and what it leaves of a character is dropped, so the start is the longest one that
there is room for; a name that has been made to fit is not changed again (`fitName_cut`).
-/

namespace SchemaDraft.Export

open Text

variable {cs : List Char}

/-! ### Digests as text -/

/-- A word in eight hexadecimal digits, in small letters. -/
def wordDigits (word : UInt32) : List Char :=
  [28, 24, 20, 16, 12, 8, 4, 0].map fun shift => Json.hexDigit (word.toNat >>> shift % 16)

/-- The digest of some bytes in 64 hexadecimal digits. -/
def digestDigits (bytes : List UInt8) : List Char :=
  let digest := Sha256.digest bytes
  [digest.a, digest.b, digest.c, digest.d, digest.e, digest.f, digest.g, digest.h].flatMap
    wordDigits

/-- The mark is the start of the digest of the name. -/
theorem mark_eq_take (cs : List Char) : mark cs = (digestDigits (utf8Bytes cs)).take 8 := rfl

example : digestDigits (utf8Bytes "abc".toList) =
    "ba7816bf8f01cfea414140de5dae2223b00361a396177a9cb410ff61f20015ad".toList := by decide +kernel

/-! ### Bytes of cut names -/

theorem utf8Length_of_single (h : ∀ c ∈ cs, c.utf8Size = 1) : utf8Length cs = cs.length := by
  induction cs with
  | nil => rfl
  | cons c cs ih =>
    rw [utf8Length_cons, h c (by simp), ih fun d hd => h d (List.mem_cons_of_mem _ hd),
      List.length_cons, Nat.add_comm]

theorem utf8Size_hexDigit : ∀ n < 16, (Json.hexDigit n).utf8Size = 1 := by decide

theorem utf8Length_mark (cs : List Char) : utf8Length (mark cs) = markLength := by
  refine utf8Length_of_single fun c hc => ?_
  obtain ⟨shift, _, rfl⟩ := List.mem_map.mp hc
  exact utf8Size_hexDigit _ (Nat.mod_lt _ (by decide))

theorem fits_fitName (cs : List Char) : Fits (fitName cs) := by
  by_cases h : Fits cs
  · rwa [fitName_of_fits h]
  · have hstart := fittingStart_le (maxIdentifierBytes - markLength - 1) cs
    have hunderscore : '_'.utf8Size = 1 := by decide
    rw [Fits, fitName_of_not_fits h, utf8Length_append, utf8Length_cons, utf8Length_mark,
      hunderscore]
    simp only [maxIdentifierBytes, markLength] at hstart ⊢
    omega

theorem fitName_fitName (cs : List Char) : fitName (fitName cs) = fitName cs :=
  fitName_of_fits (fits_fitName cs)

/-! ### Cut names -/

/-- A name that is made to fit takes at most 63 bytes. It stays as it is if it did so before; else
it becomes what can be read of its first 54 bytes, which is the longest start of it that takes no
more, with the first eight digits of its digest behind an underscore. Making it fit again changes
nothing. -/
theorem fitName_cut (cs : List Char) :
    (utf8Bytes (fitName cs)).length ≤ 63 ∧
      ((utf8Bytes cs).length ≤ 63 → fitName cs = cs) ∧
      (63 < (utf8Bytes cs).length → ∃ start, IsLongestStart 54 cs start ∧
        start = readBytes ((utf8Bytes cs).take 54) ∧
        fitName cs = start ++ '_' :: (digestDigits (utf8Bytes cs)).take 8) ∧
      fitName (fitName cs) = fitName cs := by
  have hfits : Fits cs ↔ (utf8Bytes cs).length ≤ 63 := by rw [length_utf8Bytes]; rfl
  refine ⟨?_, fun h => fitName_of_fits (hfits.mpr h), fun h => ?_, fitName_fitName cs⟩
  · rw [length_utf8Bytes]
    exact fits_fitName cs
  · -- a name beyond the bound: its longest start that fits, and its mark
    have hcut := fitName_of_not_fits fun hshort => absurd (hfits.mp hshort) (by omega)
    exact ⟨_, isLongestStart_fittingStart 54 cs, (readBytes_take_utf8Bytes 54 cs).symm,
      mark_eq_take cs ▸ hcut⟩

/-- A name of 64 bytes, with the cut in the middle of a character of three. -/
theorem fitName_cut_middle :
    let name := List.replicate 52 'a' ++ "€😀€é".toList
    (utf8Bytes name).length = 64 ∧ readBytes ((utf8Bytes name).take 54) = List.replicate 52 'a' ∧
      fitName name = List.replicate 52 'a' ++ "_dfb5e946".toList ∧
        (utf8Bytes (fitName name)).length ≤ 63 ∧
      fitName (fitName name) = fitName name := by
  intro name
  have hlong : (utf8Bytes name).length = 64 := by decide +kernel
  have hread : readBytes ((utf8Bytes name).take 54) = List.replicate 52 'a' := by decide +kernel
  have hdigits : (digestDigits (utf8Bytes name)).take 8 = "dfb5e946".toList := by decide +kernel
  obtain ⟨hfits, _, hcut, hagain⟩ := fitName_cut name
  obtain ⟨start, _, rfl, hname⟩ := hcut (by omega)
  rw [hread, hdigits] at hname
  exact ⟨hlong, hread, hname, hfits, hagain⟩

end SchemaDraft.Export
