import Mathlib.Data.List.Infix
import SchemaDraft.Text.Utf8

/-!
Texts cut between bytes. Reading the first bytes of a text, and leaving out those that make no whole
character, gives the longest start of the text that takes no more bytes
(`readBytes_take_utf8Bytes`): whole characters are read as they were written, and what a cut leaves
of one is never read, since its first byte asks for more bytes than are left and no other byte of it
is a first one.
-/

namespace SchemaDraft.Text

variable {cs : List Char} {c : Char} {bytes rest : List UInt8} {budget : Nat}

/-! ### Reading bytes -/

/-- The text of some bytes, of which the first `skipped` belong to a character that is read already.
A byte at which no whole character starts is left out. -/
def readBytesFrom : Nat → List UInt8 → List Char
  | _, [] => []
  | skipped + 1, _ :: bytes => readBytesFrom skipped bytes
  | 0, byte :: bytes =>
    match (byte :: bytes).toByteArray.utf8DecodeChar? 0 with
    | some c => c :: readBytesFrom (c.utf8Size - 1) bytes
    | none => readBytesFrom 0 bytes

/-- The text of some bytes, without those that belong to no whole character. -/
def readBytes (bytes : List UInt8) : List Char := readBytesFrom 0 bytes

theorem readBytesFrom_append (skipped rest : List UInt8) :
    readBytesFrom skipped.length (skipped ++ rest) = readBytes rest := by
  induction skipped with
  | nil => rfl
  | cons byte skipped ih => exact ih

theorem decode_utf8EncodeChar_append (c : Char) (rest : List UInt8) :
    (String.utf8EncodeChar c ++ rest).toByteArray.utf8DecodeChar? 0 = some c := by
  rw [List.toByteArray_append, ByteArray.utf8DecodeChar?_utf8EncodeChar_append]

/-- A character is read if all of its bytes are there. -/
theorem exists_append_of_decode (h : bytes.toByteArray.utf8DecodeChar? 0 = some c) :
    ∃ rest, bytes = String.utf8EncodeChar c ++ rest := by
  have hbytes := ByteArray.eq_of_utf8DecodeChar?_eq_some h
  refine ⟨(bytes.toByteArray.extract c.utf8Size bytes.toByteArray.size).data.toList, ?_⟩
  have hlist := congrArg (fun array => array.data.toList) hbytes
  simpa using hlist

theorem readBytes_utf8EncodeChar_append (c : Char) (rest : List UInt8) :
    readBytes (String.utf8EncodeChar c ++ rest) = c :: readBytes rest := by
  have hdecode := decode_utf8EncodeChar_append c rest
  obtain ⟨byte, bytes, hbytes⟩ := List.exists_cons_of_ne_nil (String.utf8EncodeChar_ne_nil (c := c))
  have hlength : c.utf8Size - 1 = bytes.length := by
    rw [← String.length_utf8EncodeChar, hbytes]
    rfl
  rw [hbytes, List.cons_append] at hdecode ⊢
  rw [readBytes, readBytesFrom, hdecode]
  show c :: readBytesFrom (c.utf8Size - 1) (bytes ++ rest) = _
  rw [hlength, readBytesFrom_append]

/-! ### Parts of a character -/

theorem isUTF8FirstByte_of_decode {byte : UInt8}
    (h : (byte :: bytes).toByteArray.utf8DecodeChar? 0 = some c) : byte.IsUTF8FirstByte := by
  obtain ⟨rest, hrest⟩ := exists_append_of_decode h
  obtain ⟨first, more, hmore⟩ := List.exists_cons_of_ne_nil (String.utf8EncodeChar_ne_nil (c := c))
  rw [hmore, List.cons_append] at hrest
  have hvalid :=
    (Char.isValidUTF8_toByteArray_utf8EncodeChar (c := c)).isUTF8FirstByte_getElem_zero
      (by simp [hmore])
  obtain rfl : byte = first := (List.cons.inj hrest).1
  simpa [hmore] using hvalid

/-- Bytes of which none starts a character have no text. -/
theorem readBytes_of_not_first (h : ∀ byte ∈ bytes, ¬byte.IsUTF8FirstByte) :
    readBytes bytes = [] := by
  induction bytes with
  | nil => rfl
  | cons byte bytes ih =>
    have hnone : (byte :: bytes).toByteArray.utf8DecodeChar? 0 = none := by
      cases hdecode : (byte :: bytes).toByteArray.utf8DecodeChar? 0 with
      | none => rfl
      | some c => exact absurd (isUTF8FirstByte_of_decode hdecode) (h byte (by simp))
    rw [readBytes, readBytesFrom, hnone]
    exact ih fun b hb => h b (List.mem_cons_of_mem _ hb)

theorem not_isUTF8FirstByte_continuation :
    ∀ n < 64, ¬(UInt8.ofNat (n + 128)).IsUTF8FirstByte := by decide

/-- Only the first byte of a character is a first byte. -/
theorem not_isUTF8FirstByte_of_mem_tail {byte : UInt8} (h : byte ∈ (String.utf8EncodeChar c).tail) :
    ¬byte.IsUTF8FirstByte := by
  -- all bytes but the first are continuation bytes, of the form 10xxxxxx
  obtain ⟨n, rfl⟩ : ∃ n, byte = UInt8.ofNat (n % 64 + 128) := by
    revert h
    fun_cases String.utf8EncodeChar c <;>
      simp only [List.tail_cons, List.mem_cons, List.not_mem_nil, or_false, false_imp_iff]
    · rintro rfl
      exact ⟨_, rfl⟩
    · rintro (rfl | rfl) <;> exact ⟨_, rfl⟩
    · rintro (rfl | rfl | rfl) <;> exact ⟨_, rfl⟩
  exact not_isUTF8FirstByte_continuation (n % 64) (Nat.mod_lt n (by decide))

/-- What a cut leaves of a character is not read. -/
theorem readBytes_take_utf8EncodeChar (h : budget < c.utf8Size) :
    readBytes ((String.utf8EncodeChar c).take budget) = [] := by
  obtain ⟨byte, bytes, hbytes⟩ := List.exists_cons_of_ne_nil (String.utf8EncodeChar_ne_nil (c := c))
  cases budget with
  | zero => rfl
  | succ n =>
    rw [hbytes, List.take_succ_cons]
    have hnone : (byte :: bytes.take n).toByteArray.utf8DecodeChar? 0 = none := by
      cases hdecode : (byte :: bytes.take n).toByteArray.utf8DecodeChar? 0 with
      | none => rfl
      | some d =>
        obtain ⟨rest, hrest⟩ := exists_append_of_decode hdecode
        -- all bytes of `c` start with those of `d`, so the two are one character, and it does not
        -- fit
        have hwhole :
            String.utf8EncodeChar c = String.utf8EncodeChar d ++ (rest ++ bytes.drop n) := by
          rw [← List.append_assoc, ← hrest, List.cons_append, List.take_append_drop, hbytes]
        have hcd : c = d := by
          have hd := decode_utf8EncodeChar_append d (rest ++ bytes.drop n)
          rw [← hwhole, ← List.append_nil (String.utf8EncodeChar c),
            decode_utf8EncodeChar_append] at hd
          exact Option.some.inj hd
        have hlength := congrArg List.length hrest
        rw [List.length_append, String.length_utf8EncodeChar, ← hcd, List.length_cons,
          List.length_take] at hlength
        omega
    have htail : ∀ b ∈ bytes.take n, ¬b.IsUTF8FirstByte := by
      intro b hb
      refine not_isUTF8FirstByte_of_mem_tail (c := c) ?_
      rw [hbytes]
      exact List.mem_of_mem_take hb
    rw [readBytes, readBytesFrom, hnone]
    exact readBytes_of_not_first htail

/-! ### The cut -/

/-- The first bytes of a text give the start of it that they have room for. -/
theorem readBytes_take_utf8Bytes (budget : Nat) (cs : List Char) :
    readBytes ((utf8Bytes cs).take budget) = fittingStart budget cs := by
  induction cs generalizing budget with
  | nil => simp [utf8Bytes, readBytes, readBytesFrom, fittingStart]
  | cons c cs ih =>
    have hlength : (String.utf8EncodeChar c).length = c.utf8Size := String.length_utf8EncodeChar c
    rw [utf8Bytes_cons, List.take_append, hlength, fittingStart]
    split
    · rename_i hfits
      rw [List.take_of_length_le (hlength.trans_le hfits), readBytes_utf8EncodeChar_append, ih]
    · rename_i hcut
      -- the cut falls inside this character, and what is left of it reads as nothing
      rw [Nat.sub_eq_zero_of_le (by omega), List.take_zero, List.append_nil,
        readBytes_take_utf8EncodeChar (by omega)]

/-- Is this the longest start of a text that takes at most so many bytes? -/
structure IsLongestStart (budget : Nat) (cs start : List Char) : Prop where
  starts : start <+: cs
  fits : (utf8Bytes start).length ≤ budget
  longest : ∀ other, other <+: cs → (utf8Bytes other).length ≤ budget → other <+: start

theorem isPrefix_fittingStart {other : List Char} (h : other <+: cs)
    (hfits : utf8Length other ≤ budget) : other <+: fittingStart budget cs := by
  induction other generalizing cs budget with
  | nil => exact List.nil_prefix
  | cons c other ih =>
    obtain ⟨rest, rfl⟩ := h
    rw [utf8Length_cons] at hfits
    rw [List.cons_append, fittingStart, if_pos (by omega), List.prefix_cons_inj]
    exact ih (List.prefix_append other rest) (by omega)

theorem isLongestStart_fittingStart (budget : Nat) (cs : List Char) :
    IsLongestStart budget cs (fittingStart budget cs) where
  starts := fittingStart_prefix budget cs
  fits := by
    rw [length_utf8Bytes]
    exact fittingStart_le budget cs
  longest := by
    intro other hother hfits
    rw [length_utf8Bytes] at hfits
    exact isPrefix_fittingStart hother hfits

end SchemaDraft.Text
