import CgroupMeter.Text.Lines
import Mathlib.Tactic.SplitIfs

/-!
# The order of texts and of their bytes

Texts are ordered as their UTF-8 bytes are: UTF-8 is made so that a character
with a smaller code has smaller bytes, as far as they differ first.
-/

namespace CgroupMeter.Text

theorem toBytes_eq_flatMap (text : String) :
    toBytes text = text.toList.flatMap String.utf8EncodeChar := by
  rw [toBytes, ← String.utf8Encode_toList, List.utf8Encode,
    List.toList_data_toByteArray]

theorem code_lt_of_char (character : Char) :
    character.val.toNat < 0x110000 := by
  rcases character.valid with low | high
  · exact Nat.lt_trans low (by decide)
  · exact high.2

/-- Numbers are compared digit by digit in base 64. -/
theorem digits_lt {low high : Nat} (less : low < high) :
    low / 64 < high / 64 ∨ low / 64 = high / 64 ∧ low % 64 < high % 64 := by
  omega

/-- A character with a smaller code has smaller bytes, whatever follows. -/
theorem encode_append_lt {first second : Char} (less : first < second)
    (after rest : List UInt8) :
    String.utf8EncodeChar first ++ after <
      String.utf8EncodeChar second ++ rest := by
  have codes : first.val.toNat < second.val.toNat := less
  have bound := code_lt_of_char second
  unfold String.utf8EncodeChar
  generalize first.val.toNat = code at codes ⊢
  generalize second.val.toNat = other at codes bound ⊢
  have last := digits_lt codes
  have third (less : code / 64 < other / 64) :
      code / 4096 < other / 4096 ∨
        code / 4096 = other / 4096 ∧ code / 64 % 64 < other / 64 % 64 := by
    simpa only [Nat.div_div_eq_div_mul] using digits_lt less
  -- More bytes have a greater first byte, and as many bytes differ first in
  -- the digits of the codes in base 64.
  simp only
  split_ifs <;>
    simp (disch := omega) only [List.cons_append, List.cons_lt_cons_iff,
      UInt8.lt_iff_toNat_lt, ← UInt8.toNat_inj, UInt8.toNat_ofNat',
      Nat.mod_eq_of_lt] <;>
    omega

theorem flatMap_encode_lt {first second : List Char} (less : first < second) :
    first.flatMap String.utf8EncodeChar <
      second.flatMap String.utf8EncodeChar := by
  induction less with
  | @nil character rest =>
      rw [List.flatMap_nil, List.flatMap_cons]
      cases encoded : String.utf8EncodeChar character with
      | nil => exact absurd encoded String.utf8EncodeChar_ne_nil
      | cons byte bytes => exact List.nil_lt_cons _ _
  | @rel character rest other after smaller =>
      rw [List.flatMap_cons, List.flatMap_cons]
      exact encode_append_lt smaller _ _
  | @cons character rest after _ ih =>
      rw [List.flatMap_cons, List.flatMap_cons]
      exact List.append_left_lt ih

/-- A smaller text has smaller bytes. -/
theorem toBytes_lt {first second : String} (less : first < second) :
    toBytes first < toBytes second := by
  rw [toBytes_eq_flatMap, toBytes_eq_flatMap]
  exact flatMap_encode_lt (String.lt_iff.1 less)

end CgroupMeter.Text
