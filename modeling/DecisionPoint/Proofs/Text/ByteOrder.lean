import Mathlib.Data.String.Basic
import Mathlib.Tactic.SplitIfs

/-!
# The order of texts by their bytes

Texts are compared character by character.  Their UTF-8 bytes are in the same order: the first
byte in which two characters differ decides between them, and no character is written as the
beginning of another.
-/

set_option autoImplicit false

namespace DecisionPoint

namespace Text

def bytes (text : String) : List UInt8 :=
  text.toUTF8.data.toList

theorem bytes_eq_flatMap (text : String) :
    bytes text = text.toList.flatMap String.utf8EncodeChar := by
  have encoded : text.toUTF8 = text.toList.utf8Encode := by
    rw [String.toUTF8_eq_toByteArray, String.utf8Encode_toList]
  unfold bytes
  rw [encoded, List.utf8Encode, List.toList_data_toByteArray]

theorem ofNat_lt_ofNat_iff {a b : Nat} (aByte : a < 256) (bByte : b < 256) :
    UInt8.ofNat a < UInt8.ofNat b ↔ a < b := by
  rw [UInt8.lt_iff_toNat_lt, UInt8.toNat_ofNat_of_lt' aByte, UInt8.toNat_ofNat_of_lt' bByte]

theorem ofNat_eq_ofNat_iff {a b : Nat} (aByte : a < 256) (bByte : b < 256) :
    UInt8.ofNat a = UInt8.ofNat b ↔ a = b := by
  rw [← UInt8.toNat_inj, UInt8.toNat_ofNat_of_lt' aByte, UInt8.toNat_ofNat_of_lt' bByte]

theorem charCode_lt (c : Char) : c.val.toNat < 0x110000 := by
  have valid := c.valid
  simp only [UInt32.isValidChar, Nat.isValidChar] at valid
  omega

/-- The bytes of a smaller character come first, whatever follows. -/
theorem encode_append_lt {c d : Char} (smaller : c < d) (afterC afterD : List UInt8) :
    String.utf8EncodeChar c ++ afterC < String.utf8EncodeChar d ++ afterD := by
  have codes : c.val.toNat < d.val.toNat := smaller
  have limit := charCode_lt d
  unfold String.utf8EncodeChar
  generalize c.val.toNat = v at codes
  generalize d.val.toNat = w at codes limit
  have thirdOfV : v / 4096 = v / 64 / 64 := by omega
  have thirdOfW : w / 4096 = w / 64 / 64 := by omega
  have fourthOfV : v / 262144 = v / 64 / 64 / 64 := by omega
  have fourthOfW : w / 262144 = w / 64 / 64 / 64 := by omega
  have topOfV : v / 64 / 64 / 64 % 8 = v / 64 / 64 / 64 := Nat.mod_eq_of_lt (by omega)
  have topOfW : w / 64 / 64 / 64 % 8 = w / 64 / 64 / 64 := Nat.mod_eq_of_lt (by omega)
  simp only [thirdOfV, thirdOfW, fourthOfV, fourthOfW, topOfV, topOfW]
  -- One case for each pair of lengths; a longer encoding begins with a greater byte.
  split_ifs <;>
    simp (disch := omega) only [List.cons_append, List.nil_append, List.cons_lt_cons_iff,
      ofNat_lt_ofNat_iff, ofNat_eq_ofNat_iff] <;>
    omega

theorem flatMap_encode_lt {first second : List Char} (smaller : first < second) :
    first.flatMap String.utf8EncodeChar < second.flatMap String.utf8EncodeChar := by
  induction first generalizing second with
  | nil =>
      cases second with
      | nil => exact absurd smaller (List.lt_irrefl [])
      | cons d rest =>
          rw [List.flatMap_cons]
          obtain ⟨byte, others, encoded⟩ :=
            List.exists_cons_of_ne_nil (String.utf8EncodeChar_ne_nil (c := d))
          rw [encoded]
          exact List.nil_lt_cons byte _
  | cons c rest ih =>
      cases second with
      | nil => exact absurd smaller (List.not_lt_nil _)
      | cons d rest' =>
          rw [List.flatMap_cons, List.flatMap_cons]
          rcases List.cons_lt_cons_iff.mp smaller with less | ⟨same, less⟩
          · exact encode_append_lt less _ _
          · rw [same]
            exact List.append_left_lt (ih less)

theorem lt_iff_bytes_lt (a b : String) : a < b ↔ bytes a < bytes b := by
  have ascends {first second : String} (smaller : first < second) :
      bytes first < bytes second := by
    rw [bytes_eq_flatMap, bytes_eq_flatMap]
    exact flatMap_encode_lt smaller
  constructor
  · exact ascends
  · intro less
    by_cases notLess : a < b
    · exact notLess
    · rcases eq_or_lt_of_not_gt notLess with same | more
      · rw [same] at less
        exact absurd less (List.lt_irrefl _)
      · exact absurd (ascends more) (List.lt_asymm less)

end Text

end DecisionPoint
