import Mathlib.Data.String.Basic
import UsageLedger.Proofs.FixedDigits
import UsageLedger.Text.Utf8

/-!
# Texts in the order of their bytes

Texts are compared character by character.  A store that keeps them in UTF-8
compares their bytes, and that is the same order (`le_iff_bytesOf_le`): the
bytes of a lesser character are less, and they part from those of the greater
one before either of them ends, so what follows cannot matter any more.
-/

namespace UsageLedger.Text

theorem bytesOf_eq_flatMap (text : String) :
    bytesOf text = text.toList.flatMap String.utf8EncodeChar := by
  rw [bytesOf, String.toUTF8, ← String.utf8Encode_toList, List.utf8Encode]
  exact congrArg Array.toList List.data_toByteArray

theorem utf8EncodeChar_of_ascii {character : Char} (ascii : character.toNat < 128) :
    String.utf8EncodeChar character = [UInt8.ofNat character.toNat] := by
  have small : character.val.toNat ≤ 127 := Nat.le_of_lt_succ ascii
  rw [String.utf8EncodeChar, if_pos small]
  rfl

theorem byte_lt_byte_iff
    {first second : Nat}
    (small : first < 256)
    (smallToo : second < 256) :
    UInt8.ofNat first < UInt8.ofNat second ↔ first < second := by
  rw [UInt8.lt_iff_toNat_lt, UInt8.toNat_ofNat_of_lt' small, UInt8.toNat_ofNat_of_lt' smallToo]

theorem byte_inj
    {first second : Nat}
    (small : first < 256)
    (smallToo : second < 256) :
    UInt8.ofNat first = UInt8.ofNat second ↔ first = second := by
  rw [← UInt8.toNat_inj, UInt8.toNat_ofNat_of_lt' small, UInt8.toNat_ofNat_of_lt' smallToo]

theorem code_lt (character : Char) : character.val.toNat < 0x110000 := by
  rcases character.valid with low | high <;> omega

/-- Of two characters the lesser has the lesser bytes, whatever follows them. -/
theorem utf8EncodeChar_append_lt
    {first second : Char}
    (less : first < second)
    (firstRest secondRest : List UInt8) :
    String.utf8EncodeChar first ++ firstRest < String.utf8EncodeChar second ++ secondRest := by
  have order : first.val.toNat < second.val.toNat := less
  have firstCode := code_lt first
  have secondCode := code_lt second
  -- Six bits at a time, so that each byte is a remainder of the quotient before it.
  have twelve : ∀ code : Nat, code / 4096 = code / 64 / 64 := by omega
  have eighteen : ∀ code : Nat, code / 262144 = code / 64 / 64 / 64 := by omega
  simp only [String.utf8EncodeChar, twelve, eighteen]
  generalize first.val.toNat = code at *
  generalize second.val.toNat = other at *
  split_ifs
  all_goals
    simp (disch := omega) only [List.cons_append, List.nil_append, List.cons_lt_cons_iff,
      byte_lt_byte_iff, byte_inj]
    omega

theorem flatMap_utf8EncodeChar_lt {first second : List Char} (less : first < second) :
    first.flatMap String.utf8EncodeChar < second.flatMap String.utf8EncodeChar := by
  induction first generalizing second with
  | nil =>
      cases second with
      | nil => exact absurd less (List.lt_irrefl [])
      | cons character rest =>
          rcases List.exists_cons_of_ne_nil (String.utf8EncodeChar_ne_nil (c := character)) with
            ⟨byte, bytes, encoded⟩
          rw [List.flatMap_cons, encoded]
          exact List.nil_lt_cons _ _
  | cons character rest hypothesis =>
      cases second with
      | nil => exact absurd less (List.not_lt_nil _)
      | cons other others =>
          rw [List.flatMap_cons, List.flatMap_cons]
          rcases List.cons_lt_cons_iff.1 less with lower | ⟨rfl, later⟩
          · exact utf8EncodeChar_append_lt lower _ _
          · exact List.append_left_lt (hypothesis later)

theorem lt_iff_bytesOf_lt {first second : String} :
    first < second ↔ bytesOf first < bytesOf second := by
  rw [String.lt_iff_toList_lt, bytesOf_eq_flatMap, bytesOf_eq_flatMap]
  refine ⟨flatMap_utf8EncodeChar_lt, fun less => ?_⟩
  rcases lt_trichotomy first.toList second.toList with lower | same | higher
  · exact lower
  · rw [same] at less
    exact absurd less (List.lt_irrefl _)
  · exact absurd less (List.lt_asymm (flatMap_utf8EncodeChar_lt higher))

theorem le_iff_bytesOf_le {first second : String} :
    first ≤ second ↔ bytesOf first ≤ bytesOf second := by
  rw [← String.not_lt, lt_iff_bytesOf_lt, List.not_lt]

end UsageLedger.Text
