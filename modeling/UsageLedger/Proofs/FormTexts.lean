import Mathlib.Data.List.Basic
import UsageLedger.Proofs.ByteOrder
import UsageLedger.Text.FormEncoding

/-!
# Reading encoded parameters back

An encoded name or value stands for the bytes of its text, and neither `&` nor
`=` occurs in it.  The parameters of an encoded list are therefore found again
by their marks, and each text by its bytes: `decodeForm?_encodeForm` has any
parameters, in any order, read back as they were.
-/

namespace UsageLedger.Text

/-! ## Characters and their bytes -/

theorem capitalHexValue?_capitalHexDigit :
    ∀ value < 16, capitalHexValue? (capitalHexDigit value) = some value := by
  decide

theorem formBytes?_percentByte (byte : UInt8) (rest : List Char) :
    formBytes? (percentByte byte ++ rest) = (formBytes? rest).map (byte :: ·) := by
  have small : byte.toNat < 256 := byte.toNat_lt
  have upper := capitalHexValue?_capitalHexDigit (byte.toNat / 16) (by omega)
  have lower := capitalHexValue?_capitalHexDigit (byte.toNat % 16) (by omega)
  have whole : byte.toNat / 16 * 16 + byte.toNat % 16 = byte.toNat := by omega
  simp only [percentByte, List.cons_append, List.nil_append, formBytes?, upper, lower,
    Option.bind_eq_bind, Option.bind_some, whole, UInt8.ofNat_toNat]
  cases formBytes? rest <;> rfl

theorem formBytes?_percentBytes (bytes : List UInt8) (rest : List Char) :
    formBytes? (bytes.flatMap percentByte ++ rest) = (formBytes? rest).map (bytes ++ ·) := by
  induction bytes with
  | nil => exact Option.map_id'.symm
  | cons byte later hypothesis =>
      rw [List.flatMap_cons, List.append_assoc, formBytes?_percentByte, hypothesis,
        Option.map_map]
      rfl

/-- A character that stands for itself is in ASCII, and is no mark. -/
theorem cases_of_isUnreserved {character : Char} (unreserved : isUnreserved character = true) :
    character.toNat < 128 ∧
      character ≠ '%' ∧ character ≠ '+' ∧ character ≠ '&' ∧ character ≠ '=' := by
  refine ⟨?_, ?_, ?_, ?_, ?_⟩
  · simp only [isUnreserved, Bool.or_eq_true, Bool.and_eq_true, decide_eq_true_eq,
      beq_iff_eq] at unreserved
    rcases unreserved with (((((digit | capital) | small) | rfl) | rfl) | rfl) | rfl
    · omega
    · omega
    · omega
    all_goals decide
  all_goals
    rintro rfl
    exact absurd unreserved (by decide)

theorem formBytes?_cons_of_isUnreserved
    {character : Char}
    (unreserved : isUnreserved character = true)
    (rest : List Char) :
    formBytes? (character :: rest) =
      (formBytes? rest).map (UInt8.ofNat character.toNat :: ·) := by
  rcases cases_of_isUnreserved unreserved with ⟨-, notPercent, notPlus, -, -⟩
  rw [formBytes?.eq_def]
  split
  · rename_i nothing
    cases nothing
  · rename_i same
    exact absurd (List.cons.inj same).1 notPercent
  · rename_i same
    exact absurd (List.cons.inj same).1 notPlus
  · rename_i same
    cases same
    rw [if_pos unreserved]

/-- An encoded character stands for its bytes. -/
theorem formBytes?_formChar (character : Char) (rest : List Char) :
    formBytes? (formChar character ++ rest) =
      (formBytes? rest).map (String.utf8EncodeChar character ++ ·) := by
  rw [formChar]
  split
  · rename_i unreserved
    rw [utf8EncodeChar_of_ascii (cases_of_isUnreserved unreserved).1]
    exact formBytes?_cons_of_isUnreserved unreserved rest
  · split
    · rename_i blank
      subst blank
      rfl
    · exact formBytes?_percentBytes _ rest

theorem formBytes?_formText (text : String) :
    formBytes? (formText text) = some (text.toList.flatMap String.utf8EncodeChar) := by
  rw [formText]
  induction text.toList with
  | nil => rfl
  | cons character rest hypothesis =>
      rw [List.flatMap_cons, formBytes?_formChar, hypothesis]
      rfl

theorem decodeFormText?_formText (text : String) :
    decodeFormText? (formText text) = some text := by
  have bytes : ByteArray.mk (text.toList.flatMap String.utf8EncodeChar).toArray =
      text.toList.utf8Encode := by
    rw [List.utf8Encode]
    exact ByteArray.ext List.data_toByteArray.symm
  rw [decodeFormText?, formBytes?_formText, Option.bind_eq_bind, Option.bind_some, bytes,
    List.utf8Decode?_utf8Encode]
  exact congrArg some (String.ofList_toList)

/-! ## Marks between texts -/

theorem capitalHexDigit_not_mark :
    ∀ value < 16, capitalHexDigit value ≠ '&' ∧ capitalHexDigit value ≠ '=' := by
  decide

/-- No mark occurs in an encoded text. -/
theorem not_mark_of_mem_formText
    {text : String}
    {character : Char}
    (member : character ∈ formText text) :
    character ≠ '&' ∧ character ≠ '=' := by
  rcases List.mem_flatMap.1 member with ⟨source, -, ofSource⟩
  rw [formChar] at ofSource
  split at ofSource
  · rename_i unreserved
    rw [List.mem_singleton.1 ofSource]
    exact (cases_of_isUnreserved unreserved).2.2.2
  · split at ofSource
    · rw [List.mem_singleton.1 ofSource]
      decide
    · rcases List.mem_flatMap.1 ofSource with ⟨byte, -, ofByte⟩
      have small : byte.toNat < 256 := byte.toNat_lt
      simp only [percentByte, List.mem_cons, List.not_mem_nil, or_false] at ofByte
      rcases ofByte with rfl | rfl | rfl
      · decide
      · exact capitalHexDigit_not_mark _ (by omega)
      · exact capitalHexDigit_not_mark _ (by omega)

theorem decodeFormPair?_formPair (pair : String × String) :
    decodeFormPair? (formPair pair) = some pair := by
  have nameOnly : ∀ character ∈ formText pair.1, (character != '=') = true :=
    fun _ member => bne_iff_ne.2 (not_mark_of_mem_formText member).2
  have name : (formPair pair).takeWhile (· != '=') = formText pair.1 := by
    rw [formPair, List.takeWhile_append_of_pos nameOnly, List.takeWhile_cons_of_neg (by decide),
      List.append_nil]
  have value : (formPair pair).dropWhile (· != '=') = '=' :: formText pair.2 := by
    rw [formPair, List.dropWhile_append_of_pos nameOnly, List.dropWhile_cons_of_neg (by decide)]
  rw [decodeFormPair?, name, value, List.drop_one, List.tail_cons, decodeFormText?_formText,
    decodeFormText?_formText]
  rfl

theorem splitAtMark_ne_nil (mark : Char) (characters : List Char) :
    splitAtMark mark characters ≠ [] := by
  cases characters with
  | nil => exact List.cons_ne_nil _ _
  | cons character rest =>
      rw [splitAtMark]
      split
      · exact List.cons_ne_nil _ _
      · split
        · exact List.cons_ne_nil _ _
        · exact List.cons_ne_nil _ _

theorem splitAtMark_of_not_mem
    {mark : Char}
    {characters : List Char}
    (without : mark ∉ characters) :
    splitAtMark mark characters = [characters] := by
  induction characters with
  | nil => rfl
  | cons character rest hypothesis =>
      rcases not_or.1 (fun either => without (List.mem_cons.2 either)) with ⟨other, none⟩
      rw [splitAtMark, hypothesis none]
      exact if_neg (Ne.symm other)

/-- A text without a mark is split off at the first mark after it. -/
theorem splitAtMark_append
    {mark : Char}
    {characters : List Char}
    (without : mark ∉ characters)
    (rest : List Char) :
    splitAtMark mark (characters ++ mark :: rest) = characters :: splitAtMark mark rest := by
  induction characters with
  | nil =>
      rw [List.nil_append, splitAtMark]
      split
      · rename_i none
        exact absurd none (splitAtMark_ne_nil mark rest)
      · rename_i parts
        rw [if_pos rfl, parts]
  | cons character later hypothesis =>
      rcases not_or.1 (fun either => without (List.mem_cons.2 either)) with ⟨other, none⟩
      rw [List.cons_append, splitAtMark, hypothesis none]
      exact if_neg (Ne.symm other)

theorem not_mem_formPair (pair : String × String) : '&' ∉ formPair pair := by
  intro member
  rcases List.mem_append.1 member with inName | inValue
  · exact (not_mark_of_mem_formText inName).1 rfl
  · rcases List.mem_cons.1 inValue with same | inValue
    · exact absurd same (by decide)
    · exact (not_mark_of_mem_formText inValue).1 rfl

/-- Split at `&`, encoded parameters fall apart into each of them. -/
theorem splitAtMark_encodeForm (pair : String × String) (rest : List (String × String)) :
    splitAtMark '&' (encodeForm (pair :: rest)) = (pair :: rest).map formPair := by
  induction rest generalizing pair with
  | nil => exact splitAtMark_of_not_mem (not_mem_formPair pair)
  | cons next rest hypothesis =>
      have more : encodeForm (pair :: next :: rest) =
          formPair pair ++ '&' :: encodeForm (next :: rest) := rfl
      rw [more, splitAtMark_append (not_mem_formPair pair), hypothesis]
      rfl

/-- Encoded parameters are read back, with every character of their names and values. -/
theorem decodeForm?_encodeForm (pairs : List (String × String)) :
    decodeForm? (encodeForm pairs) = some pairs := by
  cases pairs with
  | nil => rfl
  | cons pair rest =>
      have filled : (encodeForm (pair :: rest)).isEmpty = false := by
        cases rest <;> simp [encodeForm, formPair]
      have each : ∀ pairs : List (String × String),
          (pairs.map formPair).mapM decodeFormPair? = some pairs := by
        intro pairs
        induction pairs with
        | nil => rfl
        | cons pair rest hypothesis =>
            rw [List.map_cons, List.mapM_cons, decodeFormPair?_formPair, hypothesis]
            rfl
      rw [decodeForm?, filled, splitAtMark_encodeForm, each]
      rfl

example :
    encodeForm [("cursor", "a+b&é z"), ("limit", "50%")] =
      "cursor=a%2Bb%26%C3%A9+z&limit=50%25".toList := by
  decide

end UsageLedger.Text
