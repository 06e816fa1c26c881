import UsageLedger.Calendar.InstantText
import Mathlib.Algebra.Group.Nat.Defs
import Mathlib.Data.List.Lex
import Mathlib.Order.Defs.LinearOrder
import Mathlib.Data.Char

/-!
# Numbers written with a fixed width

Filled up with zeros to a width, numbers that fit the width are written with
exactly that many digits, and their texts compare as the numbers do.  Texts
that are joined from parts of equal lengths compare part by part.  A run of
digits is read as the one number that is written so.
-/

namespace UsageLedger.Text

/-! ## Comparing joined texts -/

/-- Of texts that begin with parts of one length, the first parts decide unless they are equal. -/
theorem append_lt_append_iff
    {first second : List Char}
    (sameLength : first.length = second.length)
    (firstRest secondRest : List Char) :
    first ++ firstRest < second ++ secondRest ↔
      first < second ∨ first = second ∧ firstRest < secondRest := by
  induction first generalizing second with
  | nil =>
      rw [List.eq_nil_of_length_eq_zero sameLength.symm]
      simp
  | cons character rest hypothesis =>
      cases second with
      | nil => cases sameLength
      | cons other others =>
          simp only [List.length_cons, Nat.add_right_cancel_iff] at sameLength
          rw [List.cons_append, List.cons_append, List.cons_lt_cons_iff,
            List.cons_lt_cons_iff, hypothesis sameLength, List.cons.injEq]
          grind

theorem cons_lt_cons_iff_of_eq (mark : Char) (first second : List Char) :
    mark :: first < mark :: second ↔ first < second := by
  rw [List.cons_lt_cons_iff]
  simp

/-! ## Digits -/

theorem isDigit_of_mem_digitsOf
    {value : Nat}
    {character : Char}
    (member : character ∈ digitsOf value) :
    isDigit character = true := by
  have digit : character.isDigit = true :=
    Nat.isDigit_of_mem_toDigits (by decide) (by decide) member
  simpa [Char.isDigit, isDigit, Char.le_def] using digit

theorem isDigit_of_mem_padded
    {width value : Nat}
    {character : Char}
    (member : character ∈ padded width value) :
    isDigit character = true := by
  rcases List.mem_append.1 member with fill | digit
  · rw [(List.mem_replicate.1 fill).2]
    decide
  · exact isDigit_of_mem_digitsOf digit

theorem length_padded
    {width value : Nat}
    (positive : 0 < width)
    (fits : value < 10 ^ width) :
    (padded width value).length = width := by
  have short : (digitsOf value).length ≤ width :=
    (Nat.length_toDigits_le_iff (by decide) positive).2 fits
  simp only [padded, List.length_append, List.length_replicate]
  omega

/-- The last digit of a number stands behind the other ones. -/
theorem padded_succ (width value : Nat) :
    padded (width + 2) value =
      padded (width + 1) (value / 10) ++ [Nat.digitChar (value % 10)] := by
  have digits := Nat.toDigits_eq_if (b := 10) (n := value) (by decide)
  unfold padded digitsOf
  by_cases small : value < 10
  · have none : value / 10 = 0 := Nat.div_eq_of_lt small
    rw [digits, if_pos small, none, Nat.mod_eq_of_lt small, Nat.toDigits_zero]
    simp [List.replicate_succ']
  · rw [digits, if_neg small]
    simp

theorem padded_one {value : Nat} (small : value < 10) :
    padded 1 value = [Nat.digitChar value] := by
  unfold padded digitsOf
  rw [Nat.toDigits_of_lt_base small]
  rfl

theorem digitChar_lt_digitChar_iff
    {first second : Nat}
    (firstDigit : first < 10)
    (secondDigit : second < 10) :
    Nat.digitChar first < Nat.digitChar second ↔ first < second := by
  have all : ∀ left right : Fin 10,
      (Nat.digitChar left < Nat.digitChar right ↔ (left : Nat) < right) := by
    decide
  exact all ⟨first, firstDigit⟩ ⟨second, secondDigit⟩

/-- Where texts compare as numbers do, equal texts belong to equal numbers. -/
theorem eq_of_text_eq
    {text : Nat → List Char}
    {first second : Nat}
    (less : text first < text second ↔ first < second)
    (greater : text second < text first ↔ second < first)
    (equal : text first = text second) :
    first = second := by
  rw [equal] at less greater
  have notBelow : ¬ first < second :=
    fun below => List.lt_irrefl (text second) (less.2 below)
  have notAbove : ¬ second < first :=
    fun above => List.lt_irrefl (text second) (greater.2 above)
  omega

/-- Numbers of one width compare by their texts as by their values. -/
theorem padded_lt_padded_iff
    {width first second : Nat}
    (firstFits : first < 10 ^ (width + 1))
    (secondFits : second < 10 ^ (width + 1)) :
    padded (width + 1) first < padded (width + 1) second ↔ first < second := by
  induction width generalizing first second with
  | zero =>
      rw [padded_one firstFits, padded_one secondFits, List.cons_lt_cons_iff,
        digitChar_lt_digitChar_iff firstFits secondFits]
      simp
  | succ width hypothesis =>
      have head : ∀ {value : Nat}, value < 10 ^ (width + 2) →
          value / 10 < 10 ^ (width + 1) := by
        intro value fits
        rw [Nat.pow_succ] at fits
        omega
      have heads := hypothesis (head firstFits) (head secondFits)
      have sameLength :
          (padded (width + 1) (first / 10)).length =
            (padded (width + 1) (second / 10)).length := by
        rw [length_padded (by omega) (head firstFits),
          length_padded (by omega) (head secondFits)]
      have headsEqual :
          padded (width + 1) (first / 10) = padded (width + 1) (second / 10) ↔
            first / 10 = second / 10 := by
        constructor
        · exact eq_of_text_eq heads (hypothesis (head secondFits) (head firstFits))
        · intro equal
          rw [equal]
      rw [padded_succ, padded_succ, append_lt_append_iff sameLength, heads,
        headsEqual, List.cons_lt_cons_iff,
        digitChar_lt_digitChar_iff (Nat.mod_lt _ (by decide))
          (Nat.mod_lt _ (by decide))]
      simp only [List.lt_irrefl, and_false, or_false]
      omega

theorem padded_inj
    {width first second : Nat}
    (firstFits : first < 10 ^ (width + 1))
    (secondFits : second < 10 ^ (width + 1)) :
    padded (width + 1) first = padded (width + 1) second ↔ first = second := by
  constructor
  · exact eq_of_text_eq (padded_lt_padded_iff firstFits secondFits)
      (padded_lt_padded_iff secondFits firstFits)
  · intro equal
    rw [equal]

/-- Of texts that begin with numbers of one width, the numbers decide unless they are equal. -/
theorem padded_append_lt_iff
    {width first second : Nat}
    (firstFits : first < 10 ^ (width + 1))
    (secondFits : second < 10 ^ (width + 1))
    (firstRest secondRest : List Char) :
    padded (width + 1) first ++ firstRest < padded (width + 1) second ++ secondRest ↔
      first < second ∨ first = second ∧ firstRest < secondRest := by
  have sameLength :
      (padded (width + 1) first).length = (padded (width + 1) second).length := by
    rw [length_padded (Nat.succ_pos width) firstFits,
      length_padded (Nat.succ_pos width) secondFits]
  rw [append_lt_append_iff sameLength, padded_lt_padded_iff firstFits secondFits,
    padded_inj firstFits secondFits]

/-! ## Reading digits back -/

theorem naturalOf_concat (digits : List Char) (last : Char) :
    naturalOf (digits ++ [last]) = 10 * naturalOf digits + digitValue last := by
  rw [naturalOf, List.foldl_append]
  rfl

theorem digitChar_digitValue {digit : Char} (isOne : isDigit digit = true) :
    digitValue digit < 10 ∧ Nat.digitChar (digitValue digit) = digit := by
  simp only [isDigit, Bool.and_eq_true, decide_eq_true_eq] at isOne
  have lower : 48 ≤ digit.toNat := isOne.1
  have upper : digit.toNat ≤ 57 := isOne.2
  have value : digitValue digit = digit.toNat - 48 := rfl
  have all : ∀ value : Fin 10, Nat.digitChar value = Char.ofNat (48 + value) := by decide
  refine ⟨by omega, ?_⟩
  have written := all ⟨digit.toNat - 48, by omega⟩
  have whole : 48 + (digit.toNat - 48) = digit.toNat := by omega
  rw [value, written, whole, Char.ofNat_toNat]

/-- A run of digits is its number written with the width of the run. -/
theorem padded_naturalOf
    {width : Nat}
    {digits : List Char}
    (all : ∀ digit ∈ digits, isDigit digit = true)
    (length : digits.length = width + 1) :
    naturalOf digits < 10 ^ (width + 1) ∧
      padded (width + 1) (naturalOf digits) = digits := by
  -- By induction on the width, with the last digit split off as `padded_succ` does.
  induction width generalizing digits with
  | zero =>
      rcases List.length_eq_one_iff.1 length with ⟨digit, rfl⟩
      rcases digitChar_digitValue (all digit List.mem_cons_self) with ⟨small, same⟩
      have value : naturalOf [digit] = digitValue digit := Nat.zero_add _
      rw [value, padded_one small, same]
      exact ⟨small, rfl⟩
  | succ width hypothesis =>
      have nonempty : digits ≠ [] := by
        rintro rfl
        cases length
      rw [← List.dropLast_append_getLast nonempty] at all length ⊢
      generalize digits.dropLast = front at all length
      generalize digits.getLast nonempty = last at all length
      rw [List.length_append, List.length_singleton] at length
      rcases digitChar_digitValue (all last (by simp)) with ⟨small, same⟩
      rcases hypothesis (fun digit member => all digit (List.mem_append_left _ member))
        (by omega) with ⟨fits, written⟩
      rw [naturalOf_concat]
      constructor
      · rw [Nat.pow_succ]
        omega
      · have quotient : (10 * naturalOf front + digitValue last) / 10 = naturalOf front := by
          omega
        have remainder : (10 * naturalOf front + digitValue last) % 10 = digitValue last := by
          omega
        rw [padded_succ, quotient, remainder, written, same]

theorem naturalOf_padded
    {width value : Nat}
    (fits : value < 10 ^ (width + 1)) :
    naturalOf (padded (width + 1) value) = value := by
  rcases padded_naturalOf (fun digit => isDigit_of_mem_padded)
    (length_padded (Nat.succ_pos width) fits) with ⟨fitsToo, written⟩
  exact (padded_inj fitsToo fits).1 written

theorem takeDigits_of_digits
    {digits : List Char}
    (all : ∀ digit ∈ digits, isDigit digit = true)
    (rest : List Char) :
    takeDigits digits.length (digits ++ rest) = (digits, rest) := by
  induction digits with
  | nil => rfl
  | cons digit digits hypothesis =>
      rcases List.forall_mem_cons.1 all with ⟨first, later⟩
      simp only [List.length_cons, List.cons_append, takeDigits, first, if_true,
        hypothesis later]

theorem takeDigits_padded
    {width value : Nat}
    (fits : value < 10 ^ (width + 1))
    (rest : List Char) :
    takeDigits (width + 1) (padded (width + 1) value ++ rest) =
      (padded (width + 1) value, rest) := by
  have all : ∀ digit ∈ padded (width + 1) value, isDigit digit = true :=
    fun digit => isDigit_of_mem_padded
  have taken := takeDigits_of_digits all rest
  rwa [length_padded (Nat.succ_pos width) fits] at taken

theorem takeAllDigits_of_digits
    {digits rest : List Char}
    (all : ∀ digit ∈ digits, isDigit digit = true)
    (ends : ∀ character ∈ rest.head?, isDigit character = false) :
    takeAllDigits (digits ++ rest) = (digits, rest) := by
  rw [takeAllDigits, List.takeWhile_append_of_pos all, List.dropWhile_append_of_pos all]
  cases rest with
  | nil => simp
  | cons character others => simp [ends character rfl]

end UsageLedger.Text
