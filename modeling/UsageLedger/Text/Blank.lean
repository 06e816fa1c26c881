/-!
# White space at the ends of a text

A character is blank when it has the Unicode property `White_Space`.  The
zero-width space and the byte-order mark do not have it, the no-break space
and the ideographic space do.  `trim` removes blank characters from both ends
and nothing else: what it leaves neither starts nor ends with a blank
character.
-/

namespace UsageLedger.Text

/-- The code points with the Unicode property `White_Space`, as closed ranges. -/
def blankRanges : List (Nat × Nat) :=
  [(0x09, 0x0D), (0x20, 0x20), (0x85, 0x85), (0xA0, 0xA0), (0x1680, 0x1680),
    (0x2000, 0x200A), (0x2028, 0x2029), (0x202F, 0x202F), (0x205F, 0x205F),
    (0x3000, 0x3000)]

/-- Whether a character has the Unicode property `White_Space`. -/
def isBlank (character : Char) : Bool :=
  blankRanges.any fun range =>
    range.1 ≤ character.toNat && character.toNat ≤ range.2

/-- The characters from the first one that is not blank. -/
def dropBlank (characters : List Char) : List Char :=
  characters.dropWhile isBlank

/-- The characters without the blank ones at either end. -/
def trimChars (characters : List Char) : List Char :=
  (dropBlank (dropBlank characters).reverse).reverse

/-- The text without the blank characters at either end. -/
def trim (text : String) : String :=
  String.ofList (trimChars text.toList)

/-- Whether a text is empty once its ends are trimmed. -/
def isBlankText (text : String) : Bool :=
  (trimChars text.toList).isEmpty

@[simp]
theorem dropBlank_nil : dropBlank [] = [] := rfl

theorem dropBlank_cons_of_blank
    {character : Char}
    (rest : List Char)
    (blank : isBlank character = true) :
    dropBlank (character :: rest) = dropBlank rest := by
  simp [dropBlank, blank]

theorem dropBlank_cons_of_not_blank
    {character : Char}
    (rest : List Char)
    (solid : isBlank character = false) :
    dropBlank (character :: rest) = character :: rest := by
  simp [dropBlank, solid]

@[simp]
theorem trim_toList (text : String) :
    (trim text).toList = trimChars text.toList := by
  simp [trim]

theorem trim_eq_empty_iff {text : String} : trim text = "" ↔ isBlankText text = true := by
  rw [← String.toList_inj, trim_toList, isBlankText, List.isEmpty_iff]
  rfl

/-- Characters that begin as they would without blank ones in front have none in front. -/
theorem dropBlank_of_begins
    {characters : List Char}
    {start : List Char}
    (begins : start <+: dropBlank characters) :
    dropBlank start = start := by
  cases start with
  | nil => rfl
  | cons character rest =>
      apply dropBlank_cons_of_not_blank
      rcases begins with ⟨behind, parts⟩
      have solid := List.head?_dropWhile_not isBlank characters
      rw [show characters.dropWhile isBlank = dropBlank characters from rfl, ← parts] at solid
      simpa using solid

theorem trimChars_trimChars (characters : List Char) :
    trimChars (trimChars characters) = trimChars characters := by
  have begins : trimChars characters <+: dropBlank characters := by
    rw [trimChars, ← List.reverse_suffix, List.reverse_reverse]
    exact List.dropWhile_suffix isBlank
  rw [trimChars, dropBlank_of_begins begins, trimChars, List.reverse_reverse]
  rw [dropBlank_of_begins (List.prefix_refl (dropBlank (dropBlank characters).reverse))]

theorem trim_trim (text : String) : trim (trim text) = trim text := by
  rw [trim, trim_toList, trimChars_trimChars, trim]

end UsageLedger.Text
