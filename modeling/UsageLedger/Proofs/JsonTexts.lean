import Mathlib.Data.List.Nodup
import UsageLedger.Json.Decode
import UsageLedger.Json.Print
import UsageLedger.Proofs.ByteOrder

/-!
# Reading printed values back

A value without numbers is `Spellable` if its objects name each member once and
it does not nest too deeply.  Printed, it is scanned to a draft without faults.
A scan meets the bytes of what was printed: a text takes one step for each byte
that it has when nothing is escaped, and its bytes make the text again; an array
or an object is scanned item by item with the fuel that its bytes allow.  The
draft is kept as the value, so `parse_print` reads it back.
-/

namespace UsageLedger.Json

open UsageLedger.Text

/--
A value without numbers whose objects name each member once, with at most some
number of arrays and objects inside one another.
-/
inductive Spellable : (room : Nat) → Json → Prop
  | null {room : Nat} : Spellable room .null
  | bool {room : Nat} (value : Bool) : Spellable room (.bool value)
  | text {room : Nat} (value : String) : Spellable room (.text value)
  | array {room : Nat} {items : List Json}
      (each : ∀ item ∈ items, Spellable room item) :
      Spellable (room + 1) (.array items)
  | object {room : Nat} {members : List (String × Json)}
      (distinct : (members.map Prod.fst).Nodup)
      (each : ∀ member ∈ members, Spellable room member.2) :
      Spellable (room + 1) (.object members)

/-! ## Bytes -/

/-- Characters as a scan meets them: their bytes, each of them taken as a character. -/
def asBytes (characters : List Char) : List Char :=
  (characters.flatMap String.utf8EncodeChar).map characterOf

@[simp]
theorem asBytes_append (first second : List Char) :
    asBytes (first ++ second) = asBytes first ++ asBytes second := by
  simp [asBytes]

theorem asBytes_cons_of_ascii
    {character : Char}
    (ascii : character.toNat < 0x80)
    (rest : List Char) :
    asBytes (character :: rest) = character :: asBytes rest := by
  have small : character.toNat % 256 = character.toNat := Nat.mod_eq_of_lt (by omega)
  simp [asBytes, utf8EncodeChar_of_ascii ascii, characterOf, UInt8.toNat_ofNat', small]

/-- Between two characters of ASCII. -/
theorem asBytes_brackets
    {opening closing : Char}
    (opens : opening.toNat < 0x80)
    (closes : closing.toNat < 0x80)
    (inner : List Char) :
    asBytes (opening :: inner ++ [closing]) = opening :: (asBytes inner ++ [closing]) := by
  rw [List.cons_append, asBytes_cons_of_ascii opens, asBytes_append, asBytes_cons_of_ascii closes]
  rfl

theorem asBytes_print (json : Json) :
    (bytesOf (print json)).map characterOf = asBytes (chars json) := by
  rw [bytesOf_eq_flatMap, print, String.toList_ofList, asBytes]

theorem toNat_characterOf (byte : UInt8) : (characterOf byte).toNat = byte.toNat := by
  have valid : byte.toNat.isValidChar := .inl (Nat.lt_trans byte.toNat_lt (by decide))
  rw [characterOf, Char.ofNat, dif_pos valid]
  rfl

theorem byteOf_characterOf (byte : UInt8) : byteOf (characterOf byte) = byte := by
  rw [byteOf, toNat_characterOf, UInt8.ofNat_toNat]

/-- A byte that stands for itself in a text. -/
structure Plain (byte : UInt8) : Prop where
  notQuote : byte ≠ 0x22
  notBackslash : byte ≠ 0x5C
  printable : 0x20 ≤ byte.toNat

theorem Plain.ne_of_toNat_ne {byte other : UInt8} (differ : byte.toNat ≠ other.toNat) :
    byte ≠ other :=
  fun same => differ (congrArg UInt8.toNat same)

/-- The bytes of a character outside ASCII have their highest bit set. -/
theorem high_of_mem_utf8EncodeChar
    {character : Char}
    (wide : 0x80 ≤ character.toNat)
    {byte : UInt8}
    (member : byte ∈ String.utf8EncodeChar character) :
    0x80 ≤ byte.toNat := by
  have more : ¬character.val.toNat ≤ 127 := Nat.not_le.2 wide
  simp only [String.utf8EncodeChar, if_neg more] at member
  split_ifs at member
  all_goals
    simp only [List.mem_cons, List.not_mem_nil, or_false] at member
    rcases member with rfl | rfl | rfl | rfl
    all_goals
      simp only [UInt8.toNat_ofNat']
      omega

/-- A character that needs no escape has plain bytes. -/
theorem plain_of_mem_utf8EncodeChar
    {character : Char}
    (notQuote : character ≠ '"')
    (notBackslash : character ≠ '\\')
    (printable : ¬character.toNat < 0x20)
    {byte : UInt8}
    (member : byte ∈ String.utf8EncodeChar character) :
    Plain byte := by
  by_cases ascii : character.toNat < 0x80
  · rw [utf8EncodeChar_of_ascii ascii, List.mem_singleton] at member
    have code : byte.toNat = character.toNat := by
      rw [member, UInt8.toNat_ofNat_of_lt' (Nat.lt_trans ascii (by decide))]
    have differs : ∀ other : Char, character ≠ other → byte.toNat ≠ other.toNat :=
      fun other differ same => differ (Char.toNat_inj.1 (code.symm.trans same))
    exact {
      notQuote := Plain.ne_of_toNat_ne (differs '"' notQuote)
      notBackslash := Plain.ne_of_toNat_ne (differs '\\' notBackslash)
      printable := by omega }
  · have high := high_of_mem_utf8EncodeChar (Nat.le_of_not_lt ascii) member
    exact {
      notQuote := Plain.ne_of_toNat_ne (ne_of_gt (Nat.lt_of_lt_of_le (by decide) high))
      notBackslash := Plain.ne_of_toNat_ne (ne_of_gt (Nat.lt_of_lt_of_le (by decide) high))
      printable := by omega }

/-! ## Texts -/

theorem hexValue?_hexDigit : ∀ value < 16, Text.hexValue? (hexDigit value) = some value := by
  decide

theorem hexDigit_ascii : ∀ value < 16, (hexDigit value).toNat < 0x80 := by
  decide

/-- The escape of a control character gives its code. -/
theorem hexQuad?_of_control {code : Nat} (control : code < 0x20) (rest : List Char) :
    hexQuad? ('0' :: '0' :: hexDigit (code / 16) :: hexDigit (code % 16) :: rest) =
      some (code, rest) := by
  have zero : Text.hexValue? '0' = some 0 := rfl
  have high := hexValue?_hexDigit (code / 16) (by omega)
  have low := hexValue?_hexDigit (code % 16) (by omega)
  have whole : ((0 * 16 + 0) * 16 + code / 16) * 16 + code % 16 = code := by omega
  simp only [hexQuad?, zero, high, low, Option.bind_eq_bind, Option.bind_some, whole]

theorem pushUnit_of_control
    {character : Char}
    (control : character.toNat < 0x20)
    (reversed : List UInt8) :
    TextState.pushUnit ⟨reversed, none, false⟩ character.toNat =
      ⟨(String.utf8EncodeChar character).reverse ++ reversed, none, false⟩ := by
  have leading : isLeadingUnit character.toNat = false := by
    simp [isLeadingUnit]
    omega
  have trailing : isTrailingUnit character.toNat = false := by
    simp [isTrailingUnit]
    omega
  simp [TextState.pushUnit, leading, trailing, pushCode]

theorem scanText_unit
    {characters rest : List Char}
    {unit : Nat}
    (read : hexQuad? characters = some (unit, rest))
    (fuel : Nat)
    (state : TextState) :
    scanText (fuel + 1) state ('\\' :: 'u' :: characters) =
      scanText fuel (state.pushUnit unit) rest := by
  simp [scanText, read]

theorem scanText_plain
    {byte : UInt8}
    (plain : Plain byte)
    (fuel : Nat)
    (reversed : List UInt8)
    (rest : List Char) :
    scanText (fuel + 1) ⟨reversed, none, false⟩ (characterOf byte :: rest) =
      scanText fuel ⟨byte :: reversed, none, false⟩ rest := by
  have differs : ∀ other : Char, byte.toNat ≠ other.toNat → characterOf byte ≠ other :=
    fun other differ same => differ ((toNat_characterOf byte).symm.trans (congrArg _ same))
  have quote : characterOf byte ≠ '"' :=
    differs _ fun same => plain.notQuote (UInt8.toNat_inj.1 same)
  have backslash : characterOf byte ≠ '\\' :=
    differs _ fun same => plain.notBackslash (UInt8.toNat_inj.1 same)
  have printable : ¬(characterOf byte).toNat < 0x20 := by
    rw [toNat_characterOf]
    exact Nat.not_lt.2 plain.printable
  simp [scanText, quote, backslash, printable, TextState.push, byteOf_characterOf]

/-- Plain bytes are read in one step each. -/
theorem scanText_plains
    {bytes : List UInt8}
    (plain : ∀ byte ∈ bytes, Plain byte)
    (fuel : Nat)
    (reversed : List UInt8)
    (rest : List Char) :
    scanText (fuel + bytes.length) ⟨reversed, none, false⟩ (bytes.map characterOf ++ rest) =
      scanText fuel ⟨bytes.reverse ++ reversed, none, false⟩ rest := by
  induction bytes generalizing reversed with
  | nil => rfl
  | cons byte bytes hypothesis =>
      rcases List.forall_mem_cons.1 plain with ⟨here, later⟩
      rw [List.length_cons, ← Nat.add_assoc, List.map_cons, List.cons_append,
        scanText_plain here, hypothesis later, List.reverse_cons, List.append_assoc,
        List.singleton_append]

/-- A character leaves its bytes, whether it is escaped or stands for itself. -/
theorem scanText_escape
    (character : Char) (fuel : Nat) (reversed : List UInt8) (rest : List Char) :
    scanText (fuel + (String.utf8EncodeChar character).length) ⟨reversed, none, false⟩
        (asBytes (escape character) ++ rest) =
      scanText fuel ⟨(String.utf8EncodeChar character).reverse ++ reversed, none, false⟩ rest := by
  unfold escape
  split_ifs with quote backslash newLine carriage tab back feed control
  -- Seven characters have a letter of their own.
  iterate 7
    · subst_vars
      rfl
  · have high := hexDigit_ascii (character.toNat / 16) (by omega)
    have low := hexDigit_ascii (character.toNat % 16) (by omega)
    have ascii := utf8EncodeChar_of_ascii (show character.toNat < 0x80 by omega)
    have spelled : asBytes ['\\', 'u', '0', '0', hexDigit (character.toNat / 16),
        hexDigit (character.toNat % 16)] =
        ['\\', 'u', '0', '0', hexDigit (character.toNat / 16),
          hexDigit (character.toNat % 16)] := by
      iterate 4 rw [asBytes_cons_of_ascii (by decide)]
      rw [asBytes_cons_of_ascii high, asBytes_cons_of_ascii low]
      rfl
    have single : (String.utf8EncodeChar character).length = 1 := by rw [ascii]; rfl
    rw [spelled, single]
    exact (scanText_unit (hexQuad?_of_control control rest) fuel _).trans
      (congrArg (scanText fuel · rest) (pushUnit_of_control control reversed))
  · have spelled : asBytes [character] = (String.utf8EncodeChar character).map characterOf := by
      simp [asBytes]
    rw [spelled]
    exact scanText_plains
      (fun byte member => plain_of_mem_utf8EncodeChar quote backslash control member) _ _ _

theorem scanText_escapes
    (characters : List Char)
    {fuel : Nat}
    (enough : (characters.flatMap String.utf8EncodeChar).length < fuel)
    (reversed : List UInt8)
    (rest : List Char) :
    scanText fuel ⟨reversed, none, false⟩
        (asBytes (characters.flatMap escape) ++ '"' :: rest) =
      .ok (textOfUtf8? (reversed.reverse ++ characters.flatMap String.utf8EncodeChar), rest) := by
  induction characters generalizing fuel reversed with
  | nil =>
      cases fuel with
      | zero => cases enough
      | succ fuel =>
          rw [List.flatMap_nil, List.flatMap_nil, List.append_nil]
          rfl
  | cons character later hypothesis =>
      rw [List.flatMap_cons, List.length_append] at enough
      have split : fuel = fuel - (String.utf8EncodeChar character).length +
          (String.utf8EncodeChar character).length := by omega
      rw [split, List.flatMap_cons, asBytes_append, List.append_assoc, scanText_escape,
        hypothesis (by omega), List.reverse_append, List.reverse_reverse, List.append_assoc,
        List.flatMap_cons]

/-- An escape has no fewer bytes than its character. -/
theorem length_le_asBytes_escape (character : Char) :
    (String.utf8EncodeChar character).length ≤ (asBytes (escape character)).length := by
  unfold escape
  split_ifs with quote backslash newLine carriage tab back feed control
  iterate 7
    · subst_vars
      decide
  · have ascii := utf8EncodeChar_of_ascii (show character.toNat < 0x80 by omega)
    rw [ascii, asBytes_cons_of_ascii (by decide)]
    exact Nat.succ_le_succ (Nat.zero_le _)
  · simp [asBytes]

theorem length_le_asBytes_flatMap_escape (characters : List Char) :
    (characters.flatMap String.utf8EncodeChar).length ≤
      (asBytes (characters.flatMap escape)).length := by
  induction characters with
  | nil => exact Nat.le_refl _
  | cons character later hypothesis =>
      rw [List.flatMap_cons, List.flatMap_cons, asBytes_append, List.length_append,
        List.length_append]
      exact Nat.add_le_add (length_le_asBytes_escape character) hypothesis

theorem asBytes_quoted (text : String) :
    asBytes (quoted text) = '"' :: (asBytes (text.toList.flatMap escape) ++ ['"']) :=
  asBytes_brackets (by decide) (by decide) _

theorem asBytes_quoted_append (text : String) (rest : List Char) :
    asBytes (quoted text) ++ rest =
      '"' :: (asBytes (text.toList.flatMap escape) ++ '"' :: rest) := by
  rw [asBytes_quoted, List.cons_append, List.append_assoc, List.singleton_append]

/-- A quoted text is scanned with a step for each of its bytes. -/
theorem scanText_quoted
    (text : String)
    {fuel : Nat}
    (enough : (asBytes (quoted text)).length ≤ fuel + 1)
    (rest : List Char) :
    scanText fuel .empty (asBytes (text.toList.flatMap escape) ++ '"' :: rest) =
      .ok (some text, rest) := by
  have within := length_le_asBytes_flatMap_escape text.toList
  have length : (asBytes (quoted text)).length =
      (asBytes (text.toList.flatMap escape)).length + 2 := by
    simp [asBytes_quoted]
  have fits : (text.toList.flatMap String.utf8EncodeChar).length < fuel := by omega
  have scanned := scanText_escapes text.toList fits [] rest
  rw [List.reverse_nil, List.nil_append, ← bytesOf_eq_flatMap, textOfUtf8?_bytesOf] at scanned
  exact scanned

/-! ## Values -/

/--
A value is scanned from its bytes, whatever follows them.  Two steps for each
byte are enough: the brackets of an array pay for the three steps it takes
besides its items, and the comma behind an item for the next one.
-/
def Scanned (room : Nat) (json : Json) : Prop :=
  ∀ fuel depth rest, 2 * (asBytes (chars json)).length ≤ fuel → depth + room ≤ nestingLimit →
    scanValue fuel depth (asBytes (chars json) ++ rest) = (draft json, rest)

theorem dropSpace_cons
    {character : Char}
    (solid : isSpace character = false)
    (rest : List Char) :
    dropSpace (character :: rest) = character :: rest := by
  rw [dropSpace, List.dropWhile_cons_of_neg (by simp [solid])]

/-- A value begins with a byte that is neither white space nor the end of an array. -/
theorem Spellable.head
    {room : Nat}
    {json : Json}
    (spellable : Spellable room json) :
    ∃ first rest, asBytes (chars json) = first :: rest ∧ isSpace first = false ∧
      first ≠ ']' := by
  cases spellable with
  | null => exact ⟨'n', "ull".toList, rfl, rfl, by decide⟩
  | bool value =>
      cases value with
      | false => exact ⟨'f', "alse".toList, rfl, rfl, by decide⟩
      | true => exact ⟨'t', "rue".toList, rfl, rfl, by decide⟩
  | text value => exact ⟨'"', _, asBytes_quoted value, rfl, by decide⟩
  | array each => exact ⟨'[', _, asBytes_cons_of_ascii (by decide) _, rfl, by decide⟩
  | object distinct each =>
      exact ⟨'\x7b', _, asBytes_cons_of_ascii (by decide) _, rfl, by decide⟩

theorem asBytes_itemChars_cons_cons (item next : Json) (rest : List Json) :
    asBytes (itemChars (item :: next :: rest)) =
      asBytes (chars item) ++ ',' :: asBytes (itemChars (next :: rest)) :=
  (asBytes_append _ _).trans
    (congrArg (asBytes (chars item) ++ ·) (asBytes_cons_of_ascii (by decide) _))

theorem asBytes_member (name : String) (value : Json) :
    asBytes (quoted name ++ ':' :: chars value) =
      asBytes (quoted name) ++ ':' :: asBytes (chars value) := by
  rw [asBytes_append, asBytes_cons_of_ascii (by decide)]

theorem asBytes_memberChars_cons_cons
    (name : String) (value : Json) (next : String × Json) (rest : List (String × Json)) :
    asBytes (memberChars ((name, value) :: next :: rest)) =
      asBytes (quoted name) ++ ':' :: asBytes (chars value) ++
        ',' :: asBytes (memberChars (next :: rest)) := by
  have spelled : memberChars ((name, value) :: next :: rest) =
      quoted name ++ ':' :: chars value ++ ',' :: memberChars (next :: rest) := rfl
  rw [spelled, asBytes_append, asBytes_member, asBytes_cons_of_ascii (by decide)]

section Nested

variable {room depth : Nat} (within : depth + (room + 1) ≤ nestingLimit)

include within

/-- Items that are scanned each are scanned one after another. -/
theorem scanItem_itemChars
    {item : Json}
    {items : List Json}
    (each : ∀ entry ∈ item :: items, Scanned room entry)
    {fuel : Nat}
    (enough : 2 * (asBytes (itemChars (item :: items))).length < fuel)
    (rest : List Char) :
    scanItem fuel depth (asBytes (itemChars (item :: items)) ++ ']' :: rest) =
      (draftItems (item :: items), .closed, rest) := by
  have deeper : depth + 1 + room ≤ nestingLimit := by omega
  induction items generalizing item fuel with
  | nil =>
      cases fuel with
      | zero => cases enough
      | succ fuel =>
          have single : itemChars [item] = chars item := rfl
          rw [single] at enough ⊢
          have scanned := each item List.mem_cons_self fuel (depth + 1) (']' :: rest)
            (by omega) deeper
          rw [scanItem, scanned]
          rfl
  | cons next items hypothesis =>
      cases fuel with
      | zero => cases enough
      | succ fuel =>
          rw [asBytes_itemChars_cons_cons, List.length_append, List.length_cons] at enough
          have scanned := each item List.mem_cons_self fuel (depth + 1)
            (',' :: (asBytes (itemChars (next :: items)) ++ ']' :: rest)) (by omega) deeper
          have enoughLater : 2 * (asBytes (itemChars (next :: items))).length < fuel := by omega
          have others := hypothesis
            (fun entry member => each entry (List.mem_cons_of_mem _ member)) enoughLater
          rw [asBytes_itemChars_cons_cons, List.append_assoc, List.cons_append, scanItem, scanned]
          simp only [dropSpace_cons (show isSpace ',' = false from rfl), others]
          rfl

/-- The name and the value of a member are scanned, and the brace behind them ends the object. -/
theorem scanMember_last
    {value : Json}
    (scanned : Scanned room value)
    (name : String)
    {fuel : Nat}
    (enough : 2 * (asBytes (quoted name) ++ ':' :: asBytes (chars value)).length ≤ fuel)
    (rest : List Char) :
    scanMember (fuel + 1) depth
        (asBytes (quoted name) ++ ':' :: asBytes (chars value) ++ '\x7d' :: rest) =
      ([(some name, draft value)], .closed, rest) := by
  rw [List.length_append, List.length_cons] at enough
  have nameFits : (asBytes (quoted name)).length ≤ fuel + 1 := by omega
  have valueFits : 2 * (asBytes (chars value)).length ≤ fuel := by omega
  have named := scanText_quoted name nameFits (':' :: (asBytes (chars value) ++ '\x7d' :: rest))
  have found := scanned fuel (depth + 1) ('\x7d' :: rest) valueFits (by omega)
  rw [List.append_assoc, List.cons_append, asBytes_quoted_append, scanMember, dropSpace_cons rfl]
  simp only [named, dropSpace_cons (show isSpace ':' = false from rfl), found,
    dropSpace_cons (show isSpace '\x7d' = false from rfl)]

/-- Behind a comma the members after it are scanned. -/
theorem scanMember_more
    {value : Json}
    (scanned : Scanned room value)
    (name : String)
    {fuel : Nat}
    (enough : 2 * (asBytes (quoted name) ++ ':' :: asBytes (chars value)).length ≤ fuel)
    {later rest : List Char}
    {members : List (Option String × Draft)}
    {ending : Ending}
    (others : scanMember fuel depth later = (members, ending, rest)) :
    scanMember (fuel + 1) depth
        (asBytes (quoted name) ++ ':' :: asBytes (chars value) ++ ',' :: later) =
      ((some name, draft value) :: members, ending, rest) := by
  rw [List.length_append, List.length_cons] at enough
  have nameFits : (asBytes (quoted name)).length ≤ fuel + 1 := by omega
  have valueFits : 2 * (asBytes (chars value)).length ≤ fuel := by omega
  have named := scanText_quoted name nameFits (':' :: (asBytes (chars value) ++ ',' :: later))
  have found := scanned fuel (depth + 1) (',' :: later) valueFits (by omega)
  rw [List.append_assoc, List.cons_append, asBytes_quoted_append, scanMember, dropSpace_cons rfl]
  simp only [named, dropSpace_cons (show isSpace ':' = false from rfl), found,
    dropSpace_cons (show isSpace ',' = false from rfl), others]

/-- Members whose values are scanned each are scanned one after another. -/
theorem scanMember_memberChars
    {member : String × Json}
    {members : List (String × Json)}
    (each : ∀ entry ∈ member :: members, Scanned room entry.2)
    {fuel : Nat}
    (enough : 2 * (asBytes (memberChars (member :: members))).length < fuel)
    (rest : List Char) :
    scanMember fuel depth (asBytes (memberChars (member :: members)) ++ '\x7d' :: rest) =
      (draftMembers (member :: members), .closed, rest) := by
  induction members generalizing member fuel with
  | nil =>
      rcases member with ⟨name, value⟩
      have scanned : Scanned room value := each (name, value) List.mem_cons_self
      cases fuel with
      | zero => cases enough
      | succ fuel =>
          have single : memberChars [(name, value)] = quoted name ++ ':' :: chars value := rfl
          rw [single, asBytes_member] at enough ⊢
          exact scanMember_last within scanned name (Nat.le_of_lt_succ enough) rest
  | cons next members hypothesis =>
      rcases member with ⟨name, value⟩
      have scanned : Scanned room value := each (name, value) List.mem_cons_self
      cases fuel with
      | zero => cases enough
      | succ fuel =>
          rw [asBytes_memberChars_cons_cons, List.length_append, List.length_cons] at enough
          have enoughLater : 2 * (asBytes (memberChars (next :: members))).length < fuel := by omega
          have others := hypothesis
            (fun entry member => each entry (List.mem_cons_of_mem _ member)) enoughLater
          rw [asBytes_memberChars_cons_cons, List.append_assoc, List.cons_append]
          exact scanMember_more within scanned name (by omega) others

theorem nested_of_within (value : Draft) : nested depth value = value :=
  if_neg (by omega)

theorem scanFirstItem_itemChars
    {items : List Json}
    (spellable : ∀ item ∈ items, Spellable room item)
    (each : ∀ item ∈ items, Scanned room item)
    {fuel : Nat}
    (enough : 2 * (asBytes (itemChars items)).length + 1 < fuel)
    (rest : List Char) :
    scanFirstItem fuel depth (asBytes (itemChars items) ++ ']' :: rest) =
      (draftItems items, .closed, rest) := by
  cases fuel with
  | zero => cases enough
  | succ fuel =>
      cases items with
      | nil =>
          rw [scanFirstItem]
          rfl
      | cons item items =>
          have scanned := scanItem_itemChars within each (Nat.lt_of_succ_lt_succ enough) rest
          rcases (spellable item List.mem_cons_self).head with ⟨first, _, begins, solid, opens⟩
          have first : ∃ later, asBytes (itemChars (item :: items)) = first :: later := by
            cases items with
            | nil => exact ⟨_, begins⟩
            | cons next items =>
                rw [asBytes_itemChars_cons_cons, begins]
                exact ⟨_, rfl⟩
          rcases first with ⟨later, same⟩
          rw [same, List.cons_append] at scanned ⊢
          rw [scanFirstItem, dropSpace_cons solid]
          split
          · rename_i none
            cases none
          · rename_i closed
            exact absurd (List.cons.inj closed).1 opens
          · exact scanned

theorem scanFirstMember_memberChars
    {members : List (String × Json)}
    (each : ∀ member ∈ members, Scanned room member.2)
    {fuel : Nat}
    (enough : 2 * (asBytes (memberChars members)).length + 1 < fuel)
    (rest : List Char) :
    scanFirstMember fuel depth (asBytes (memberChars members) ++ '\x7d' :: rest) =
      (draftMembers members, .closed, rest) := by
  cases fuel with
  | zero => cases enough
  | succ fuel =>
      cases members with
      | nil =>
          rw [scanFirstMember]
          rfl
      | cons member members =>
          have scanned := scanMember_memberChars within each (Nat.lt_of_succ_lt_succ enough) rest
          have first : ∃ later, asBytes (memberChars (member :: members)) = '"' :: later := by
            cases members with
            | nil => exact ⟨_, asBytes_cons_of_ascii (by decide) _⟩
            | cons next members => exact ⟨_, asBytes_cons_of_ascii (by decide) _⟩
          rcases first with ⟨later, same⟩
          rw [same, List.cons_append] at scanned ⊢
          rw [scanFirstMember, dropSpace_cons rfl]
          exact scanned

end Nested

/-- The bytes of a value are scanned to its draft. -/
theorem scanned_of_spellable
    {room : Nat}
    {json : Json}
    (spellable : Spellable room json) :
    Scanned room json := by
  induction spellable with
  | null =>
      intro fuel depth rest enough within
      cases fuel with
      | zero => cases enough
      | succ fuel =>
          rw [scanValue]
          rfl
  | bool value =>
      intro fuel depth rest enough within
      cases fuel with
      | zero => cases value <;> cases enough
      | succ fuel =>
          rw [scanValue]
          cases value <;> rfl
  | text value =>
      intro fuel depth rest enough within
      have length : 2 ≤ (asBytes (quoted value)).length := by simp [asBytes_quoted]
      have spelled : chars (.text value) = quoted value := rfl
      rw [spelled] at enough ⊢
      cases fuel with
      | zero => omega
      | succ fuel =>
          have scanned := scanText_quoted value (show _ ≤ fuel + 1 by omega) rest
          rw [asBytes_quoted_append, scanValue, dropSpace_cons rfl]
          simp only [scanned]
          rfl
  | array spellable each =>
      intro fuel depth rest enough within
      rename_i items
      have brackets : asBytes (chars (.array items)) =
          '[' :: (asBytes (itemChars items) ++ [']']) := asBytes_brackets (by decide) (by decide) _
      have spelled : asBytes (chars (.array items)) ++ rest =
          '[' :: (asBytes (itemChars items) ++ ']' :: rest) := by
        simp [brackets]
      have length : (asBytes (chars (.array items))).length =
          (asBytes (itemChars items)).length + 2 := by
        simp [brackets]
      cases fuel with
      | zero => omega
      | succ fuel =>
          have scanned := scanFirstItem_itemChars within spellable each
            (show _ < fuel by omega) rest
          rw [spelled, scanValue, dropSpace_cons rfl]
          simp only [scanned, nested_of_within within]
          rfl
  | object distinct spellable each =>
      intro fuel depth rest enough within
      rename_i members
      have braces : asBytes (chars (.object members)) =
          '\x7b' :: (asBytes (memberChars members) ++ ['\x7d']) :=
        asBytes_brackets (by decide) (by decide) _
      have spelled : asBytes (chars (.object members)) ++ rest =
          '\x7b' :: (asBytes (memberChars members) ++ '\x7d' :: rest) := by
        simp [braces]
      have length : (asBytes (chars (.object members))).length =
          (asBytes (memberChars members)).length + 2 := by
        simp [braces]
      cases fuel with
      | zero => omega
      | succ fuel =>
          have scanned := scanFirstMember_memberChars within each (show _ < fuel by omega) rest
          rw [spelled, scanValue, dropSpace_cons rfl]
          simp only [scanned, nested_of_within within]
          rfl

/-! ## Drafts without faults -/

theorem insertMember_of_not_mem
    {name : String}
    {members : List (String × Json)}
    (fresh : name ∉ members.map Prod.fst)
    (value : Json) :
    insertMember name value members = members ++ [(name, value)] := by
  induction members with
  | nil => rfl
  | cons entry rest hypothesis =>
      rcases not_or.1 (fun either => fresh (List.mem_cons.2 either)) with ⟨other, none⟩
      rw [insertMember, if_neg (Ne.symm other), hypothesis none, List.cons_append]

theorem keepItems_draftItems
    {items : List Json}
    (each : ∀ item ∈ items, (draft item).keep = .ok item) :
    keepItems (draftItems items) = .ok items := by
  induction items with
  | nil => rfl
  | cons item items hypothesis =>
      rcases List.forall_mem_cons.1 each with ⟨here, later⟩
      rw [draftItems, keepItems, here, hypothesis later]
      rfl

theorem keepMembers_draftMembers
    {members before : List (String × Json)}
    (distinct : ((before ++ members).map Prod.fst).Nodup)
    (each : ∀ member ∈ members, (draft member.2).keep = .ok member.2) :
    keepMembers before (draftMembers members) = .ok (before ++ members) := by
  induction members generalizing before with
  | nil => rw [List.append_nil]; rfl
  | cons member members hypothesis =>
      rcases List.forall_mem_cons.1 each with ⟨here, later⟩
      have parts : before ++ member :: members = (before ++ [member]) ++ members := by simp
      have fresh : member.1 ∉ before.map Prod.fst := by
        rw [List.map_append, List.map_cons, List.nodup_middle] at distinct
        exact fun inBefore => (List.nodup_cons.1 distinct).1 (List.mem_append_left _ inBefore)
      have kept := insertMember_of_not_mem fresh member.2
      rw [parts] at distinct ⊢
      rw [draftMembers, keepMembers, here]
      exact (congrArg (keepMembers · (draftMembers members)) kept).trans
        (hypothesis distinct later)

theorem keep_draft
    {room : Nat}
    {json : Json}
    (spellable : Spellable room json) :
    (draft json).keep = .ok json := by
  induction spellable with
  | null => rfl
  | bool value => rfl
  | text value => rfl
  | array spellable each =>
      rw [draft, Draft.keep, keepItems_draftItems each]
      rfl
  | object distinct spellable each =>
      have kept := @keepMembers_draftMembers _ [] distinct each
      rw [draft, Draft.keep, kept]
      rfl

/-- Nothing is left behind the bytes of a printed value. -/
theorem scan_print
    {json : Json}
    (spellable : Spellable nestingLimit json) :
    scan (bytesOf (print json)) = ⟨draft json, false⟩ := by
  have scanned := scanned_of_spellable spellable (3 * (asBytes (chars json)).length + 4) 0 []
    (by omega) (Nat.le_refl _)
  rw [List.append_nil] at scanned
  rw [scan, asBytes_print, scanned]
  rfl

/-- A printed value is read back. -/
theorem parse_print
    {json : Json}
    (spellable : Spellable nestingLimit json) :
    parse (print json) = .ok json := by
  rw [parse, scan_print spellable, keep_draft spellable]
  rfl

/-- What stands in a printed value is decoded from its draft. -/
theorem ofBytes_print
    {json : Json}
    (spellable : Spellable nestingLimit json)
    {α : Type}
    (decode : Decode.Decoder α) :
    Decode.ofBytes decode (bytesOf (print json)) = decode (draft json) := by
  rw [Decode.ofBytes, scan_print spellable]
  cases decode (draft json) <;> rfl

end UsageLedger.Json
