import UsageLedger.Toml.Quoted

/-!
# TOML documents

A document is a sequence of lines: headers, which open a table or add one to
an array of tables, and values under keys, which go into the open table.
`Table.ofText?` reads a whole text; a text with any fault has no table.
-/

namespace UsageLedger.Toml

open UsageLedger.Text

/-- Whether a character may stand in a key without quotes. -/
def isBareKey (character : Char) : Bool :=
  character == '_' || character == '-' || isDigit character || character.isAlpha

/-- Whether a character may stand in a number, a truth value or a time. -/
def isWordPart (character : Char) : Bool :=
  isBareKey character || character == '+' || character == '.' || character == ':'

/-- Reads one part of a key. -/
def readKey? : List Char → Option (String × List Char)
  | [] => none
  | first :: rest =>
    if first = '"' ∨ first = '\'' then readLine? first rest
    else
      match (first :: rest).takeWhile isBareKey with
      | [] => none
      | key => some (String.ofList key, (first :: rest).dropWhile isBareKey)

/-- Reads a dotted key after the parts already read, with the blanks around it. -/
def readKeyPath : (fuel : Nat) → (before : List String) → List Char →
    Option (KeyPath × List Char)
  | 0, _, _ => none
  | fuel + 1, before, characters => do
    let (key, afterKey) ← readKey? (dropLineBlanks characters)
    match dropLineBlanks afterKey with
    | '.' :: rest => readKeyPath fuel (before ++ [key]) rest
    | rest => some (⟨before, key⟩, rest)

/-- The number of arrays, inline tables or parts of a key from which on a text is refused. -/
def nestingLimit : Nat := 80

/-- Reads a dotted key. -/
def readKeyPath? (characters : List Char) : Option (KeyPath × List Char) := do
  let (path, rest) ← readKeyPath (characters.length + 1) [] characters
  if path.before.length + 1 < nestingLimit then some (path, rest) else none

/-- The characters after a comment, which ends at the first character that may not stand in it. -/
def dropComment : List Char → List Char
  | '#' :: rest => rest.dropWhile isPlain
  | rest => rest

/-- The characters after blanks, line feeds and comments. -/
def dropLines : (fuel : Nat) → List Char → List Char
  | 0, characters => characters
  | fuel + 1, characters =>
    match characters.dropWhile fun character => isLineBlank character || character == '\n' with
    | '#' :: rest => dropLines fuel (dropComment ('#' :: rest))
    | rest => rest

/-- The characters from the next part of an array. -/
def dropGap (characters : List Char) : List Char :=
  dropLines (characters.length + 1) characters

/-- Splits off a word; a day and a time of day may have a space between them. -/
def splitWord (characters : List Char) : List Char × List Char :=
  let word := characters.takeWhile isWordPart
  match characters.dropWhile isWordPart with
  | ' ' :: next :: rest =>
    if (readDay? word).map List.isEmpty = some true ∧ isDigit next then
      (word ++ ' ' :: (next :: rest).takeWhile isWordPart,
        (next :: rest).dropWhile isWordPart)
    else (word, ' ' :: next :: rest)
  | rest => (word, rest)

mutual

/-- Reads a value that stands inside `depth` arrays and inline tables. -/
def readValue : (fuel depth : Nat) → List Char → Option (Value × List Char)
  | 0, _, _ => none
  | fuel + 1, depth, characters =>
    match characters with
    | '"' :: '"' :: '"' :: rest =>
      (readLines? '"' rest).map fun (value, remaining) => (.text value, remaining)
    | '\'' :: '\'' :: '\'' :: rest =>
      (readLines? '\'' rest).map fun (value, remaining) => (.text value, remaining)
    | '"' :: rest =>
      (readLine? '"' rest).map fun (value, remaining) => (.text value, remaining)
    | '\'' :: rest =>
      (readLine? '\'' rest).map fun (value, remaining) => (.text value, remaining)
    | '[' :: rest =>
      if depth + 1 < nestingLimit then
        (readItems fuel (depth + 1) rest).map fun (items, remaining) =>
          (.array items, remaining)
      else none
    | '\x7b' :: rest =>
      if depth + 1 < nestingLimit then
        (readMembers fuel (depth + 1) rest).map fun (table, remaining) =>
          (.table .braces table.entries, remaining)
      else none
    | _ => do
      let (word, rest) := splitWord characters
      some (← scalar? word, rest)

/-- Reads the items of an array after its opening bracket or a comma. -/
def readItems : (fuel depth : Nat) → List Char → Option (List Value × List Char)
  | 0, _, _ => none
  | fuel + 1, depth, characters =>
    match dropGap characters with
    | ']' :: rest => some ([], rest)
    | other => do
      let (item, afterItem) ← readValue fuel depth other
      match dropGap afterItem with
      | ']' :: rest => some ([item], rest)
      | ',' :: rest => do
        let (items, remaining) ← readItems fuel depth rest
        some (item :: items, remaining)
      | _ => none

/-- Reads an inline table after its opening brace. -/
def readMembers : (fuel depth : Nat) → List Char → Option (Table × List Char)
  | 0, _, _ => none
  | fuel + 1, depth, characters =>
    match dropLineBlanks characters with
    | '\x7d' :: rest => some (.empty, rest)
    | other => readMember fuel depth .empty other

/-- Reads a member of an inline table and what follows it. -/
def readMember : (fuel depth : Nat) → Table → List Char → Option (Table × List Char)
  | 0, _, _, _ => none
  | fuel + 1, depth, table, characters => do
    let (path, afterPath) ← readKeyPath? characters
    match afterPath with
    | '=' :: afterSign =>
      let (value, afterValue) ← readValue fuel depth (dropLineBlanks afterSign)
      let extended ← table.add? path value
      match dropLineBlanks afterValue with
      | '\x7d' :: rest => some (extended, rest)
      | ',' :: rest => readMember fuel depth extended rest
      | _ => none
    | _ => none

end

/-- Where the open table belongs. -/
inductive Place where
  /-- It is the table of the whole document. -/
  | root
  /-- It is a table under a key. -/
  | member (path : KeyPath)
  /-- It is the next table of an array under a key. -/
  | item (path : KeyPath)

/-- A document read up to some line. -/
structure Progress where
  /-- The document without the open table. -/
  root : Table
  /-- The open table. -/
  current : Table
  place : Place

/-- Nothing read yet. -/
def Progress.start : Progress := ⟨.empty, .empty, .root⟩

/-- The document with the open table in its place. -/
def Progress.close? (progress : Progress) : Option Table :=
  match progress.place with
  | .root => some progress.current
  | .member path =>
    (descend false
      (fun parent => some ((), parent.set path.last progress.current.value))
      path.before progress.root).map Prod.snd
  | .item path =>
    (descend false
      (fun parent =>
        match member? path.last parent.entries with
        | none => some ((), parent.set path.last (.tables [progress.current.value]))
        | some (.tables earlier) =>
          some ((), parent.set path.last (.tables (progress.current.value :: earlier)))
        | some _ => none)
      path.before progress.root).map Prod.snd

/--
Opens the table of a header.  It must be new, or so far only named on the way
to other tables.
-/
def Progress.openMember? (progress : Progress) (path : KeyPath) : Option Progress := do
  let closed ← progress.close?
  let (entries, root) ← descend false
    (fun parent =>
      match member? path.last parent.entries with
      | none => some ([], parent)
      | some (.table origin entries) =>
        if origin.implicit && !origin.dotted then
          some (entries, parent.remove path.last)
        else none
      | some _ => none)
    path.before closed
  some ⟨root, ⟨.header, entries⟩, .member path⟩

/-- Opens the next table of an array, which must be new or made by headers. -/
def Progress.openItem? (progress : Progress) (path : KeyPath) : Option Progress := do
  let closed ← progress.close?
  let ((), root) ← descend false
    (fun parent =>
      match member? path.last parent.entries with
      | none => some ((), parent)
      | some (.tables _) => some ((), parent)
      | some _ => none)
    path.before closed
  some ⟨root, .empty, .item path⟩

/-- The characters after the end of a line, before which only a comment may stand. -/
def endLine? (characters : List Char) : Option (List Char) :=
  match dropComment (dropLineBlanks characters) with
  | [] => some []
  | '\n' :: rest => some rest
  | _ => none

/-- Reads a line that starts with a key. -/
def readAssignment? (progress : Progress) (characters : List Char) :
    Option (Progress × List Char) := do
  let (path, afterPath) ← readKeyPath? characters
  match afterPath with
  | '=' :: afterSign =>
    let (value, afterValue) ←
      readValue (2 * characters.length + 2) 0 (dropLineBlanks afterSign)
    let extended ← progress.current.add? path value
    some ({ progress with current := extended }, ← endLine? afterValue)
  | _ => none

/-- Reads a line that starts with a bracket, after that bracket. -/
def readHeader? (progress : Progress) : List Char → Option (Progress × List Char)
  | '[' :: rest => do
    let (path, afterPath) ← readKeyPath? rest
    match afterPath with
    | ']' :: ']' :: remaining =>
      some (← progress.openItem? path, ← endLine? remaining)
    | _ => none
  | rest => do
    let (path, afterPath) ← readKeyPath? rest
    match afterPath with
    | ']' :: remaining => some (← progress.openMember? path, ← endLine? remaining)
    | _ => none

/-- Reads the lines of a document. -/
def readDocument : (fuel : Nat) → Progress → List Char → Option Table
  | 0, _, _ => none
  | fuel + 1, progress, characters =>
    match dropLineBlanks characters with
    | [] => progress.close?
    | '\n' :: rest => readDocument fuel progress rest
    | '#' :: rest =>
      match endLine? ('#' :: rest) with
      | some remaining => readDocument fuel progress remaining
      | none => none
    | '[' :: rest =>
      match readHeader? progress rest with
      | some (opened, remaining) => readDocument fuel opened remaining
      | none => none
    | other =>
      match readAssignment? progress other with
      | some (extended, remaining) => readDocument fuel extended remaining
      | none => none

/--
The characters with one line feed for each line break; a carriage return
elsewhere is refused.
-/
def lineFeeds? : List Char → Option (List Char)
  | [] => some []
  | '\r' :: '\n' :: rest => (lineFeeds? rest).map ('\n' :: ·)
  | character :: rest =>
    if character = '\r' then none else (lineFeeds? rest).map (character :: ·)

/-- The characters without a byte-order mark at the start. -/
def dropMark : List Char → List Char
  | [] => []
  | first :: rest => if first.toNat = 0xFEFF then rest else first :: rest

/-- The table that a document denotes. -/
def Table.ofText? (text : String) : Option Table := do
  let characters ← lineFeeds? (dropMark text.toList)
  readDocument (characters.length + 1) .start characters

end UsageLedger.Toml
