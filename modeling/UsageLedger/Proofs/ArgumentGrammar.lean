import UsageLedger.CommandLine.Arguments
import UsageLedger.Proofs.LenientDates

/-!
# The grammar of arguments

Arguments are a row of items, each of one or two words: two flags, a port and
a configuration.  `Splits` says which lists are such a row, apart from how they
are read, and `Options.ofItems` what a row of items asks for: the last port,
the last configuration and the flags that occur.

A word means something only by what is in front of it, as a port or a
configuration may look like an option.  So every list is taken apart from the
left (`exists_ending`): some items, and then the end, a request for help or
what cannot be read.  `arguments_follow_grammar` draws from this that exactly
the rows of items are accepted, each for what it asks for, and that rows can be
joined.
-/

namespace UsageLedger.CommandLine

open UsageLedger.Calendar
open UsageLedger.Text

/-! ## The grammar -/

/-- A port in digits, with any zeros in front, and a plus sign before them or none. -/
inductive PortSpelling (port : Nat) : List Char → Prop
  | unsigned (width : Nat) (fits : port ≤ 65535) : PortSpelling port (padded (width + 1) port)
  | signed (width : Nat) (fits : port ≤ 65535) :
      PortSpelling port ('+' :: padded (width + 1) port)

/-- What one option asks for. -/
inductive Item where
  | port (value : Nat)
  | config (path : String)
  | importOnStart
  | importOnly
  deriving DecidableEq, Repr

/-- The words of an item; the second one of a configuration may be any text. -/
inductive Item.Spells : Item → List String → Prop
  | port {value : Nat} {text : String} (spelled : PortSpelling value text.toList) :
      Spells (.port value) ["--port", text]
  | config (path : String) : Spells (.config path) ["--config", path]
  | importOnStart : Spells .importOnStart ["--import"]
  | importOnly : Spells .importOnly ["--import-only"]

/-- A list of words that is a row of items. -/
inductive Splits : List String → List Item → Prop
  | nil : Splits [] []
  | cons {words rest : List String} {item : Item} {items : List Item}
      (first : item.Spells words)
      (later : Splits rest items) :
      Splits (words ++ rest) (item :: items)

/-- A list that begins with a request for help. -/
inductive AsksForHelp : List String → Prop
  | long (rest : List String) : AsksForHelp ("--help" :: rest)
  | short (rest : List String) : AsksForHelp ("-h" :: rest)

/-- A list that begins with no item, and why it cannot be read. -/
inductive Breaks : List String → ArgumentError → Prop
  | noPort : Breaks ["--port"] (.missingValue "--port")
  | noConfig : Breaks ["--config"] (.missingValue "--config")
  | invalidPort {text : String} (rest : List String)
      (unreadable : ∀ value, ¬ PortSpelling value text.toList) :
      Breaks ("--port" :: text :: rest) (.invalidPort text)
  | unknown {word : String} (rest : List String)
      (other : word ∉ ["--port", "--config", "--import", "--import-only", "--help", "-h"]) :
      Breaks (word :: rest) (.unknown word)

def Item.port? : Item → Option Nat
  | .port value => some value
  | _ => none

def Item.config? : Item → Option String
  | .config path => some path
  | _ => none

/-- What a row of items asks for. -/
def Options.ofItems (items : List Item) : Options where
  port := (items.filterMap Item.port?).getLast?
  config := (items.filterMap Item.config?).getLast?
  importOnStart := decide (Item.importOnStart ∈ items)
  importOnly := decide (Item.importOnly ∈ items)

/-- Options under others that count more. -/
def Options.overlaidBy (first second : Options) : Options where
  port := second.port.or first.port
  config := second.config.or first.config
  importOnStart := first.importOnStart || second.importOnStart
  importOnly := first.importOnly || second.importOnly

/-! ## Ports -/

/-- Some digits are a number with zeros in front. -/
theorem digits_iff_exists_padded {digits : List Char} {value : Nat} :
    (digits ≠ [] ∧ (∀ digit ∈ digits, isDigit digit = true) ∧ naturalOf digits = value) ↔
      ∃ width, padded (width + 1) value = digits := by
  constructor
  · rintro ⟨nonempty, all, rfl⟩
    rcases Nat.exists_eq_succ_of_ne_zero (mt List.length_eq_zero_iff.1 nonempty) with
      ⟨width, length⟩
    exact ⟨width, (padded_naturalOf all length).2⟩
  · rintro ⟨width, rfl⟩
    exact ⟨padded_ne_nil width value, fun _ => isDigit_of_mem_padded,
      naturalOf_padded_any _ value⟩

theorem dropPlus_cases (characters : List Char) :
    characters = dropPlus characters ∨ characters = '+' :: dropPlus characters := by
  unfold dropPlus
  split
  · exact .inr rfl
  · exact .inl rfl

/-- No digits begin with a plus sign. -/
theorem dropPlus_padded (width value : Nat) :
    dropPlus (padded width value) = padded width value := by
  have digits : ∀ digit ∈ padded width value, isDigit digit = true :=
    fun _ => isDigit_of_mem_padded
  rcases dropPlus_cases (padded width value) with plain | plus
  · exact plain.symm
  · rw [plus] at digits
    exact absurd (digits '+' List.mem_cons_self) (by decide)

theorem portSpelling_iff {characters : List Char} {port : Nat} :
    PortSpelling port characters ↔
      port ≤ 65535 ∧ ∃ width, padded (width + 1) port = dropPlus characters := by
  constructor
  · intro spelled
    cases spelled with
    | unsigned width fits => exact ⟨fits, width, (dropPlus_padded _ port).symm⟩
    | signed width fits => exact ⟨fits, width, rfl⟩
  · rintro ⟨fits, width, written⟩
    rcases dropPlus_cases characters with plain | plus
    · rw [plain, ← written]
      exact .unsigned width fits
    · rw [plus, ← written]
      exact .signed width fits

/-- Exactly the spellings of a port are read as that port. -/
theorem portOfText?_eq_some_iff {text : String} {port : Nat} :
    portOfText? text = some port ↔ PortSpelling port text.toList := by
  rw [portSpelling_iff, ← digits_iff_exists_padded]
  simp only [portOfText?, Option.ite_none_right_eq_some, Option.some.injEq, Bool.and_eq_true,
    Bool.not_eq_true', List.isEmpty_eq_false_iff, List.all_eq_true, decide_eq_true_eq]
  constructor
  · rintro ⟨⟨⟨nonempty, all⟩, fits⟩, rfl⟩
    exact ⟨fits, nonempty, all, rfl⟩
  · rintro ⟨fits, nonempty, all, rfl⟩
    exact ⟨⟨⟨nonempty, all⟩, fits⟩, rfl⟩

theorem portOfText?_eq_none_iff {text : String} :
    portOfText? text = none ↔ ∀ value, ¬ PortSpelling value text.toList := by
  simp only [← portOfText?_eq_some_iff, Option.eq_none_iff_forall_ne_some, ne_eq]

/-! ## Rows of items -/

theorem Options.none_overlaidBy (options : Options) :
    Options.none.overlaidBy options = options := by
  simp [Options.overlaidBy, Options.none]

theorem Options.overlaidBy_none (options : Options) :
    options.overlaidBy Options.none = options := by
  simp [Options.overlaidBy, Options.none]

theorem Options.overlaidBy_assoc (first second third : Options) :
    (first.overlaidBy second).overlaidBy third = first.overlaidBy (second.overlaidBy third) := by
  simp [Options.overlaidBy, Option.or_assoc, Bool.or_assoc]

theorem Options.ofItems_nil : Options.ofItems [] = Options.none := rfl

/-- What a row asks for that is joined from two is what the second asks for over the first. -/
theorem Options.ofItems_append (first second : List Item) :
    Options.ofItems (first ++ second) =
      (Options.ofItems first).overlaidBy (Options.ofItems second) := by
  simp [Options.ofItems, Options.overlaidBy, List.getLast?_append]

theorem Splits.append
    {first second : List String}
    {items more : List Item}
    (splits : Splits first items)
    (later : Splits second more) :
    Splits (first ++ second) (items ++ more) := by
  induction splits with
  | nil => exact later
  | cons spelled _ hypothesis =>
      rw [List.append_assoc, List.cons_append]
      exact .cons spelled hypothesis

/-! ## What is read -/

/-- One item in front is read as what it asks for. -/
theorem readArguments_of_spells
    {words : List String}
    {item : Item}
    (spelled : item.Spells words)
    (options : Options)
    (rest : List String) :
    readArguments options (words ++ rest) =
      readArguments (options.overlaidBy (Options.ofItems [item])) rest := by
  cases spelled with
  | port spelled =>
      rw [readArguments.eq_def]
      simp [portOfText?_eq_some_iff.2 spelled, Options.overlaidBy, Options.ofItems, Item.port?,
        Item.config?]
  | config path =>
      rw [readArguments.eq_def]
      simp [Options.overlaidBy, Options.ofItems, Item.port?, Item.config?]
  | importOnStart =>
      rw [readArguments.eq_def]
      simp [Options.overlaidBy, Options.ofItems, Item.port?, Item.config?]
  | importOnly =>
      rw [readArguments.eq_def]
      simp [Options.overlaidBy, Options.ofItems, Item.port?, Item.config?]

/-- A row of items in front is read as what it asks for. -/
theorem readArguments_of_splits
    {words : List String}
    {items : List Item}
    (splits : Splits words items)
    (options : Options)
    (rest : List String) :
    readArguments options (words ++ rest) =
      readArguments (options.overlaidBy (Options.ofItems items)) rest := by
  induction splits generalizing options with
  | nil => rw [List.nil_append, Options.ofItems_nil, Options.overlaidBy_none]
  | @cons words later item items spelled _ hypothesis =>
      rw [List.append_assoc, readArguments_of_spells spelled, hypothesis,
        Options.overlaidBy_assoc, ← Options.ofItems_append, List.singleton_append]

theorem readArguments_of_asksForHelp
    {rest : List String}
    (asks : AsksForHelp rest)
    (options : Options) :
    readArguments options rest = .ok .help := by
  rw [readArguments.eq_def]
  cases asks <;> simp

theorem readArguments_of_breaks
    {rest : List String}
    {cause : ArgumentError}
    (breaks : Breaks rest cause)
    (options : Options) :
    readArguments options rest = .error cause := by
  cases breaks with
  | noPort => rfl
  | noConfig => rfl
  | invalidPort rest unreadable =>
      simp [readArguments, portOfText?_eq_none_iff.2 unreadable]
  | unknown rest other =>
      simp only [List.mem_cons, List.not_mem_nil, or_false, not_or] at other
      rw [readArguments.eq_def]
      simp [other]

/-! ## Lists taken apart -/

/-- How a list goes on after the items that it begins with. -/
inductive Ending : List String → Prop
  | nothing : Ending []
  | help {rest : List String} (asks : AsksForHelp rest) : Ending rest
  | broken {rest : List String} {cause : ArgumentError} (breaks : Breaks rest cause) : Ending rest

theorem Item.Spells.length_pos
    {item : Item}
    {words : List String}
    (spelled : item.Spells words) :
    0 < words.length := by
  cases spelled <;> exact Nat.succ_pos _

/-- A list with a first word begins with an item, or with what is none. -/
theorem begins_cases (word : String) (rest : List String) :
    (∃ words later item, word :: rest = words ++ later ∧ Item.Spells item words) ∨
      Ending (word :: rest) := by
  by_cases known : word ∈ ["--port", "--config", "--import", "--import-only", "--help", "-h"]
  · simp only [List.mem_cons, List.not_mem_nil, or_false] at known
    rcases known with rfl | rfl | rfl | rfl | rfl | rfl
    · cases rest with
      | nil => exact .inr (.broken .noPort)
      | cons text later =>
          cases read : portOfText? text with
          | none => exact .inr (.broken (.invalidPort later (portOfText?_eq_none_iff.1 read)))
          | some port => exact .inl ⟨_, later, _, rfl, .port (portOfText?_eq_some_iff.1 read)⟩
    · cases rest with
      | nil => exact .inr (.broken .noConfig)
      | cons path later => exact .inl ⟨_, later, _, rfl, .config path⟩
    · exact .inl ⟨_, rest, _, rfl, .importOnStart⟩
    · exact .inl ⟨_, rest, _, rfl, .importOnly⟩
    · exact .inr (.help (.long rest))
    · exact .inr (.help (.short rest))
  · exact .inr (.broken (.unknown rest known))

/-- Every list begins with some items, and then it ends, asks for help or breaks. -/
theorem exists_ending (arguments : List String) :
    ∃ words rest items, arguments = words ++ rest ∧ Splits words items ∧ Ending rest := by
  cases arguments with
  | nil => exact ⟨[], [], [], rfl, .nil, .nothing⟩
  | cons word rest =>
      rcases begins_cases word rest with ⟨words, later, item, parts, spelled⟩ | ending
      · have shorter : later.length < (word :: rest).length := by
          have positive := spelled.length_pos
          rw [parts, List.length_append]
          omega
        rcases exists_ending later with ⟨more, end_, items, rfl, splits, ending⟩
        refine ⟨words ++ more, end_, item :: items, ?_, .cons spelled splits, ending⟩
        rw [parts, List.append_assoc]
      · exact ⟨[], word :: rest, [], rfl, .nil, ending⟩
termination_by arguments.length
decreasing_by exact shorter

/-- A request for help stands where an option may stand. -/
def ReadsHelp (arguments : List String) : Prop :=
  ∃ words rest items, arguments = words ++ rest ∧ Splits words items ∧ AsksForHelp rest

/-- Where an option may stand there is none that can be read. -/
def Refuses (arguments : List String) (cause : ArgumentError) : Prop :=
  ∃ words rest items, arguments = words ++ rest ∧ Splits words items ∧ Breaks rest cause

theorem ofArguments_append
    {words : List String}
    {items : List Item}
    (splits : Splits words items)
    (rest : List String) :
    Command.ofArguments (words ++ rest) = readArguments (Options.ofItems items) rest := by
  rw [Command.ofArguments, readArguments_of_splits splits, Options.none_overlaidBy]

/-- What is to be made of a list: options for a row of items, help, or the cause of a failure. -/
inductive Means (arguments : List String) : Except ArgumentError Command → Prop
  | start {items : List Item} (splits : Splits arguments items) :
      Means arguments (.ok (.start (Options.ofItems items)))
  | help (reads : ReadsHelp arguments) : Means arguments (.ok .help)
  | failure {cause : ArgumentError} (refuses : Refuses arguments cause) :
      Means arguments (.error cause)

theorem exists_means (arguments : List String) : ∃ outcome, Means arguments outcome := by
  rcases exists_ending arguments with ⟨words, rest, items, rfl, splits, ending⟩
  cases ending with
  | nothing =>
      rw [List.append_nil]
      exact ⟨_, .start splits⟩
  | help asks => exact ⟨_, .help ⟨words, rest, items, rfl, splits, asks⟩⟩
  | broken breaks => exact ⟨_, .failure ⟨words, rest, items, rfl, splits, breaks⟩⟩

theorem ofArguments_of_means
    {arguments : List String}
    {outcome : Except ArgumentError Command}
    (means : Means arguments outcome) :
    Command.ofArguments arguments = outcome := by
  cases means with
  | start splits =>
      have read := ofArguments_append splits []
      rwa [List.append_nil] at read
  | help reads =>
      rcases reads with ⟨words, rest, items, rfl, splits, asks⟩
      rw [ofArguments_append splits, readArguments_of_asksForHelp asks]
  | failure refuses =>
      rcases refuses with ⟨words, rest, items, rfl, splits, breaks⟩
      rw [ofArguments_append splits, readArguments_of_breaks breaks]

/-- Every list means something, and is read as just that. -/
theorem ofArguments_eq_iff
    {arguments : List String}
    {outcome : Except ArgumentError Command} :
    Command.ofArguments arguments = outcome ↔ Means arguments outcome := by
  refine ⟨?_, ofArguments_of_means⟩
  rintro rfl
  rcases exists_means arguments with ⟨outcome, means⟩
  rw [ofArguments_of_means means]
  exact means

theorem ofArguments_eq_start_iff {arguments : List String} {options : Options} :
    Command.ofArguments arguments = .ok (.start options) ↔
      ∃ items, Splits arguments items ∧ Options.ofItems items = options := by
  rw [ofArguments_eq_iff]
  constructor
  · intro means
    cases means with
    | start splits => exact ⟨_, splits, rfl⟩
  · rintro ⟨items, splits, rfl⟩
    exact .start splits

theorem ofArguments_eq_help_iff {arguments : List String} :
    Command.ofArguments arguments = .ok .help ↔ ReadsHelp arguments := by
  rw [ofArguments_eq_iff]
  refine ⟨fun means => ?_, .help⟩
  cases means with
  | help reads => exact reads

theorem ofArguments_eq_error_iff {arguments : List String} {cause : ArgumentError} :
    Command.ofArguments arguments = .error cause ↔ Refuses arguments cause := by
  rw [ofArguments_eq_iff]
  refine ⟨fun means => ?_, .failure⟩
  cases means with
  | failure refuses => exact refuses

/-- What is made of arguments, by the grammar. -/
structure FollowsGrammar (arguments : List String) : Prop where
  /-- Exactly the rows of items are accepted, each for what it asks for. -/
  accepts : ∀ options, Command.ofArguments arguments = .ok (.start options) ↔
    ∃ items, Splits arguments items ∧ Options.ofItems items = options
  help : Command.ofArguments arguments = .ok .help ↔ ReadsHelp arguments
  /-- Without help, every other list is an error. -/
  others : ¬ ReadsHelp arguments → (¬ ∃ items, Splits arguments items) →
    ∃ cause, Command.ofArguments arguments = .error cause
  refuses : ∀ cause, Command.ofArguments arguments = .error cause ↔ Refuses arguments cause
  /-- Accepted lists are joined into one that asks for what the second asks for over the first. -/
  joins : ∀ more first second,
    Command.ofArguments arguments = .ok (.start first) →
      Command.ofArguments more = .ok (.start second) →
        Command.ofArguments (arguments ++ more) = .ok (.start (first.overlaidBy second))

theorem arguments_follow_grammar (arguments : List String) : FollowsGrammar arguments := by
  refine ⟨fun _ => ofArguments_eq_start_iff, ofArguments_eq_help_iff, ?_,
    fun _ => ofArguments_eq_error_iff, ?_⟩
  · intro noHelp noItems
    cases outcome : Command.ofArguments arguments with
    | error cause => exact ⟨cause, rfl⟩
    | ok command =>
        cases command with
        | help => exact absurd (ofArguments_eq_help_iff.1 outcome) noHelp
        | start options =>
            rcases ofArguments_eq_start_iff.1 outcome with ⟨items, splits, -⟩
            exact absurd ⟨items, splits⟩ noItems
  · intro more first second accepted acceptedToo
    rcases ofArguments_eq_start_iff.1 accepted with ⟨items, splits, rfl⟩
    rcases ofArguments_eq_start_iff.1 acceptedToo with ⟨others, splitsToo, rfl⟩
    rw [← Options.ofItems_append]
    exact ofArguments_eq_start_iff.2 ⟨_, splits.append splitsToo, rfl⟩

/-- What follows a word for a value is that value, also if it looks like an option. -/
example :
    Command.ofArguments ["--config", "--import", "--port", "+080", "--import-only"] =
      .ok (.start ⟨some 80, some "--import", false, true⟩) := by
  decide

end UsageLedger.CommandLine
