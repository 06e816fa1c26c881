import UsageLedger.Proofs.ModelNames
import UsageLedger.Telemetry.Client
import Mathlib.Data.List.DropRight

/-!
# Settings as credentials

Settings become credentials if the host and both keys are set, and otherwise
those that are not are named.  The keys are trimmed, so they are tidy.  The
host is trimmed first and loses the slashes at its end after that, which may
bare white space that stood in front of them, or leave nothing.

`settings_tell_what_is_unset` has both outcomes, and what becomes of the host:
it is tidy exactly if in front of the slashes at the end of the trimmed text
there is a character, and that one is not blank (`NamesHost`).
`slash_is_taken_for_a_host` has a host with no character there and one with a
space.
-/

namespace UsageLedger

open UsageLedger.Text

/-! ## Ends of texts -/

namespace Text

section Ends

variable {α : Type} {drops : α → Bool} {values : List α}

theorem rdropWhile_eq_self_iff_last :
    values.rdropWhile drops = values ↔ ∀ last ∈ values.getLast?, drops last = false := by
  rcases values.eq_nil_or_concat with rfl | ⟨front, last, rfl⟩
  · simp
  · simp [List.rdropWhile_eq_self_iff]

theorem last_rdropWhile : ∀ last ∈ (values.rdropWhile drops).getLast?, drops last = false :=
  rdropWhile_eq_self_iff_last.1 (List.rdropWhile_idempotent drops values)

/-- Copies of a value that is dropped are dropped from behind what ends in another one. -/
theorem rdropWhile_append_replicate
    {value : α}
    (dropped : drops value = true)
    (ends : ∀ last ∈ values.getLast?, drops last = false)
    (count : Nat) :
    (values ++ List.replicate count value).rdropWhile drops = values := by
  induction count with
  | zero =>
      rw [List.replicate_zero, List.append_nil]
      exact rdropWhile_eq_self_iff_last.2 ends
  | succ count hypothesis =>
      rw [List.replicate_succ', ← List.append_assoc, List.rdropWhile_concat_pos _ _ _ dropped]
      exact hypothesis

theorem dropWhile_eq_self_iff_first :
    values.dropWhile drops = values ↔ ∀ first ∈ values.head?, drops first = false := by
  cases values with
  | nil => simp
  | cons first rest => simp [List.dropWhile_eq_self_iff]

end Ends

theorem trimChars_eq (characters : List Char) :
    trimChars characters = (dropBlank characters).rdropWhile isBlank :=
  rfl

/-- Trimming leaves characters as they are if there is no blank one at either end. -/
theorem trimChars_eq_self_iff {characters : List Char} :
    trimChars characters = characters ↔
      (∀ first ∈ characters.head?, isBlank first = false) ∧
        ∀ last ∈ characters.getLast?, isBlank last = false := by
  rw [← dropWhile_eq_self_iff_first, ← rdropWhile_eq_self_iff_last, trimChars_eq]
  show (dropBlank characters).rdropWhile isBlank = characters ↔
    dropBlank characters = characters ∧ characters.rdropWhile isBlank = characters
  constructor
  · intro trimmed
    have shorter : characters <+: dropBlank characters := by
      have dropped := List.rdropWhile_prefix isBlank (dropBlank characters)
      rwa [trimmed] at dropped
    have begins := dropBlank_of_begins shorter
    rw [begins] at trimmed
    exact ⟨begins, trimmed⟩
  · rintro ⟨begins, ends⟩
    rw [begins, ends]

/-- A tidy text has a first and a last character, and neither of them is blank. -/
theorem isTidy_iff {text : String} :
    IsTidy text ↔ text ≠ "" ∧ (∀ first ∈ text.toList.head?, isBlank first = false) ∧
      ∀ last ∈ text.toList.getLast?, isBlank last = false := by
  rw [IsTidy, ← String.toList_inj, trim_toList, trimChars_eq_self_iff, and_comm]

theorem isBlankText_iff {text : String} :
    isBlankText text = true ↔ ∀ character ∈ text.toList, isBlank character = true := by
  rw [isBlankText, List.isEmpty_iff, trimChars_eq, List.rdropWhile_eq_nil_iff]
  constructor
  · intro allBlank
    have none : dropBlank text.toList = [] := by
      rwa [← List.dropWhile_eq_nil_iff, dropBlank, List.dropWhile_idempotent] at allBlank
    exact List.dropWhile_eq_nil_iff.1 none
  · intro allBlank character member
    exact allBlank character ((List.dropWhile_sublist isBlank).subset member)

end Text

namespace Telemetry

/-! ## Settings that are not set -/

/-- A setting is missing, or has nothing but white space. -/
def IsUnset (setting : Option String) : Prop :=
  ∀ text ∈ setting, ∀ character ∈ text.toList, isBlank character = true

theorem settingText_eq_empty_iff {setting : Option String} :
    settingText setting = "" ↔ IsUnset setting := by
  cases setting with
  | none => exact iff_of_true rfl nofun
  | some text =>
      rw [settingText, Option.getD_some, trim_eq_empty_iff, isBlankText_iff]
      simp [IsUnset]

/-- The names of the settings that requests need and that are not set, in their order. -/
structure ListsUnset (settings : Settings) (names : List String) : Prop where
  ordered : names.Sublist ["host", "public_key", "secret_key"]
  host : "host" ∈ names ↔ IsUnset settings.host
  publicKey : "public_key" ∈ names ↔ IsUnset settings.publicKey
  secretKey : "secret_key" ∈ names ↔ IsUnset settings.secretKey

theorem mem_missing_iff {settings : Settings} {name : String} :
    name ∈ settings.missing ↔ ∃ setting, (name, setting) ∈ settings.needed ∧ IsUnset setting := by
  simp [Settings.missing, settingText_eq_empty_iff]

theorem listsUnset_missing (settings : Settings) : ListsUnset settings settings.missing where
  ordered := List.filter_sublist.map Prod.fst
  host := by simp [mem_missing_iff, Settings.needed]
  publicKey := by simp [mem_missing_iff, Settings.needed]
  secretKey := by simp [mem_missing_iff, Settings.needed]

/-! ## Hosts without slashes at the end -/

/-- In front of the slashes at the end of the trimmed text is a character that is not blank. -/
def NamesHost (given : String) : Prop :=
  ∃ front last count, (trim given).toList = front ++ last :: List.replicate count '/' ∧
    last ≠ '/' ∧ isBlank last = false

/-- What becomes of the text that is given for a host. -/
structure IsHostOf (given host : String) : Prop where
  cut : ∃ count, (trim given).toList = host.toList ++ List.replicate count '/'
  noSlash : ∀ last ∈ host.toList.getLast?, last ≠ '/'
  beginsSolid : ∀ first ∈ host.toList.head?, isBlank first = false
  empty_iff : host = "" ↔ ∀ character ∈ (trim given).toList, character = '/'
  tidy_iff : IsTidy host ↔ NamesHost given

theorem toList_dropTrailingSlashes (text : String) :
    (dropTrailingSlashes text).toList = text.toList.rdropWhile (· == '/') :=
  String.toList_ofList

/-- All slashes are taken away from the end, and nothing else is. -/
theorem dropTrailingSlashes_eq_iff {text host : String} :
    dropTrailingSlashes text = host ↔
      (∃ count, text.toList = host.toList ++ List.replicate count '/') ∧
        ∀ last ∈ host.toList.getLast?, last ≠ '/' := by
  rw [← String.toList_inj, toList_dropTrailingSlashes]
  constructor
  · intro cut
    have slashes : ∀ character ∈ text.toList.rtakeWhile (· == '/'), character = '/' :=
      fun character member => by simpa using List.mem_rtakeWhile_imp member
    rw [← cut]
    refine ⟨⟨(text.toList.rtakeWhile (· == '/')).length, ?_⟩, ?_⟩
    · rw [← List.eq_replicate_of_mem slashes, List.rdropWhile_append_rtakeWhile]
    · intro last isLast
      simpa using last_rdropWhile last isLast
  · rintro ⟨⟨count, parts⟩, noSlash⟩
    rw [parts]
    refine rdropWhile_append_replicate rfl ?_ count
    intro last isLast
    simpa using noSlash last isLast

/-- The given text names a host if what its slashes leave ends in a character that is not blank. -/
theorem namesHost_iff (given : String) :
    NamesHost given ↔ dropTrailingSlashes (trim given) ≠ "" ∧
      ∀ last ∈ (dropTrailingSlashes (trim given)).toList.getLast?, isBlank last = false := by
  constructor
  · rintro ⟨front, last, count, whole, noSlash, solid⟩
    have host : dropTrailingSlashes (trim given) = String.ofList (front ++ [last]) := by
      rw [dropTrailingSlashes_eq_iff, String.toList_ofList, List.getLast?_concat]
      refine ⟨⟨count, ?_⟩, ?_⟩
      · rw [whole, List.append_assoc, List.singleton_append]
      · rintro _ ⟨⟩
        exact noSlash
    rw [host, ne_eq, ← String.toList_inj, String.toList_ofList, List.getLast?_concat]
    refine ⟨List.append_ne_nil_of_right_ne_nil front (List.cons_ne_nil last []), ?_⟩
    rintro _ ⟨⟩
    exact solid
  · rintro ⟨nonempty, endsSolid⟩
    rcases dropTrailingSlashes_eq_iff.1 (Eq.refl (dropTrailingSlashes (trim given))) with
      ⟨⟨count, parts⟩, noSlash⟩
    rcases List.eq_nil_or_concat' (dropTrailingSlashes (trim given)).toList with
      none | ⟨front, last, whole⟩
    · exact absurd (String.toList_inj.1 none) nonempty
    · have isLast : last ∈ (dropTrailingSlashes (trim given)).toList.getLast? := by
        rw [whole, List.getLast?_concat]
        rfl
      refine ⟨front, last, count, ?_, noSlash last isLast, endsSolid last isLast⟩
      rw [parts, whole, List.append_assoc, List.singleton_append]

theorem isHostOf_dropTrailingSlashes
    {given : String}
    (solid : isBlankText given = false) :
    IsHostOf given (dropTrailingSlashes (trim given)) := by
  rcases dropTrailingSlashes_eq_iff.1 (Eq.refl (dropTrailingSlashes (trim given))) with
    ⟨⟨count, parts⟩, noSlash⟩
  have beginsSolid : ∀ first ∈ (dropTrailingSlashes (trim given)).toList.head?,
      isBlank first = false := by
    intro first isFirst
    apply (isTidy_iff.1 (isTidy_trim solid)).2.1
    rw [parts]
    exact List.mem_head?_append_of_mem_head? isFirst
  refine ⟨⟨count, parts⟩, noSlash, beginsSolid, ?_, ?_⟩
  · rw [← String.toList_inj, toList_dropTrailingSlashes]
    show List.rdropWhile (· == '/') (trim given).toList = [] ↔ _
    simp [List.rdropWhile_eq_nil_iff]
  · rw [isTidy_iff, namesHost_iff, and_iff_right beginsSolid]

/-! ## Both outcomes -/

/-- What settings say when credentials are made of them. -/
structure TellsUnset (settings : Settings) (policy : RetryPolicy) : Prop where
  /-- Settings are refused exactly with the names of those that are not set. -/
  refused_iff : settings.isConfigured = false ↔
    ∃ names, names ≠ [] ∧ ListsUnset settings names ∧
      Client.ofSettings settings policy = .error (.notConfigured (", ".intercalate names))
  accepted_iff : settings.isConfigured = true ↔
    ∃ client, Client.ofSettings settings policy = .ok client
  keys : ∀ client, Client.ofSettings settings policy = .ok client →
    IsTidy client.credentials.publicKey ∧ IsTidy client.credentials.secretKey
  host : ∀ client, Client.ofSettings settings policy = .ok client →
    ∃ given, settings.host = some given ∧ IsHostOf given client.credentials.host

section Outcomes

variable {settings : Settings} (policy : RetryPolicy)

theorem ofSettings_of_missing (missing : settings.missing ≠ []) :
    settings.isConfigured = false ∧
      Client.ofSettings settings policy =
        .error (.notConfigured (", ".intercalate settings.missing)) := by
  have refused : settings.credentials = .error settings.missing := by
    rw [Settings.credentials, if_neg]
    rwa [List.isEmpty_iff]
  constructor
  · rw [Settings.isConfigured, refused]
    rfl
  · rw [Client.ofSettings, refused]
    rfl

theorem ofSettings_of_set (none : settings.missing = []) :
    settings.isConfigured = true ∧
      Client.ofSettings settings policy = .ok
        ⟨⟨dropTrailingSlashes (settingText settings.host), settingText settings.publicKey,
          settingText settings.secretKey⟩, policy⟩ := by
  have accepted : settings.credentials = .ok
      ⟨dropTrailingSlashes (settingText settings.host), settingText settings.publicKey,
        settingText settings.secretKey⟩ := by
    rw [Settings.credentials, if_pos]
    rw [none]
    rfl
  constructor
  · rw [Settings.isConfigured, accepted]
    rfl
  · rw [Client.ofSettings, accepted]

theorem isTidy_settingText {setting : Option String} (isSet : ¬ IsUnset setting) :
    IsTidy (settingText setting) := by
  have nonempty : settingText setting ≠ "" := fun empty => isSet (settingText_eq_empty_iff.1 empty)
  exact ⟨trim_trim _, nonempty⟩

theorem exists_host_of_set {setting : Option String} (isSet : ¬ IsUnset setting) :
    ∃ given, setting = some given ∧
      IsHostOf given (dropTrailingSlashes (settingText setting)) := by
  cases setting with
  | none => exact absurd nofun isSet
  | some given =>
      refine ⟨given, rfl, isHostOf_dropTrailingSlashes ?_⟩
      rw [← Bool.not_eq_true, ← trim_eq_empty_iff]
      intro empty
      exact isSet (settingText_eq_empty_iff.1 empty)

end Outcomes

/--
Settings become credentials if all that requests need are set, and otherwise
those that are not are named in their order.  Of credentials the keys are tidy,
and the host is if a character that is not blank stands in front of the slashes
at the end of what was given for it.
-/
theorem settings_tell_what_is_unset (settings : Settings) (policy : RetryPolicy) :
    TellsUnset settings policy := by
  have listed := listsUnset_missing settings
  by_cases none : settings.missing = []
  · rcases ofSettings_of_set policy none with ⟨configured, answer⟩
    have isSet : ∀ {name : String} {setting : Option String},
        (name ∈ settings.missing ↔ IsUnset setting) → ¬ IsUnset setting := by
      intro name setting named unset
      have member := named.2 unset
      rw [none] at member
      exact List.not_mem_nil member
    rcases exists_host_of_set (isSet listed.host) with ⟨given, isGiven, isHost⟩
    refine ⟨?_, iff_of_true configured ⟨_, answer⟩, ?_, ?_⟩
    · rw [configured, answer]
      exact iff_of_false nofun nofun
    · intro client isClient
      cases Except.ok.inj (answer.symm.trans isClient)
      exact ⟨isTidy_settingText (isSet listed.publicKey),
        isTidy_settingText (isSet listed.secretKey)⟩
    · intro client isClient
      cases Except.ok.inj (answer.symm.trans isClient)
      exact ⟨given, isGiven, isHost⟩
  · rcases ofSettings_of_missing policy none with ⟨unconfigured, answer⟩
    refine ⟨iff_of_true unconfigured ⟨settings.missing, none, listed, answer⟩, ?_, ?_, ?_⟩
    · rw [unconfigured, answer]
      exact iff_of_false nofun nofun
    · rw [answer]
      exact nofun
    · rw [answer]
      exact nofun

/-- Settings with both keys. -/
def settingsWithHost (host : String) : Settings :=
  ⟨some host, some "pk", some "sk", defaultTimeoutSecs⟩

/-- A slash is taken for a host, which is then empty, and a host can keep a space at its end. -/
theorem slash_is_taken_for_a_host :
    (settingsWithHost "/").isConfigured = true ∧
      (∃ client, Client.ofSettings (settingsWithHost "/") .standard = .ok client ∧
        client.credentials.host = "" ∧ ¬ IsTidy client.credentials.host) ∧
      ∃ client, Client.ofSettings (settingsWithHost "localhost /") .standard = .ok client ∧
        client.credentials.host = "localhost " ∧ ¬ IsTidy client.credentials.host := by
  have slash := ofSettings_of_set .standard
    (show (settingsWithHost "/").missing = [] by decide +kernel)
  have space := ofSettings_of_set .standard
    (show (settingsWithHost "localhost /").missing = [] by decide +kernel)
  have empty : dropTrailingSlashes (settingText (some "/")) = "" := by decide +kernel
  have spaced : dropTrailingSlashes (settingText (some "localhost /")) = "localhost " := by
    decide +kernel
  refine ⟨slash.1, ⟨_, slash.2, empty, ?_⟩, ⟨_, space.2, spaced, ?_⟩⟩
  · intro tidy
    exact tidy.2 empty
  · intro tidy
    have trimmed := tidy.1
    rw [show (settingsWithHost "localhost /").host = some "localhost /" from rfl, spaced] at trimmed
    revert trimmed
    decide +kernel

end Telemetry

end UsageLedger
