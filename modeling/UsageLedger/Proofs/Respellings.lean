import Mathlib.Data.List.Nodup
import Mathlib.Data.List.Perm.Basic
import UsageLedger.Json.Decode

/-!
# Values respelled

A reader that knows the fields of a structure takes more than the one form in
which the structure is written.  Members may come in any order and among others
with unknown names, a member that is null or has its default may be left out,
and the values may stand alone in the order of their declaration.  `Respelling`
says so of JSON values without mentioning readers, at every depth.

A decoder reads a value from its encoding if it reads it from all respellings
(`Reads`).  For structures that follows from the fields one by one: `Spells` is
built up as a `Shape` is, and `Shape.Spells.reads` is what it gives for objects
and arrays alike.
-/

namespace UsageLedger

open UsageLedger.Decode

namespace Json

/-! ## Respellings -/

/-- A member that may be left out: it is null, or it has its default. -/
def MayLack (defaults : List (String × Json)) (member : String × Json) : Prop :=
  member.2 = .null ∨ member ∈ defaults

mutual

/-- What may stand in the place of a JSON value. -/
inductive Respelling (defaults : List (String × Json)) : Json → Json → Prop where
  | null : Respelling defaults .null .null
  | bool (value : Bool) : Respelling defaults (.bool value) (.bool value)
  | number (value : Number) : Respelling defaults (.number value) (.number value)
  | text (value : String) : Respelling defaults (.text value) (.text value)
  | array {items others : List Json} :
      RespelledItems defaults items others →
        Respelling defaults (.array items) (.array others)
  /-- Some of the members, in any order and among others with unknown names. -/
  | object {members kept unknown given : List (String × Json)} :
      RespelledMembers defaults members kept →
        (∀ member ∈ unknown, member.1 ∉ members.map Prod.fst) →
          given.Perm (kept ++ unknown) →
            Respelling defaults (.object members) (.object given)
  /-- The values of all members, in their order. -/
  | inOrder {members : List (String × Json)} {items : List Json} :
      RespelledItems defaults (members.map Prod.snd) items →
        Respelling defaults (.object members) (.array items)

inductive RespelledItems (defaults : List (String × Json)) :
    List Json → List Json → Prop where
  | nil : RespelledItems defaults [] []
  | cons {item other : Json} {items others : List Json} :
      Respelling defaults item other → RespelledItems defaults items others →
        RespelledItems defaults (item :: items) (other :: others)

inductive RespelledMembers (defaults : List (String × Json)) :
    List (String × Json) → List (String × Json) → Prop where
  | nil : RespelledMembers defaults [] []
  | keep {name : String} {value other : Json} {members kept : List (String × Json)} :
      Respelling defaults value other → RespelledMembers defaults members kept →
        RespelledMembers defaults ((name, value) :: members) ((name, other) :: kept)
  | drop {member : String × Json} {members kept : List (String × Json)} :
      MayLack defaults member → RespelledMembers defaults members kept →
        RespelledMembers defaults (member :: members) kept

end

section Refl

variable (defaults : List (String × Json))

mutual

/-- A value is a respelling of itself. -/
theorem Respelling.refl : ∀ json, Respelling defaults json json
  | .null => .null
  | .bool value => .bool value
  | .number value => .number value
  | .text value => .text value
  | .array items => .array (RespelledItems.refl items)
  | .object members => by
      refine @Respelling.object _ _ _ [] _ (RespelledMembers.refl members) (by simp) ?_
      rw [List.append_nil]

theorem RespelledItems.refl : ∀ items, RespelledItems defaults items items
  | [] => .nil
  | item :: items => .cons (Respelling.refl item) (RespelledItems.refl items)

theorem RespelledMembers.refl : ∀ members, RespelledMembers defaults members members
  | [] => .nil
  | (_, value) :: members => .keep (Respelling.refl value) (RespelledMembers.refl members)

end

end Refl

variable {defaults : List (String × Json)}

/-- Only null is a respelling of null. -/
theorem Respelling.ne_null
    {json other : Json}
    (respelled : Respelling defaults json other)
    (notNull : json ≠ .null) :
    other ≠ .null := by
  rintro rfl
  cases respelled
  exact notNull rfl

/-- The last of some respelled values stands behind the others. -/
theorem RespelledItems.of_concat
    {front : List Json}
    {last : Json}
    {items : List Json}
    (respelled : RespelledItems defaults (front ++ [last]) items) :
    ∃ others other, RespelledItems defaults front others ∧
      Respelling defaults last other ∧ items = others ++ [other] := by
  induction front generalizing items with
  | nil =>
      cases respelled with
      | cons first none =>
          cases none
          exact ⟨[], _, .nil, first, rfl⟩
  | cons item front hypothesis =>
      cases respelled with
      | cons first later =>
          rcases hypothesis later with ⟨others, other, respelledFront, respelledLast, rfl⟩
          exact ⟨_, other, .cons first respelledFront, respelledLast, rfl⟩

/-- Members that are kept keep their names and their order. -/
theorem RespelledMembers.sublist
    {members kept : List (String × Json)}
    (respelled : RespelledMembers defaults members kept) :
    (kept.map Prod.fst).Sublist (members.map Prod.fst) := by
  induction members generalizing kept with
  | nil =>
      cases respelled
      exact .slnil
  | cons member members hypothesis =>
      cases respelled with
      | keep _ later => exact (hypothesis later).cons_cons _
      | drop _ later => exact (hypothesis later).cons _

/-- A member is kept, respelled, or it is one that may be left out. -/
theorem RespelledMembers.kept_or_dropped
    {members kept : List (String × Json)}
    (respelled : RespelledMembers defaults members kept)
    (distinct : (members.map Prod.fst).Nodup)
    {member : String × Json}
    (isMember : member ∈ members) :
    (∃ other, Respelling defaults member.2 other ∧ (member.1, other) ∈ kept) ∨
      MayLack defaults member ∧ member.1 ∉ kept.map Prod.fst := by
  induction members generalizing kept with
  | nil => cases isMember
  | cons first members hypothesis =>
      rcases List.nodup_cons.1 distinct with ⟨fresh, distinctLater⟩
      cases respelled with
      | keep respelledFirst later =>
          rcases List.mem_cons.1 isMember with rfl | isLater
          · exact Or.inl ⟨_, respelledFirst, List.mem_cons_self⟩
          · rcases hypothesis later distinctLater isLater with
              ⟨other, respelledMember, isKept⟩ | ⟨mayLack, notKept⟩
            · exact Or.inl ⟨other, respelledMember, List.mem_cons_of_mem _ isKept⟩
            · refine Or.inr ⟨mayLack, ?_⟩
              rw [List.map_cons, List.mem_cons]
              rintro (same | isKept)
              · exact fresh (same ▸ List.mem_map_of_mem isLater)
              · exact notKept isKept
      | drop mayLack later =>
          rcases List.mem_cons.1 isMember with rfl | isLater
          · exact Or.inr ⟨mayLack, fun isKept => fresh (later.sublist.mem isKept)⟩
          · exact hypothesis later distinctLater isLater

/-! ## Drafts of values -/

mutual

/-- The draft of a value has no fault to meet. -/
theorem skip_draft : ∀ json, (draft json).skip = .ok ()
  | .null => rfl
  | .bool _ => rfl
  | .number _ => rfl
  | .text _ => rfl
  | .array items => by
      rw [draft, Draft.skip, skip_draftItems items]
      rfl
  | .object members => by
      rw [draft, Draft.skip, skip_draftMembers members]
      rfl

theorem skip_draftItems : ∀ items, skipItems (draftItems items) = .ok ()
  | [] => rfl
  | item :: items => by
      rw [draftItems, skipItems, skip_draft item]
      exact skip_draftItems items

theorem skip_draftMembers : ∀ members, skipMembers (draftMembers members) = .ok ()
  | [] => rfl
  | (_, value) :: members => by
      rw [draftMembers, skipMembers, skip_draft value]
      exact skip_draftMembers members

end

theorem draftItems_eq_map (items : List Json) : draftItems items = items.map draft := by
  induction items with
  | nil => rfl
  | cons item items hypothesis => rw [draftItems, hypothesis, List.map_cons]

end Json

/-! ## Looking members up -/

theorem member?_eq_none_iff {α : Type} {name : String} {members : List (String × α)} :
    member? name members = none ↔ name ∉ members.map Prod.fst := by
  induction members with
  | nil => simp
  | cons member members hypothesis =>
      rw [member?, List.map_cons, List.mem_cons, not_or, ← hypothesis]
      by_cases same : member.1 = name
      · simp [same]
      · simp [same, Ne.symm same]

theorem member?_eq_some_iff
    {α : Type}
    {name : String}
    {value : α}
    {members : List (String × α)}
    (distinct : (members.map Prod.fst).Nodup) :
    member? name members = some value ↔ (name, value) ∈ members := by
  constructor
  · exact mem_of_member?
  · intro isMember
    induction members with
    | nil => cases isMember
    | cons member members hypothesis =>
        rcases List.nodup_cons.1 distinct with ⟨fresh, distinctLater⟩
        rw [member?]
        rcases List.mem_cons.1 isMember with rfl | isLater
        · exact if_pos rfl
        · have different : member.1 ≠ name := by
            rintro rfl
            exact fresh (List.mem_map.2 ⟨_, isLater, rfl⟩)
          rw [if_neg different]
          exact hypothesis distinctLater isLater

namespace Decode

open UsageLedger.Json

/-! ## Reading respellings -/

/-- A decoder reads a value from all respellings of a JSON value. -/
def Reads {α : Type} (defaults : List (String × Json)) (decode : Decoder α) (json : Json)
    (value : α) : Prop :=
  ∀ other, Respelling defaults json other → ofJson decode other = .ok value

/-- A decoder reads a value from something that is there. -/
structure ReadsPart {α : Type} (defaults : List (String × Json)) (decode : Decoder α)
    (json : Json) (value : α) : Prop where
  notNull : json ≠ .null
  reads : Reads defaults decode json value

variable {defaults : List (String × Json)}

theorem reads_text (value : String) : ReadsPart defaults text (.text value) value where
  notNull := nofun
  reads other respelled := by
    cases respelled
    rfl

theorem reads_integer
    {low high value : Int}
    (lower : low ≤ value)
    (upper : value ≤ high) :
    ReadsPart defaults (integer low high) (.integer value) value where
  notNull := nofun
  reads other respelled := by
    cases respelled
    exact if_pos ⟨lower, upper⟩

theorem reads_natural {high value : Nat} (fits : value ≤ high) :
    ReadsPart defaults (natural high) (.natural value) value where
  notNull := nofun
  reads other respelled := by
    have asInteger : ReadsPart defaults (integer 0 high) (.integer value) (value : Int) :=
      reads_integer (Int.natCast_nonneg value) (Int.ofNat_le.2 fits)
    have read := asInteger.reads other respelled
    rw [ofJson] at read
    rw [ofJson, natural, read]
    rfl

theorem reads_real {value : Float} (finite : value.isFinite = true) :
    ReadsPart defaults real (.real value) value := by
  rw [Json.real, if_pos finite]
  refine ⟨nofun, fun other respelled => ?_⟩
  cases respelled
  rfl

/-- A name is read as what it is the name of. -/
theorem reads_choice
    {α : Type}
    {names : List (String × α)}
    {name : String}
    {value : α}
    (named : member? name names = some value) :
    ReadsPart defaults (choice names) (.text name) value where
  notNull := nofun
  reads other respelled := by
    cases respelled
    simp only [ofJson, draft, choice, named]

section Parts

variable
    {α : Type}
    {decode : Decoder α}
    {encode : α → Json}

/-- A value that is missing is written as null, and no other one is. -/
theorem reads_optional
    {value : Option α}
    (reads : ∀ part ∈ value, ReadsPart defaults decode (encode part) part) :
    Reads defaults (optional decode) (.optional encode value) value := by
  intro other respelled
  cases value with
  | none =>
      cases respelled
      rfl
  | some part =>
      rcases reads part rfl with ⟨notNull, readsPart⟩
      have otherNotNull := respelled.ne_null notNull
      have read := readsPart other respelled
      rw [ofJson] at read
      show optional decode (draft other) = .ok (some part)
      unfold optional
      split
      · rename_i isNull
        cases other <;> cases isNull
        exact absurd rfl otherNotNull
      · rw [read]
        rfl

theorem mapM_draftItems
    {values : List α}
    (reads : ∀ value ∈ values, ReadsPart defaults decode (encode value) value)
    {items : List Json}
    (respelled : RespelledItems defaults (values.map encode) items) :
    (draftItems items).mapM decode = .ok values := by
  induction values generalizing items with
  | nil =>
      cases respelled
      rfl
  | cons value values hypothesis =>
      rcases List.forall_mem_cons.1 reads with ⟨readsFirst, readsLater⟩
      cases respelled with
      | cons first later =>
          have read := readsFirst.reads _ first
          rw [ofJson] at read
          rw [draftItems, List.mapM_cons, read, hypothesis readsLater later]
          rfl

theorem reads_list
    {values : List α}
    (reads : ∀ value ∈ values, ReadsPart defaults decode (encode value) value) :
    ReadsPart defaults (list decode) (.array (values.map encode)) values where
  notNull := nofun
  reads other respelled := by
    cases respelled with
    | array respelledItems =>
        show ((draftItems _).mapM decode >>= _) = _
        rw [mapM_draftItems reads respelledItems]
        rfl

end Parts

/-! ## Structures -/

/-- Some members that were found say what a member of an encoding says. -/
inductive Says (defaults : List (String × Json)) (found : List (String × Draft))
    (member : String × Json) : Prop where
  | found {other : Json} :
      Respelling defaults member.2 other → member? member.1 found = some (draft other) →
        Says defaults found member
  | lacking : MayLack defaults member → member? member.1 found = none →
      Says defaults found member

/-- What checks a field accepts all respellings of a member with its name. -/
structure Accepts (defaults : List (String × Json))
    (field : String × (Draft → Except Fault Unit)) (member : String × Json) : Prop where
  name : field.1 = member.1
  check : ∀ other, Respelling defaults member.2 other → field.2 (draft other) = .ok ()

/-- A structure is read from members with values. -/
structure Shape.Spells {α : Type} (defaults : List (String × Json)) (shape : Shape α)
    (members : List (String × Json)) (value : α) : Prop where
  fields : List.Forall₂ (Accepts defaults) shape.fields members
  fromMembers : ∀ found, (∀ member ∈ members, Says defaults found member) →
    shape.fromMembers found = .ok value
  fromItems : ∀ items, RespelledItems defaults (members.map Prod.snd) items →
    ∀ rest ending, shape.fromItems (draftItems items ++ rest) ending = .ok (value, rest)

theorem Shape.spells_of {α : Type} (value : α) :
    (Shape.of value).Spells defaults [] value where
  fields := .nil
  fromMembers _ _ := rfl
  fromItems items respelled rest ending := by
    cases respelled
    rfl

section Field

variable
    {α β : Type}
    {shape : Shape (α → β)}
    {members : List (String × Json)}
    {build : α → β}
    (spells : shape.Spells defaults members build)

include spells

/-- A field is added with what it reads from its member, and from none where that may be lacking. -/
theorem Shape.Spells.with
    {field : RecordField α}
    {json : Json}
    {value : α}
    (reads : Reads defaults field.decode json value)
    (lacking : MayLack defaults (field.name, json) → field.missing = some value) :
    (shape.with field).Spells defaults (members ++ [(field.name, json)]) (build value) where
  fields := by
    refine List.rel_append spells.fields (.cons ⟨rfl, fun other respelled => ?_⟩ .nil)
    have read := reads other respelled
    rw [ofJson] at read
    show (field.decode (draft other)).map _ = _
    rw [read]
    rfl
  fromMembers found told := by
    have earlier := spells.fromMembers found
      fun member isMember => told member (List.mem_append_left _ isMember)
    have here : field.fromMembers found = .ok value := by
      cases told (field.name, json) (by simp) with
      | found respelled isFound => rw [RecordField.fromMembers, isFound, ← reads _ respelled]; rfl
      | lacking mayLack notFound =>
          rw [RecordField.fromMembers, notFound, lacking mayLack]
          rfl
    show (shape.fromMembers found >>= _) = _
    rw [earlier]
    show (field.fromMembers found >>= _) = _
    rw [here]
    rfl
  fromItems items respelled rest ending := by
    rw [List.map_append] at respelled
    rcases respelled.of_concat with ⟨others, other, respelledOthers, respelledOther, rfl⟩
    have earlier := spells.fromItems others respelledOthers (draft other :: rest) ending
    have read := reads other respelledOther
    rw [ofJson] at read
    have split : draftItems (others ++ [other]) ++ rest =
        draftItems others ++ draft other :: rest := by
      simp only [draftItems_eq_map, List.map_append, List.append_assoc, List.map_cons,
        List.map_nil, List.cons_append, List.nil_append]
    show (shape.fromItems (draftItems (others ++ [other]) ++ rest) ending >>= _) = _
    rw [split, earlier]
    show (((field.decode (draft other)).map fun value => (value, rest)) >>= _) = _
    rw [read]
    rfl

theorem Shape.Spells.defaulted
    {name : String}
    {decode : Decoder α}
    {json : Json}
    {value fallback : α}
    (reads : Reads defaults decode json value)
    (lacking : MayLack defaults (name, json) → value = fallback) :
    (shape.with (.defaulted name decode fallback)).Spells defaults
      (members ++ [(name, json)]) (build value) :=
  spells.with reads fun mayLack => congrArg some (lacking mayLack).symm

end Field

/-- A field that has to be there is never null. -/
theorem Shape.Spells.required
    {α β : Type}
    {shape : Shape (α → β)}
    {members : List (String × Json)}
    {build : α → β}
    (spells : shape.Spells [] members build)
    {name : String}
    {decode : Decoder α}
    {json : Json}
    {value : α}
    (part : ReadsPart [] decode json value) :
    (shape.with (.required name decode)).Spells [] (members ++ [(name, json)])
      (build value) := by
  refine spells.with part.reads fun mayLack => ?_
  rcases mayLack with isNull | isDefault
  · exact absurd isNull part.notNull
  · cases isDefault

/-- Without a default, a value that is lacking is one that is missing. -/
theorem eq_none_of_mayLack
    {α : Type}
    {name : String}
    (noDefault : name ∉ defaults.map Prod.fst)
    {decode : Decoder α}
    {encode : α → Json}
    {value : Option α}
    (reads : ∀ part ∈ value, ReadsPart defaults decode (encode part) part)
    (mayLack : MayLack defaults (name, .optional encode value)) :
    value = none := by
  cases value with
  | none => rfl
  | some part =>
      rcases mayLack with isNull | isDefault
      · exact absurd isNull (reads part rfl).notNull
      · exact absurd (List.mem_map.2 ⟨_, isDefault, rfl⟩) noDefault

/-- A number that is lacking is the default. -/
theorem eq_default_of_mayLack
    {name : String}
    {value fallback : Nat}
    (isDefault : ∀ json, (name, json) ∈ defaults → json = .natural fallback)
    (mayLack : MayLack defaults (name, .natural value)) :
    value = fallback := by
  rcases mayLack with isNull | isMember
  · cases isNull
  · have same := isDefault _ isMember
    simp only [Json.natural, Json.number.injEq, Number.integer.injEq] at same
    exact Int.ofNat_inj.1 same

/-- A field that may be missing is lacking only where it is. -/
theorem Shape.Spells.optional
    {α β : Type}
    {shape : Shape (Option α → β)}
    {members : List (String × Json)}
    {build : Option α → β}
    (spells : shape.Spells defaults members build)
    {name : String}
    (noDefault : name ∉ defaults.map Prod.fst)
    {decode : Decoder α}
    {encode : α → Json}
    {value : Option α}
    (reads : ∀ part ∈ value, ReadsPart defaults decode (encode part) part) :
    (shape.with (.optional name decode)).Spells defaults
      (members ++ [(name, .optional encode value)]) (build value) :=
  spells.with (reads_optional reads) fun mayLack =>
    congrArg some (eq_none_of_mayLack noDefault reads mayLack).symm

section Whole

variable
    {members kept unknown given : List (String × Json)}

/-- The members of an object that have the names of fields. -/
def known (members given : List (String × Json)) : List (String × Json) :=
  given.filter fun member => member.1 ∈ members.map Prod.fst

/-- The known members are those that were kept, in another order. -/
theorem perm_known
    (respelled : RespelledMembers defaults members kept)
    (others : ∀ member ∈ unknown, member.1 ∉ members.map Prod.fst)
    (perm : given.Perm (kept ++ unknown)) :
    (known members given).Perm kept := by
  have keptKnown : (kept.filter fun member => member.1 ∈ members.map Prod.fst) = kept := by
    rw [List.filter_eq_self]
    intro member isKept
    exact decide_eq_true (respelled.sublist.mem (List.mem_map_of_mem isKept))
  have unknownLeft :
      (unknown.filter fun member => member.1 ∈ members.map Prod.fst) = [] := by
    rw [List.filter_eq_nil_iff]
    intro member isUnknown
    simpa using others member isUnknown
  have filtered := perm.filter fun member => member.1 ∈ members.map Prod.fst
  rwa [List.filter_append, keptKnown, unknownLeft, List.append_nil] at filtered

/-- A field is found by a name exactly when there is a member with it, and accepts that one. -/
theorem member?_fields
    {fields : List (String × (Draft → Except Fault Unit))}
    (accepts : List.Forall₂ (Accepts defaults) fields members)
    (name : String) :
    member? name fields = none ∧ name ∉ members.map Prod.fst ∨
      ∃ check json, member? name fields = some check ∧ (name, json) ∈ members ∧
        ∀ other, Respelling defaults json other → check (draft other) = .ok () := by
  induction accepts with
  | nil => exact Or.inl ⟨rfl, List.not_mem_nil⟩
  | @cons field member fields members accepted _ hypothesis =>
      rcases field with ⟨fieldName, check⟩
      rcases member with ⟨memberName, json⟩
      obtain rfl : fieldName = memberName := accepted.name
      rw [member?]
      by_cases same : fieldName = name
      · subst same
        exact Or.inr ⟨check, json, if_pos rfl, List.mem_cons_self, accepted.check⟩
      · rw [if_neg same]
        rcases hypothesis with ⟨notFound, fresh⟩ | ⟨found, value, isFound, isMember, accepts⟩
        · refine Or.inl ⟨notFound, ?_⟩
          rw [List.map_cons, List.mem_cons, not_or]
          exact ⟨Ne.symm same, fresh⟩
        · exact Or.inr ⟨found, value, isFound, List.mem_cons_of_mem _ isMember, accepts⟩

section Member

variable
    {fields : List (String × (Draft → Except Fault Unit))}
    {seen : List String}
    {name : String}
    {rest : List (Option String × Draft)}

theorem knownMembers_cons_of_none
    (notFound : member? name fields = none)
    (json : Json) :
    knownMembers fields seen ((some name, draft json) :: rest) =
      knownMembers fields seen rest := by
  simp only [knownMembers, orMalformed, bind, Except.bind, notFound, skip_draft]

theorem knownMembers_cons_of_some
    {check : Draft → Except Fault Unit}
    (found : member? name fields = some check)
    (notSeen : name ∉ seen)
    {value : Draft}
    (accepted : check value = .ok ()) :
    knownMembers fields seen ((some name, value) :: rest) =
      (knownMembers fields (name :: seen) rest).map ((name, value) :: ·) := by
  simp only [knownMembers, orMalformed, bind, Except.bind, found, if_neg notSeen, accepted]
  cases knownMembers fields (name :: seen) rest <;> rfl

end Member

/-- Members with known names, each once and each accepted, are found; the others are skipped. -/
theorem knownMembers_draftMembers
    {fields : List (String × (Draft → Except Fault Unit))}
    (accepts : List.Forall₂ (Accepts defaults) fields members)
    (respelled : ∀ member ∈ given, ∀ json, (member.1, json) ∈ members →
      Respelling defaults json member.2)
    {seen : List String}
    (distinct : ((known members given).map Prod.fst).Nodup)
    (fresh : ∀ name ∈ seen, name ∉ (known members given).map Prod.fst) :
    knownMembers fields seen (draftMembers given) =
      .ok ((known members given).map fun member => (member.1, draft member.2)) := by
  induction given generalizing seen with
  | nil => rfl
  | cons member given hypothesis =>
      rcases member with ⟨name, other⟩
      rcases List.forall_mem_cons.1 respelled with ⟨respelledFirst, respelledLater⟩
      rw [draftMembers]
      rcases member?_fields accepts name with
        ⟨notFound, notKnown⟩ | ⟨check, json, found, isMember, accepted⟩
      · have left : known members ((name, other) :: given) = known members given :=
          List.filter_cons_of_neg (by simpa using notKnown)
        rw [left] at distinct fresh ⊢
        rw [knownMembers_cons_of_none notFound]
        exact hypothesis respelledLater distinct fresh
      · have isKnown : name ∈ members.map Prod.fst := List.mem_map.2 ⟨_, isMember, rfl⟩
        have right : known members ((name, other) :: given) =
            (name, other) :: known members given :=
          List.filter_cons_of_pos (decide_eq_true isKnown)
        rw [right, List.map_cons] at distinct fresh
        rcases List.nodup_cons.1 distinct with ⟨once, distinctLater⟩
        have notSeen : name ∉ seen := fun isSeen => fresh name isSeen List.mem_cons_self
        have freshLater : ∀ other ∈ name :: seen,
            other ∉ (known members given).map Prod.fst := by
          rw [List.forall_mem_cons]
          exact ⟨once, fun other isSeen isLater =>
            fresh other isSeen (List.mem_cons_of_mem _ isLater)⟩
        have accepts := accepted other (respelledFirst json isMember)
        rw [right, knownMembers_cons_of_some found notSeen accepts,
          hypothesis respelledLater distinctLater freshLater]
        rfl

variable
    {α : Type}
    {shape : Shape α}
    {value : α}

theorem Shape.Spells.names_eq (spells : shape.Spells defaults members value) :
    members.map Prod.fst = shape.fields.map Prod.fst := by
  have accepts := spells.fields
  clear spells
  generalize shape.fields = fields at accepts
  induction accepts with
  | nil => rfl
  | cons accepted _ hypothesis => rw [List.map_cons, List.map_cons, accepted.name, hypothesis]

/-- A structure whose fields have distinct names is read from all respellings. -/
theorem Shape.Spells.reads
    (spells : shape.Spells defaults members value)
    (distinctFields : (shape.fields.map Prod.fst).Nodup) :
    ReadsPart defaults shape.decode (.object members) value := by
  refine ⟨nofun, ?_⟩
  have distinct : (members.map Prod.fst).Nodup := spells.names_eq ▸ distinctFields
  intro other respelled
  cases respelled with
  | @object _ kept unknown given respelledMembers others perm =>
      have permKnown := perm_known respelledMembers others perm
      have permNames := permKnown.map Prod.fst
      have keptOnce : (kept.map Prod.fst).Nodup := respelledMembers.sublist.nodup distinct
      have once : ((known members given).map Prod.fst).Nodup := permNames.nodup_iff.2 keptOnce
      have eachRespelled : ∀ member ∈ given, ∀ json, (member.1, json) ∈ members →
          Respelling defaults json member.2 := by
        intro member isGiven json isMember
        have isKnown : member ∈ known members given :=
          List.mem_filter.2 ⟨isGiven, decide_eq_true (List.mem_map.2 ⟨_, isMember, rfl⟩)⟩
        have isKept := permKnown.mem_iff.1 isKnown
        rcases respelledMembers.kept_or_dropped distinct isMember with
          ⟨otherToo, respelled, isKeptToo⟩ | ⟨-, notKept⟩
        · have first := (member?_eq_some_iff keptOnce).2 isKept
          have second := (member?_eq_some_iff keptOnce).2 isKeptToo
          rw [first] at second
          cases second
          exact respelled
        · exact absurd (List.mem_map_of_mem isKept) notKept
      have noneSeen : ∀ name ∈ ([] : List String),
          name ∉ (known members given).map Prod.fst := by
        simp
      have found := knownMembers_draftMembers spells.fields eachRespelled once noneSeen
      have draftNames :
          ((known members given).map fun member => (member.1, draft member.2)).map Prod.fst =
            (known members given).map Prod.fst := by
        rw [List.map_map]
        rfl
      have told : ∀ member ∈ members, Says defaults
          ((known members given).map fun member => (member.1, draft member.2)) member := by
        intro member isMember
        rcases respelledMembers.kept_or_dropped distinct isMember with
          ⟨other, respelled, isKept⟩ | ⟨mayLack, notKept⟩
        · refine .found respelled ((member?_eq_some_iff (draftNames ▸ once)).2 ?_)
          exact List.mem_map.2 ⟨_, permKnown.mem_iff.2 isKept, rfl⟩
        · refine .lacking mayLack (member?_eq_none_iff.2 ?_)
          rw [draftNames, permNames.mem_iff]
          exact notKept
      show (knownMembers shape.fields [] (draftMembers given) >>= _) = _
      rw [found]
      exact spells.fromMembers _ told
  | @inOrder _ items respelledItems =>
      have read := spells.fromItems items respelledItems [] .closed
      rw [List.append_nil] at read
      show (shape.fromItems (draftItems items) .closed >>= _) = _
      rw [read]
      rfl

end Whole

end Decode

end UsageLedger
