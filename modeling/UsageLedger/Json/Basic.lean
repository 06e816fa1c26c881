/-!
# JSON values

A JSON number is an exact integer or a double; the members of an object keep
the order they were given in.  `Json.member?` finds the value under a name and
`insertMember` replaces one in place.
-/

namespace UsageLedger

/-- A number of a JSON text. -/
inductive Number where
  | integer (value : Int)
  | real (value : Float)

/-- A JSON value. -/
inductive Json where
  | null
  | bool (value : Bool)
  | number (value : Number)
  | text (value : String)
  | array (items : List Json)
  | object (members : List (String × Json))

instance : Inhabited Json := ⟨Json.null⟩

/-- A natural number as JSON. -/
def Json.natural (value : Nat) : Json :=
  .number (.integer value)

def Json.integer (value : Int) : Json :=
  .number (.integer value)

/-- A double as JSON; one that is not finite has no JSON form and becomes null. -/
def Json.real (value : Float) : Json :=
  if value.isFinite then .number (.real value) else .null

/-- An optional value as JSON, null when it is missing. -/
def Json.optional {α : Type} (encode : α → Json) : Option α → Json
  | none => .null
  | some value => encode value

/-- The value under a name in a list of members, the first if there are several. -/
def member? {α : Type} (name : String) : List (String × α) → Option α
  | [] => none
  | (key, value) :: rest => if key = name then some value else member? name rest

/-- The value under a name in an object. -/
def Json.member? (json : Json) (name : String) : Option Json :=
  match json with
  | .object members => UsageLedger.member? name members
  | _ => none

/-- Puts a value under a name, in the place of an earlier one with that name. -/
def insertMember {α : Type} (name : String) (value : α) :
    List (String × α) → List (String × α)
  | [] => [(name, value)]
  | (key, old) :: rest =>
    if key = name then (name, value) :: rest
    else (key, old) :: insertMember name value rest

theorem mem_of_member?
    {α : Type}
    {name : String}
    {value : α}
    {members : List (String × α)}
    (found : member? name members = some value) :
    (name, value) ∈ members := by
  induction members with
  | nil => cases found
  | cons entry rest hypothesis =>
      rw [member?] at found
      split at found
      · next same =>
          cases found
          rw [← same]
          exact List.mem_cons_self
      · exact List.mem_cons_of_mem _ (hypothesis found)

@[simp]
theorem member?_nil {α : Type} (name : String) :
    member? name ([] : List (String × α)) = none := rfl

@[simp]
theorem member?_insertMember_self
    {α : Type}
    (name : String)
    (value : α)
    (members : List (String × α)) :
    member? name (insertMember name value members) = some value := by
  induction members with
  | nil => simp [insertMember, member?]
  | cons entry rest hypothesis =>
    obtain ⟨key, old⟩ := entry
    by_cases same : key = name
    · simp [insertMember, member?, same]
    · simp [insertMember, member?, same, hypothesis]

theorem member?_insertMember_of_ne
    {α : Type}
    {name other : String}
    (different : other ≠ name)
    (value : α)
    (members : List (String × α)) :
    member? other (insertMember name value members) =
      member? other members := by
  induction members with
  | nil => simp [insertMember, member?, different.symm]
  | cons entry rest hypothesis =>
    obtain ⟨key, old⟩ := entry
    by_cases same : key = name
    · subst same
      simp [insertMember, member?, different.symm]
    · by_cases found : key = other
      · subst found
        simp [insertMember, member?, different]
      · simp [insertMember, member?, same, found, hypothesis]

end UsageLedger
