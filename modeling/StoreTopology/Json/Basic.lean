/-
**JSON values.**

A value is a tree whose objects are lists of members, as a text gives them. Two members of an object
may have one name; the canonical form of a value keeps the last of them and sorts members by
name.

* `Json.canonical_canonical`: the canonical form is its own canonical form;
* `Record`: a value in canonical form, which is what storages keep.
-/

import StoreTopology.Binary64.Basic
import StoreTopology.SortedMap

namespace StoreTopology

/-- The whole numbers that are kept exactly: those of 64 bits, signed or unsigned, from `-2 ^ 63` up
to below `2 ^ 64`. -/
def IsExactInteger (value : Int) : Prop :=
  -0x8000000000000000 ≤ value ∧ value < 0x10000000000000000

instance (value : Int) : Decidable (IsExactInteger value) := inferInstanceAs (Decidable (_ ∧ _))

/-- A number is an integer of limited size or a binary floating point number. -/
inductive JsonNumber where
  | integer (value : Int) (exact : IsExactInteger value)
  | float (value : Binary64)
deriving DecidableEq, Repr

/-- A JSON value. -/
inductive Json where
  | null
  | bool (value : Bool)
  | number (value : JsonNumber)
  | string (text : String)
  | array (elements : List Json)
  | object (members : List (String × Json))
deriving Repr

namespace Json

/-! ### Equality -/

mutual

/-- Equality of values is decided along the tree. -/
def decideEq : (first second : Json) → Decidable (first = second)
  | .null, .null => isTrue rfl
  | .bool value, .bool value' => decidable_of_iff (value = value') (by simp)
  | .number value, .number value' => decidable_of_iff (value = value') (by simp)
  | .string text, .string text' => decidable_of_iff (text = text') (by simp)
  | .array elements, .array elements' =>
    match decideEqElements elements elements' with
    | isTrue same => isTrue (by rw [same])
    | isFalse differ => isFalse fun same => differ (Json.array.inj same)
  | .object members, .object members' =>
    match decideEqMembers members members' with
    | isTrue same => isTrue (by rw [same])
    | isFalse differ => isFalse fun same => differ (Json.object.inj same)
  | .null, .bool _ | .null, .number _ | .null, .string _ | .null, .array _ | .null, .object _
  | .bool _, .null | .bool _, .number _ | .bool _, .string _ | .bool _, .array _
  | .bool _, .object _ | .number _, .null | .number _, .bool _ | .number _, .string _
  | .number _, .array _ | .number _, .object _ | .string _, .null | .string _, .bool _
  | .string _, .number _ | .string _, .array _ | .string _, .object _ | .array _, .null
  | .array _, .bool _ | .array _, .number _ | .array _, .string _ | .array _, .object _
  | .object _, .null | .object _, .bool _ | .object _, .number _ | .object _, .string _
  | .object _, .array _ => isFalse (by simp)

/-- Equality of the elements of two arrays. -/
def decideEqElements : (first second : List Json) → Decidable (first = second)
  | [], [] => isTrue rfl
  | [], _ :: _ => isFalse (by simp)
  | _ :: _, [] => isFalse (by simp)
  | head :: rest, head' :: rest' =>
    match decideEq head head' with
    | isTrue same =>
      match decideEqElements rest rest' with
      | isTrue sameRest => isTrue (by rw [same, sameRest])
      | isFalse differ => isFalse fun equal => differ (List.cons.inj equal).2
    | isFalse differ => isFalse fun equal => differ (List.cons.inj equal).1

/-- Equality of the members of two objects. -/
def decideEqMembers : (first second : List (String × Json)) → Decidable (first = second)
  | [], [] => isTrue rfl
  | [], _ :: _ => isFalse (by simp)
  | _ :: _, [] => isFalse (by simp)
  | (name, value) :: rest, (name', value') :: rest' =>
    if names : name = name' then
      match decideEq value value' with
      | isTrue same =>
        match decideEqMembers rest rest' with
        | isTrue sameRest => isTrue (by rw [names, same, sameRest])
        | isFalse differ => isFalse fun equal => differ (List.cons.inj equal).2
      | isFalse differ => isFalse fun equal => differ (Prod.mk.inj (List.cons.inj equal).1).2
    else isFalse fun equal => names (Prod.mk.inj (List.cons.inj equal).1).1

end

instance : DecidableEq Json := decideEq

instance : Inhabited Json := ⟨.null⟩

/-! ### Integers -/

/-- An unsigned word as a value. -/
def ofUInt64 (value : UInt64) : Json :=
  .number (.integer value.toNat (by have := value.toNat_lt; constructor <;> omega))

/-- A signed word as a value. -/
def ofInt64 (value : Int64) : Json :=
  .number (.integer value.toInt (by
    have := value.le_toInt
    have := value.toInt_lt
    constructor <;> omega))

/-- A half word as a value. -/
def ofUInt32 (value : UInt32) : Json :=
  .number (.integer value.toNat (by have := value.toNat_lt; constructor <;> omega))

/-! ### Canonical form -/

mutual

/-- The value with the members of its objects sorted by name, the last of equal names kept. -/
def canonical : Json → Json
  | .array elements => .array (canonicalElements elements)
  | .object members => .object (SortedMap.ofList (canonicalMembers members)).entries
  | .null => .null
  | .bool value => .bool value
  | .number value => .number value
  | .string text => .string text

/-- The elements of an array in canonical form. -/
def canonicalElements : List Json → List Json
  | [] => []
  | element :: rest => element.canonical :: canonicalElements rest

/-- The members of an object with their values in canonical form. -/
def canonicalMembers : List (String × Json) → List (String × Json)
  | [] => []
  | (name, value) :: rest => (name, value.canonical) :: canonicalMembers rest

end

theorem canonicalMembers_eq_map (members : List (String × Json)) :
    canonicalMembers members = members.map fun member => (member.1, member.2.canonical) := by
  induction members with
  | nil => rfl
  | cons member rest ih => rw [canonicalMembers, ih, List.map_cons]

mutual

/-- The canonical form is its own canonical form. -/
theorem canonical_canonical : (value : Json) → value.canonical.canonical = value.canonical
  | .null => by simp only [canonical]
  | .bool _ => by simp only [canonical]
  | .number _ => by simp only [canonical]
  | .string _ => by simp only [canonical]
  | .array elements => by
    rw [canonical, canonical, canonicalElements_canonicalElements elements]
  | .object members => by
    rw [canonical, canonical]
    have fixed : canonicalMembers (SortedMap.ofList (canonicalMembers members)).entries =
        (SortedMap.ofList (canonicalMembers members)).entries := by
      rw [canonicalMembers_eq_map]
      refine (List.map_congr_left fun member present => ?_).trans (List.map_id _)
      have settled := canonicalMembers_canonical members member
        (SortedMap.mem_of_mem_ofList present)
      rw [settled]
      rfl
    rw [fixed, SortedMap.ofList_entries]

theorem canonicalElements_canonicalElements : (elements : List Json) →
    canonicalElements (canonicalElements elements) = canonicalElements elements
  | [] => rfl
  | element :: rest => by
    rw [canonicalElements, canonicalElements, canonical_canonical element,
      canonicalElements_canonicalElements rest]

theorem canonicalMembers_canonical : (members : List (String × Json)) →
    ∀ member ∈ canonicalMembers members, member.2.canonical = member.2
  | [] => by simp [canonicalMembers]
  | (name, value) :: rest => by
    intro member present
    rw [canonicalMembers, List.mem_cons] at present
    rcases present with rfl | later
    · exact canonical_canonical value
    · exact canonicalMembers_canonical rest member later

end

/-- The value of a member of an object. -/
def member? (name : String) : Json → Option Json
  | .object members => SortedMap.findEntry name members
  | _ => none

/-- The object with the members of a list, sorted by name. -/
def ofMembers (members : List (String × Json)) : Json :=
  .object (SortedMap.ofList members).entries

end Json

/-! ### Records -/

/-- A JSON value in canonical form. -/
structure Record where
  json : Json
  isCanonical : json.canonical = json
deriving DecidableEq

namespace Record

/-- The canonical form of a value. -/
def ofJson (json : Json) : Record := ⟨json.canonical, json.canonical_canonical⟩

@[simp] theorem ofJson_json (record : Record) : ofJson record.json = record := by
  cases record with
  | mk json isCanonical => simp only [ofJson, isCanonical]

instance : Inhabited Record := ⟨⟨.null, by simp only [Json.canonical]⟩⟩

end Record

/-- Records by key. -/
abbrev Records := SortedMap String Record

namespace Records

/-- The records as the members of an object. -/
def toJson (records : Records) : Json :=
  .object (records.entries.map fun entry => (entry.1, entry.2.json))

/-- The records that the members of an object make. -/
def ofMembers (members : List (String × Json)) : Records :=
  .ofList (members.map fun member => (member.1, .ofJson member.2))

end Records

end StoreTopology
