/-
**How deep a JSON value is nested.**

* `Json.depth`: the number of containers around the innermost place, empty containers counted;
* `Json.isFloatFree`: no number in the value is a floating point number;
* `depth_canonical_le`: the canonical form of a value is nested no deeper.
-/

import StoreTopology.Json.Basic

namespace StoreTopology.Json

mutual

/-- How many containers are nested in each other, empty ones counted. -/
def depth : Json → Nat
  | .array elements => elementsDepth elements + 1
  | .object members => membersDepth members + 1
  | .null | .bool _ | .number _ | .string _ => 0

/-- The depth of the deepest element. -/
def elementsDepth : List Json → Nat
  | [] => 0
  | element :: rest => max element.depth (elementsDepth rest)

/-- The depth of the deepest member. -/
def membersDepth : List (String × Json) → Nat
  | [] => 0
  | (_, value) :: rest => max value.depth (membersDepth rest)

end

mutual

/-- No number in the value is a floating point number. -/
def isFloatFree : Json → Bool
  | .number (.float _) => false
  | .array elements => elementsFloatFree elements
  | .object members => membersFloatFree members
  | .null | .bool _ | .number (.integer _ _) | .string _ => true

def elementsFloatFree : List Json → Bool
  | [] => true
  | element :: rest => element.isFloatFree && elementsFloatFree rest

def membersFloatFree : List (String × Json) → Bool
  | [] => true
  | (_, value) :: rest => value.isFloatFree && membersFloatFree rest

end

theorem elementsDepth_le {elements : List Json} {bound : Nat} :
    elementsDepth elements ≤ bound ↔ ∀ element ∈ elements, element.depth ≤ bound := by
  induction elements with
  | nil => simp [elementsDepth]
  | cons element rest ih => rw [elementsDepth, Nat.max_le, ih, List.forall_mem_cons]

theorem membersDepth_le {members : List (String × Json)} {bound : Nat} :
    membersDepth members ≤ bound ↔ ∀ member ∈ members, member.2.depth ≤ bound := by
  induction members with
  | nil => simp [membersDepth]
  | cons member rest ih => rw [membersDepth, Nat.max_le, ih, List.forall_mem_cons]

mutual

/-- The canonical form of a value is nested no deeper. -/
theorem depth_canonical_le : (value : Json) → value.canonical.depth ≤ value.depth
  | .null => by simp only [canonical, Nat.le_refl]
  | .bool _ => by simp only [canonical, Nat.le_refl]
  | .number _ => by simp only [canonical, Nat.le_refl]
  | .string _ => by simp only [canonical, Nat.le_refl]
  | .array elements => by
    rw [canonical, depth, depth]
    exact Nat.succ_le_succ (elementsDepth_canonicalElements_le elements)
  | .object members => by
    rw [canonical, depth, depth]
    refine Nat.succ_le_succ (membersDepth_le.mpr fun member present => ?_)
    exact membersDepth_le.mp (membersDepth_canonicalMembers_le members) member
      (SortedMap.mem_of_mem_ofList present)

theorem elementsDepth_canonicalElements_le : (elements : List Json) →
    elementsDepth (canonicalElements elements) ≤ elementsDepth elements
  | [] => Nat.le_refl _
  | element :: rest => by
    have first := depth_canonical_le element
    have others := elementsDepth_canonicalElements_le rest
    rw [canonicalElements, elementsDepth, elementsDepth]
    omega

theorem membersDepth_canonicalMembers_le : (members : List (String × Json)) →
    membersDepth (canonicalMembers members) ≤ membersDepth members
  | [] => Nat.le_refl _
  | (name, value) :: rest => by
    have first := depth_canonical_le value
    have others := membersDepth_canonicalMembers_le rest
    rw [canonicalMembers, membersDepth, membersDepth]
    omega

end

end StoreTopology.Json

namespace StoreTopology.Records

/-- Records of the members of an object are nested no deeper than the object. -/
theorem depth_toJson_ofMembers_le (members : List (String × Json)) :
    (ofMembers members).toJson.depth ≤ (Json.object members).depth := by
  rw [toJson, Json.depth, Json.depth]
  refine Nat.succ_le_succ (Json.membersDepth_le.mpr fun member present => ?_)
  obtain ⟨entry, inside, rfl⟩ := List.mem_map.mp present
  obtain ⟨original, within, rfl⟩ := List.mem_map.mp (SortedMap.mem_of_mem_ofList inside)
  exact Nat.le_trans (Json.depth_canonical_le original.2)
    (Json.membersDepth_le.mp (Nat.le_refl _) original within)

end StoreTopology.Records
