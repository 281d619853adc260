/-
**Settings are read back from their descriptions.**

* `Json.member?_ofMembers`, `Json.canonical_ofMembers`: what is found in an object that was made
  from members with different names, and its canonical form;
* `decodeFields_of_fits`: settings are read from such an object if each field has a member that fits
  it, whatever other members there are;
* `DatabaseSettings.ofJson_ofMembers`, `FileSettings.ofJson_ofMembers`: the settings of databases and
  of file storages are read back from the members that describe them, with others beside them.
-/

import Mathlib.Data.List.Nodup
import StoreTopology.Proofs.Action
import StoreTopology.Settings.Database
import StoreTopology.Settings.File

namespace StoreTopology

/-! ### Entries with different keys -/

namespace SortedMap

variable {κ α : Type} [DecidableEq κ] {key : κ} {value : α} {list : List (κ × α)}

/-- Among entries with different keys, each is found under its key. -/
theorem findEntry_eq_some_of_nodup (differ : (list.map Prod.fst).Nodup) :
    findEntry key list = some value ↔ (key, value) ∈ list := by
  induction list with
  | nil => simp [findEntry]
  | cons entry rest ih =>
    rw [List.map_cons, List.nodup_cons] at differ
    obtain ⟨apart, differRest⟩ := differ
    rw [findEntry, List.mem_cons]
    split
    · next hit =>
      subst hit
      have notLater : (entry.1, value) ∉ rest := fun later => apart (List.mem_map.mpr ⟨_, later, rfl⟩)
      simp [notLater, Prod.ext_iff, eq_comm]
    · next miss =>
      have notHere : (key, value) ≠ entry := fun same => miss (same ▸ rfl)
      rw [ih differRest]
      simp [notHere]

variable [LT κ] [DecidableLT κ] [LE κ] [Std.IsLinearOrder κ] [Std.LawfulOrderLT κ]

/-- The map of entries with different keys finds each of them. -/
theorem get?_ofList_of_nodup (differ : (list.map Prod.fst).Nodup) :
    (ofList list).get? key = some value ↔ (key, value) ∈ list := by
  have reversed : (list.reverse.map Prod.fst).Nodup := by
    rw [List.map_reverse, List.nodup_reverse]
    exact differ
  rw [ofList, get?_insertAll, get?_empty, Option.or_none, findEntry_eq_some_of_nodup reversed,
    List.mem_reverse]

/-- The map of entries with different keys has just these entries. -/
theorem entries_ofList_perm (differ : (list.map Prod.fst).Nodup) :
    (ofList list).entries.Perm list := by
  have distinct : (ofList list).entries.Nodup := (ofList list).keys_nodup.of_map
  refine (List.perm_ext_iff_of_nodup distinct differ.of_map).mpr fun entry => ?_
  rw [← get?_ofList_of_nodup differ]
  exact mem_entries

end SortedMap

/-! ### Members of objects -/

namespace Json

variable {members : List (String × Json)} {name : String} {value : Json}

/-- In an object made from members with different names, each is found under its name. -/
theorem member?_ofMembers (differ : (members.map Prod.fst).Nodup) :
    (ofMembers members).member? name = some value ↔ (name, value) ∈ members :=
  SortedMap.get?_ofList_of_nodup differ

/-- Nothing is found there under another name. -/
theorem member?_ofMembers_eq_none (differ : (members.map Prod.fst).Nodup)
    (absent : name ∉ members.map Prod.fst) : (ofMembers members).member? name = none := by
  refine Option.eq_none_iff_forall_ne_some.mpr fun value found => absent ?_
  exact List.mem_map_of_mem ((member?_ofMembers differ).mp found)

/-- The canonical form of such an object has the canonical forms of its members. -/
theorem canonical_ofMembers (differ : (members.map Prod.fst).Nodup) :
    ∃ entries, (ofMembers members).canonical = .object entries ∧
      entries.Perm (members.map fun member => (member.1, member.2.canonical)) := by
  refine ⟨_, by rw [ofMembers, canonical, canonicalMembers_eq_map], ?_⟩
  have same := (SortedMap.entries_ofList_perm differ).map fun member => (member.1, member.2.canonical)
  refine (SortedMap.entries_ofList_perm ?_).trans same
  rw [List.map_map]
  exact (SortedMap.ofList members).keys_nodup

end Json

/-! ### Reading fields -/

/-- A member of an object is one that a field can be read from. -/
def FieldCheck.Fits (field : FieldCheck) (member : String × Json) : Prop :=
  field.name = member.1 ∧ field.check member.2.canonical = .ok ()

/-- Members of an object pass the check of fields if each of them passes that of its field. -/
theorem checkMembers_eq_ok {fields : List FieldCheck} {members : List (String × Json)}
    (pass : ∀ member ∈ members, ∀ field ∈ fields, field.name = member.1 →
      field.check member.2 = .ok ()) : checkMembers fields members = .ok () := by
  induction members with
  | nil => rfl
  | cons member rest ih =>
    obtain ⟨first, later⟩ := List.forall_mem_cons.mp pass
    rw [checkMembers]
    cases found : fields.find? fun field => field.name = member.1 with
    | none => exact ih later
    | some field =>
      have named : field.name = member.1 := by
        simpa using List.find?_some found
      dsimp only
      rw [first field (List.mem_of_find?_eq_some found) named]
      exact ih later

section Fitting

variable {fields : List FieldCheck} {members others : List (String × Json)}

theorem exists_fits (fit : List.Forall₂ FieldCheck.Fits fields members) {field : FieldCheck}
    (isField : field ∈ fields) : ∃ own ∈ members, field.Fits own := by
  induction fit with
  | nil => exact absurd isField List.not_mem_nil
  | @cons first member later rest fits _ ih =>
    rcases List.mem_cons.mp isField with rfl | isLater
    · exact ⟨member, List.mem_cons_self, fits⟩
    · obtain ⟨own, isOwn, ownFits⟩ := ih isLater
      exact ⟨own, List.mem_cons_of_mem member isOwn, ownFits⟩

/-- If each field has a member that fits it, no other member is taken for a field. -/
theorem check_of_fits (fit : List.Forall₂ FieldCheck.Fits fields members)
    (differ : ((members ++ others).map Prod.fst).Nodup) {member : String × Json}
    (present : member ∈ members ++ others) {field : FieldCheck} (isField : field ∈ fields)
    (named : field.name = member.1) : field.check member.2.canonical = .ok () := by
  obtain ⟨own, isOwn, ownName, passes⟩ := exists_fits fit isField
  have isMember : own ∈ members ++ others := List.mem_append_left others isOwn
  cases List.inj_on_of_nodup_map differ isMember present (ownName.symm.trans named)
  exact passes

/-- Settings are read from an object that has a fitting member for each field. Its other members do
not matter. -/
theorem decodeFields_of_fits {α : Type} {settings : String}
    {build : (String → Option Json) → Except DecodeProblem α} {result : Except DecodeProblem α}
    (fit : List.Forall₂ FieldCheck.Fits fields members)
    (differ : ((members ++ others).map Prod.fst).Nodup)
    (builds : ∀ look : String → Option Json,
      (∀ member ∈ members, look member.1 = some member.2.canonical) → build look = result) :
    decodeFields settings fields build (.ofMembers (members ++ others)) = result := by
  obtain ⟨entries, isCanonical, same⟩ := Json.canonical_ofMembers differ
  have differCanonical : (entries.map Prod.fst).Nodup := by
    rw [(same.map Prod.fst).nodup_iff, List.map_map]
    exact differ
  have checked : checkMembers fields entries = .ok () := by
    refine checkMembers_eq_ok fun member present field isField named => ?_
    obtain ⟨own, isOwn, rfl⟩ := List.mem_map.mp (same.mem_iff.mp present)
    exact check_of_fits fit differ isOwn isField named
  unfold decodeFields
  rw [isCanonical]
  dsimp only
  rw [checked]
  refine builds _ fun member present => ?_
  refine (SortedMap.findEntry_eq_some_of_nodup differCanonical).mpr (same.mem_iff.mpr ?_)
  exact List.mem_map_of_mem (List.mem_append_left others present)

end Fitting

/-! ### Reading single values -/

namespace Decoder

variable {α : Type} {decoder : Decoder α} {name : String} {json : Json} {value : α}

/-- A member fits a field under its name that can be read from it. -/
theorem fits (reads : decoder json.canonical = .ok value) :
    (decoder.checks name).Fits (name, json) := by
  refine ⟨rfl, ?_⟩
  show (decoder json.canonical).map _ = _
  rw [reads]
  rfl

theorem requiredField_eq_ok {look : String → Option Json} (found : look name = some json)
    (reads : decoder json = .ok value) : requiredField look name decoder = .ok value := by
  rw [requiredField, found]
  exact reads

theorem optionalField_eq_ok {look : String → Option Json} {value : Option α}
    (found : look name = some json) (reads : decoder.nullable json = .ok value) :
    optionalField look name decoder = .ok value := by
  rw [optionalField, found]
  exact reads

theorem text_string (text : String) : Decoder.text (Json.string text).canonical = .ok text := by
  rw [Json.canonical, Decoder.text]

theorem path_string (path : String) : Decoder.path (Json.string path).canonical = .ok path := by
  rw [Json.canonical, Decoder.path]

theorem bool_bool (value : Bool) : Decoder.bool (Json.bool value).canonical = .ok value := by
  rw [Json.canonical, Decoder.bool]

theorem int64_ofInt64 (value : Int64) : int64 (Json.ofInt64 value).canonical = .ok value := by
  have small : value.toInt < 0x8000000000000000 := value.toInt_lt
  simp only [Json.ofInt64, Json.canonical, int64]
  rw [if_pos small, Int64.ofInt_toInt]

theorem uint64_ofUInt64 (expected : String) (value : UInt64) :
    uint64 expected (Json.ofUInt64 value).canonical = .ok value := by
  simp only [Json.ofUInt64, Json.canonical, uint64]
  rw [if_pos (Int.natCast_nonneg _), Int.toNat_natCast, UInt64.ofNat_toNat]

theorem uint32_ofUInt32 (value : UInt32) :
    uint32 (Json.ofUInt32 value).canonical = .ok value := by
  have small : (value.toNat : Int) < 0x100000000 := by
    have := value.toNat_lt
    omega
  simp only [Json.ofUInt32, Json.canonical, uint32]
  rw [if_pos ⟨Int.natCast_nonneg _, small⟩, Int.toNat_natCast, UInt32.ofNat_toNat]

/-- A field that may be absent is read back if its values are, none of which is null. -/
theorem nullable_nullOr {encode : α → Json}
    (reads : ∀ value, decoder (encode value).canonical = .ok value)
    (notNull : ∀ value, (encode value).canonical ≠ .null) (value : Option α) :
    decoder.nullable (nullOr encode value).canonical = .ok value := by
  cases value with
  | none => rw [nullOr, Json.canonical, nullable]
  | some value =>
    unfold nullable nullOr
    dsimp only
    split
    · next isNull => exact absurd isNull (notNull value)
    · rw [reads]
      rfl

theorem nullable_uint64 (expected : String) (value : Option UInt64) :
    (uint64 expected).nullable (nullOr .ofUInt64 value).canonical = .ok value := by
  refine nullable_nullOr (uint64_ofUInt64 expected) (fun value => ?_) value
  simp [Json.ofUInt64, Json.canonical]

theorem nullable_path (value : Option String) :
    Decoder.path.nullable (nullOr .string value).canonical = .ok value := by
  refine nullable_nullOr path_string (fun value => ?_) value
  simp [Json.canonical]

end Decoder

/-! ### Reading all fields -/

open Decoder

/-- **The settings of a database are read back** from an object with the members that describe them,
whatever other members it has. -/
theorem DatabaseSettings.ofJson_ofMembers (settings : DatabaseSettings)
    {others : List (String × Json)}
    (differ : ((settings.members ++ others).map Prod.fst).Nodup) :
    ofJson (.ofMembers (settings.members ++ others)) = .ok settings := by
  refine decodeFields_of_fits ?_ differ fun look finds => ?_
  · exact .cons (fits (text_string _)) <| .cons (fits (bool_bool _)) <|
      .cons (fits (int64_ofInt64 _)) <| .cons (fits (uint64_ofUInt64 _ _)) <|
      .cons (fits (uint64_ofUInt64 _ _)) <| .cons (fits (nullable_uint64 _ _)) <|
      .cons (fits (uint64_ofUInt64 _ _)) <| .cons (fits (int64_ofInt64 _)) <|
      .cons (fits (uint64_ofUInt64 _ _)) <| .cons (fits (uint64_ofUInt64 _ _)) .nil
  · simp only [members, List.forall_mem_cons] at finds
    obtain ⟨name, references, cacheSize, cacheBytes, poolSize, poolTimeout, historicalPool,
      historicalCache, historicalTimeout, recordSize, -⟩ := finds
    rw [build, requiredField_eq_ok name (text_string _),
      requiredField_eq_ok references (bool_bool _),
      requiredField_eq_ok cacheSize (int64_ofInt64 _),
      requiredField_eq_ok cacheBytes (uint64_ofUInt64 _ _),
      requiredField_eq_ok poolSize (uint64_ofUInt64 _ _),
      optionalField_eq_ok poolTimeout (nullable_uint64 _ _),
      requiredField_eq_ok historicalPool (uint64_ofUInt64 _ _),
      requiredField_eq_ok historicalCache (int64_ofInt64 _),
      requiredField_eq_ok historicalTimeout (uint64_ofUInt64 _ _),
      requiredField_eq_ok recordSize (uint64_ofUInt64 _ _)]
    rfl

/-- **The settings of a file storage are read back** from an object with the members that describe
them, whatever other members it has. -/
theorem FileSettings.ofJson_ofMembers (settings : FileSettings) {others : List (String × Json)}
    (differ : ((settings.members ++ others).map Prod.fst).Nodup) :
    ofJson (.ofMembers (settings.members ++ others)) = .ok settings := by
  refine decodeFields_of_fits ?_ differ fun look finds => ?_
  · exact .cons (fits (path_string _)) <| .cons (fits (bool_bool _)) <|
      .cons (fits (bool_bool _)) <| .cons (fits (nullable_uint64 _ _)) <|
      .cons (fits (nullable_path _)) <| .cons (fits (uint32_ofUInt32 _)) <|
      .cons (fits (bool_bool _)) <| .cons (fits (bool_bool _)) .nil
  · simp only [members, List.forall_mem_cons] at finds
    obtain ⟨path, create, readOnly, quota, blobDirectory, permissions, garbage, keepOld, -⟩ := finds
    rw [build, requiredField_eq_ok path (path_string _),
      requiredField_eq_ok create (bool_bool _),
      requiredField_eq_ok readOnly (bool_bool _),
      optionalField_eq_ok quota (nullable_uint64 _ _),
      optionalField_eq_ok blobDirectory (nullable_path _),
      requiredField_eq_ok permissions (uint32_ofUInt32 _),
      requiredField_eq_ok garbage (bool_bool _),
      requiredField_eq_ok keepOld (bool_bool _)]
    rfl

end StoreTopology
