/-
**Finite maps with ordered keys.**

A map is its list of entries, strictly increasing in the key, so two maps with the same look-ups
are the same map and iteration needs no separate order:

* `get?_insert`, `get?_erase`, `get?_overlay`: what each operation does to the look-up;
* `mem_entries`: the entries are exactly the successful look-ups;
* `ext_get?`: equal look-ups make equal maps;
* `ofList_entries`: a map is rebuilt from its own entries.
-/

set_option linter.unusedSectionVars false

namespace StoreTopology

/-- Values under keys, the keys strictly increasing. -/
structure SortedMap (κ α : Type) [LT κ] where
  entries : List (κ × α)
  sorted : entries.Pairwise fun earlier later => earlier.1 < later.1
deriving DecidableEq

namespace SortedMap

variable {κ α : Type} [LT κ]

/-- The map without entries. -/
def empty : SortedMap κ α := ⟨[], .nil⟩

instance : EmptyCollection (SortedMap κ α) := ⟨empty⟩

instance : Inhabited (SortedMap κ α) := ⟨empty⟩

/-- The keys, in increasing order. -/
def keys (map : SortedMap κ α) : List κ := map.entries.map Prod.fst

/-- The values, in the order of their keys. -/
def values (map : SortedMap κ α) : List α := map.entries.map Prod.snd

def size (map : SortedMap κ α) : Nat := map.entries.length

def isEmpty (map : SortedMap κ α) : Bool := map.entries.isEmpty

theorem keys_sorted (map : SortedMap κ α) : map.keys.Pairwise (· < ·) :=
  List.pairwise_map.mpr map.sorted

theorem isEmpty_iff {map : SortedMap κ α} : map.isEmpty = true ↔ map = empty := by
  obtain ⟨entries, sorted⟩ := map
  unfold isEmpty empty
  rw [List.isEmpty_iff, SortedMap.mk.injEq]

/-! ### Entry lists -/

section Entries

variable [DecidableLT κ]

/-- Put a value under a key at its place in a sorted list, replacing the value there. -/
def insertEntry (key : κ) (value : α) : List (κ × α) → List (κ × α)
  | [] => [(key, value)]
  | entry :: rest =>
    if key < entry.1 then (key, value) :: entry :: rest
    else if entry.1 < key then entry :: insertEntry key value rest
    else (key, value) :: rest

/-- The value under a key in a list of entries. -/
def findEntry [DecidableEq κ] (key : κ) : List (κ × α) → Option α
  | [] => none
  | entry :: rest => if entry.1 = key then some entry.2 else findEntry key rest

theorem mem_of_mem_insertEntry {key : κ} {value : α} {entry : κ × α} {list : List (κ × α)}
    (present : entry ∈ insertEntry key value list) : entry = (key, value) ∨ entry ∈ list := by
  induction list with
  | nil => simpa [insertEntry] using present
  | cons head rest ih =>
    rw [insertEntry] at present
    split at present
    · simpa using present
    · split at present
      · rcases List.mem_cons.mp present with rfl | later
        · exact .inr List.mem_cons_self
        · rcases ih later with rfl | inRest
          · exact .inl rfl
          · exact .inr (List.mem_cons_of_mem _ inRest)
      · rcases List.mem_cons.mp present with rfl | later
        · exact .inl rfl
        · exact .inr (List.mem_cons_of_mem _ later)

variable [LE κ] [Std.IsLinearOrder κ] [Std.LawfulOrderLT κ]

/-- Of two distinct keys one is the smaller. -/
theorem eq_of_not_lt {first second : κ} (notLess : ¬ first < second)
    (notGreater : ¬ second < first) : first = second :=
  Std.le_antisymm (Std.not_lt.mp notGreater) (Std.not_lt.mp notLess)

theorem insertEntry_sorted (key : κ) (value : α) {list : List (κ × α)}
    (sorted : list.Pairwise fun earlier later => earlier.1 < later.1) :
    (insertEntry key value list).Pairwise fun earlier later => earlier.1 < later.1 := by
  induction list with
  | nil => simp [insertEntry]
  | cons head rest ih =>
    obtain ⟨headLess, restSorted⟩ := List.pairwise_cons.mp sorted
    rw [insertEntry]
    split
    case isTrue less =>
      refine List.pairwise_cons.mpr ⟨fun entry present => ?_, sorted⟩
      rcases List.mem_cons.mp present with rfl | later
      · exact less
      · exact Std.lt_trans less (headLess entry later)
    case isFalse notLess =>
      split
      case isTrue greater =>
        refine List.pairwise_cons.mpr ⟨fun entry present => ?_, ih restSorted⟩
        rcases mem_of_mem_insertEntry present with rfl | later
        · exact greater
        · exact headLess entry later
      case isFalse notGreater =>
        have same : key = head.1 := eq_of_not_lt notLess notGreater
        exact List.pairwise_cons.mpr ⟨fun entry present => same ▸ headLess entry present,
          restSorted⟩

theorem findEntry_insertEntry [DecidableEq κ] (key other : κ) (value : α)
    (list : List (κ × α)) :
    findEntry other (insertEntry key value list) =
      if key = other then some value else findEntry other list := by
  induction list with
  | nil => simp [insertEntry, findEntry]
  | cons head rest ih =>
    rw [insertEntry]
    split
    · simp only [findEntry]
    · split
      case isTrue greater =>
        simp only [findEntry, ih]
        by_cases headHit : head.1 = other
        · have distinct : key ≠ other := fun same =>
            Std.lt_irrefl (a := key) (by rw [headHit, ← same] at greater; exact greater)
          simp [headHit, distinct]
        · simp [headHit]
      case isFalse notGreater =>
        rename_i notLess
        have same : key = head.1 := eq_of_not_lt notLess notGreater
        simp only [findEntry, ← same]
        by_cases hit : key = other <;> simp [hit]

theorem findEntry_eq_some [DecidableEq κ] {key : κ} {value : α} {list : List (κ × α)}
    (sorted : list.Pairwise fun earlier later => earlier.1 < later.1) :
    findEntry key list = some value ↔ (key, value) ∈ list := by
  induction list with
  | nil => simp [findEntry]
  | cons head rest ih =>
    obtain ⟨headLess, restSorted⟩ := List.pairwise_cons.mp sorted
    rw [findEntry, List.mem_cons]
    split
    case isTrue hit =>
      constructor
      · intro found
        exact .inl (Prod.ext hit.symm (Option.some.inj found).symm)
      · rintro (rfl | later)
        · rfl
        · exact absurd (hit ▸ headLess _ later) Std.lt_irrefl
    case isFalse miss =>
      rw [ih restSorted]
      constructor
      · exact .inr
      · rintro (rfl | later)
        · exact absurd rfl miss
        · exact later

/-- Inserting above every key of a list puts the entry at its end. -/
theorem insertEntry_eq_append {key : κ} {value : α} {list : List (κ × α)}
    (above : ∀ entry ∈ list, entry.1 < key) :
    insertEntry key value list = list ++ [(key, value)] := by
  induction list with
  | nil => rfl
  | cons head rest ih =>
    have greater : head.1 < key := above head List.mem_cons_self
    have notLess : ¬ key < head.1 := fun less => Std.lt_irrefl (Std.lt_trans less greater)
    rw [insertEntry, if_neg notLess, if_pos greater,
      ih fun entry present => above entry (List.mem_cons_of_mem _ present)]
    rfl

end Entries

/-! ### Operations -/

/-- The map without the entry of a key. -/
def erase [DecidableEq κ] (map : SortedMap κ α) (key : κ) : SortedMap κ α :=
  ⟨map.entries.filter fun entry => entry.1 ≠ key, map.sorted.filter _⟩

/-- The value stored under a key. -/
def get? [DecidableEq κ] (map : SortedMap κ α) (key : κ) : Option α :=
  findEntry key map.entries

def contains [DecidableEq κ] (map : SortedMap κ α) (key : κ) : Bool := (map.get? key).isSome

variable [DecidableLT κ] [LE κ] [Std.IsLinearOrder κ] [Std.LawfulOrderLT κ]

/-- Store a value under a key, in place of any value there. -/
def insert (map : SortedMap κ α) (key : κ) (value : α) : SortedMap κ α :=
  ⟨insertEntry key value map.entries, insertEntry_sorted key value map.sorted⟩

/-- Store every entry of a list in turn, so that the last of equal keys stays. -/
def insertAll (map : SortedMap κ α) (list : List (κ × α)) : SortedMap κ α :=
  list.foldl (fun result entry => result.insert entry.1 entry.2) map

/-- The map of a list of entries, the last of equal keys staying. -/
def ofList (list : List (κ × α)) : SortedMap κ α := empty.insertAll list

/-- One map laid over another: the upper value wins. -/
def overlay (lower upper : SortedMap κ α) : SortedMap κ α := lower.insertAll upper.entries

/-! ### Look-up -/

section Lookup

variable [DecidableEq κ]

@[simp] theorem get?_empty (key : κ) : (empty : SortedMap κ α).get? key = none := rfl

theorem get?_insert (map : SortedMap κ α) (key other : κ) (value : α) :
    (map.insert key value).get? other = if key = other then some value else map.get? other :=
  findEntry_insertEntry key other value map.entries

@[simp] theorem get?_insert_self (map : SortedMap κ α) (key : κ) (value : α) :
    (map.insert key value).get? key = some value := by rw [get?_insert, if_pos rfl]

theorem mem_entries {map : SortedMap κ α} {key : κ} {value : α} :
    (key, value) ∈ map.entries ↔ map.get? key = some value :=
  (findEntry_eq_some map.sorted).symm

theorem mem_keys {map : SortedMap κ α} {key : κ} : key ∈ map.keys ↔ map.contains key := by
  simp only [keys, List.mem_map, contains, Option.isSome_iff_exists, ← mem_entries]
  constructor
  · rintro ⟨⟨_, value⟩, present, rfl⟩
    exact ⟨value, present⟩
  · rintro ⟨value, present⟩
    exact ⟨(key, value), present, rfl⟩

theorem get?_erase (map : SortedMap κ α) (key other : κ) :
    (map.erase key).get? other = if key = other then none else map.get? other := by
  apply Option.ext
  intro value
  rw [← mem_entries]
  by_cases same : key = other
  · simp [erase, same]
  · simp [erase, same, mem_entries, Ne.symm same]

/-- Maps with the same look-ups are the same. -/
theorem ext_get? {first second : SortedMap κ α} (same : ∀ key, first.get? key = second.get? key) :
    first = second := by
  obtain ⟨left, leftSorted⟩ := first
  obtain ⟨right, rightSorted⟩ := second
  have members : ∀ entry, entry ∈ left ↔ entry ∈ right := fun entry => by
    have agree : findEntry entry.1 left = findEntry entry.1 right := same entry.1
    rw [show entry = (entry.1, entry.2) from rfl, ← findEntry_eq_some leftSorted,
      ← findEntry_eq_some rightSorted, agree]
  have equal : left = right := by
    clear same
    induction left generalizing right with
    | nil =>
      cases right with
      | nil => rfl
      | cons head rest => exact absurd ((members head).mpr List.mem_cons_self) (by simp)
    | cons head rest ih =>
      cases right with
      | nil => exact absurd ((members head).mp List.mem_cons_self) (by simp)
      | cons head' rest' =>
        obtain ⟨below, restSorted⟩ := List.pairwise_cons.mp leftSorted
        obtain ⟨below', restSorted'⟩ := List.pairwise_cons.mp rightSorted
        have heads : head = head' := by
          rcases List.mem_cons.mp ((members head).mp List.mem_cons_self) with same | later
          · exact same
          · rcases List.mem_cons.mp ((members head').mpr List.mem_cons_self) with same | later'
            · exact same.symm
            · exact absurd (Std.lt_trans (below _ later') (below' _ later)) Std.lt_irrefl
        subst heads
        congr 1
        refine ih restSorted rest' restSorted' fun entry => ?_
        have both := members entry
        rw [List.mem_cons, List.mem_cons] at both
        constructor
        · intro present
          rcases both.mp (.inr present) with rfl | later
          · exact absurd (below _ present) Std.lt_irrefl
          · exact later
        · intro present
          rcases both.mpr (.inr present) with rfl | later
          · exact absurd (below' _ present) Std.lt_irrefl
          · exact later
  subst equal
  rfl

theorem get?_insertAll (map : SortedMap κ α) (list : List (κ × α)) (key : κ) :
    (map.insertAll list).get? key = (findEntry key list.reverse).or (map.get? key) := by
  induction list generalizing map with
  | nil => rfl
  | cons head rest ih =>
    have appended : ∀ entries : List (κ × α), findEntry key (entries ++ [head]) =
        (findEntry key entries).or (if head.1 = key then some head.2 else none) := by
      intro entries
      induction entries with
      | nil => simp [findEntry]
      | cons entry entries ih =>
        by_cases hit : entry.1 = key <;> simp [findEntry, hit, ih]
    rw [insertAll, List.foldl_cons, ← insertAll, ih, List.reverse_cons, appended, get?_insert]
    by_cases hit : head.1 = key <;> cases findEntry key rest.reverse <;> simp [hit]

/-- A map is rebuilt from its own entries. -/
theorem ofList_entries (map : SortedMap κ α) : ofList map.entries = map := by
  have built : ∀ (done rest : List (κ × α)) (sorted : done.Pairwise fun a b => a.1 < b.1),
      (done ++ rest).Pairwise (fun a b => a.1 < b.1) →
      (insertAll ⟨done, sorted⟩ rest).entries = done ++ rest := by
    intro done rest
    induction rest generalizing done with
    | nil => intro sorted _; simp [insertAll]
    | cons head rest ih =>
      intro sorted whole
      have above : ∀ entry ∈ done, entry.1 < head.1 := fun entry present =>
        (List.pairwise_append.mp whole).2.2 entry present head List.mem_cons_self
      have step : insert (⟨done, sorted⟩ : SortedMap κ α) head.1 head.2 =
          ⟨done ++ [head], insertEntry_eq_append above ▸ insertEntry_sorted _ _ sorted⟩ := by
        simp only [insert, insertEntry_eq_append above]
      rw [insertAll, List.foldl_cons, ← insertAll, step, ih]
      · simp
      · simpa using whole
  have same : (ofList map.entries).entries = map.entries :=
    built [] map.entries .nil (by simpa using map.sorted)
  exact ext_get? fun key => by rw [get?, same, get?]

theorem mem_of_findEntry {key : κ} {value : α} {list : List (κ × α)}
    (found : findEntry key list = some value) : (key, value) ∈ list := by
  induction list with
  | nil => simp [findEntry] at found
  | cons head rest ih =>
    rw [findEntry] at found
    split at found
    · next hit =>
      rw [List.mem_cons]
      exact .inl (Prod.ext hit.symm (Option.some.inj found).symm)
    · exact List.mem_cons_of_mem _ (ih found)

theorem exists_findEntry {entry : κ × α} {list : List (κ × α)} (present : entry ∈ list) :
    ∃ value, findEntry entry.1 list = some value := by
  induction list with
  | nil => cases present
  | cons head rest ih =>
    rw [findEntry]
    split
    · exact ⟨head.2, rfl⟩
    · next differs =>
      rcases List.mem_cons.mp present with rfl | later
      · exact absurd rfl differs
      · exact ih later

/-- The map of a list holds only entries of that list. -/
theorem mem_of_mem_ofList {list : List (κ × α)} {entry : κ × α}
    (present : entry ∈ (ofList list).entries) : entry ∈ list := by
  have found := mem_entries.mp present
  rw [ofList, get?_insertAll, get?_empty, Option.or_none] at found
  exact List.mem_reverse.mp (mem_of_findEntry found)

/-- Laying one map over another, a key has the upper value if there is one. -/
theorem get?_overlay (lower upper : SortedMap κ α) (key : κ) :
    (lower.overlay upper).get? key = (upper.get? key).or (lower.get? key) := by
  have rebuilt : (empty.insertAll upper.entries).get? key = upper.get? key := by
    rw [← ofList, ofList_entries]
  rw [get?_insertAll, get?_empty, Option.or_none] at rebuilt
  rw [overlay, get?_insertAll, rebuilt]

theorem contains_overlay (lower upper : SortedMap κ α) (key : κ) :
    (lower.overlay upper).contains key = (upper.contains key || lower.contains key) := by
  unfold contains
  rw [get?_overlay, Option.isSome_or]

/-! ### Keys -/

theorem keys_nodup (map : SortedMap κ α) : map.keys.Nodup := by
  refine map.keys_sorted.imp fun {earlier later} less same => ?_
  rw [same] at less
  exact Std.lt_irrefl less

/-- Maps with the same keys list them in the same order. -/
theorem keys_eq_of_contains {β : Type} {first : SortedMap κ α} {second : SortedMap κ β}
    (same : ∀ key, first.contains key = second.contains key) : first.keys = second.keys := by
  refine List.Perm.eq_of_pairwise (fun _ _ _ _ less greater => ?_) first.keys_sorted
    second.keys_sorted ?_
  · exact absurd (Std.lt_trans less greater) Std.lt_irrefl
  · refine (List.perm_ext_iff_of_nodup first.keys_nodup second.keys_nodup).mpr fun key => ?_
    rw [mem_keys, mem_keys, same]

theorem contains_ofList {list : List (κ × α)} {key : κ} :
    (ofList list).contains key = true ↔ key ∈ list.map Prod.fst := by
  rw [← mem_keys]
  constructor
  · intro present
    obtain ⟨entry, inMap, rfl⟩ := List.mem_map.mp present
    exact List.mem_map_of_mem (mem_of_mem_ofList inMap)
  · intro present
    obtain ⟨entry, inList, rfl⟩ := List.mem_map.mp present
    obtain ⟨value, found⟩ := exists_findEntry (List.mem_reverse.mpr inList)
    rw [mem_keys, contains, ofList, get?_insertAll, found]
    rfl

end Lookup

end SortedMap

end StoreTopology
