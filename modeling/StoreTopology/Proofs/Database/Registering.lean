/-
**What a registry lists.**

* `RegistryId.register_apply`: registering a database adds it under its name, or finds the name
  taken;
* `RegistryId.Lists`: a registry lists just the given databases, each under its name;
* `RegistryId.Lists.register`: it lists one more after a registration;
* `Site.KeepsRegistries`: no registry changes, though there may be new ones.
-/

import StoreTopology.Database.Operations
import StoreTopology.Proofs.Action

namespace StoreTopology

open StoreTopology.Action

/-! ### Entries of maps -/

namespace SortedMap

variable {α : Type} {key : String} {value : α}

theorem insertEntry_perm {list : List (String × α)} (missing : key ∉ list.map Prod.fst) :
    (insertEntry key value list).Perm ((key, value) :: list) := by
  induction list with
  | nil => exact .refl _
  | cons entry rest ih =>
    rw [List.map_cons, List.mem_cons, not_or] at missing
    rw [insertEntry]
    by_cases less : key < entry.1
    · rw [if_pos less]
    · have greater : entry.1 < key :=
        Decidable.byContradiction fun notGreater => missing.1 (eq_of_not_lt less notGreater)
      rw [if_neg less, if_pos greater]
      exact ((ih missing.2).cons entry).trans (.swap _ _ _)

/-- A map with a value under a new key has one entry more. -/
theorem entries_insert_perm {map : SortedMap String α} (free : map.contains key = false) :
    (map.insert key value).entries.Perm ((key, value) :: map.entries) := by
  refine insertEntry_perm fun present => ?_
  have taken : map.contains key = true := mem_keys.mp present
  rw [free] at taken
  cases taken

/-- Without its first key, a map has the entries that follow. -/
theorem entries_erase_head {map : SortedMap String α} {rest : List (String × α)}
    (begins : map.entries = (key, value) :: rest) : (map.erase key).entries = rest := by
  have sorted := map.sorted
  rw [begins, List.pairwise_cons] at sorted
  show map.entries.filter _ = rest
  rw [begins, List.filter_cons_of_neg (by simp)]
  refine List.filter_eq_self.mpr fun entry later => decide_eq_true fun same => ?_
  have less := sorted.1 entry later
  rw [same] at less
  exact Std.lt_irrefl less

end SortedMap

/-! ### Registries that stay as they are -/

namespace Site

variable {site : Site} {id : RegistryId} {registry : Registry}

theorem registry_setRegistry_eq (allocated : id.number < site.registries.next)
    (other : RegistryId) :
    (site.setRegistry id registry).registry other =
      if other = id then registry else site.registry other := by
  unfold setRegistry Site.registry
  rw [Table.get?_set]
  by_cases same : other = id
  · rw [if_pos same, same, if_pos ⟨rfl, allocated⟩, Option.getD_some]
  · rw [if_neg same, if_neg fun both => same (congrArg RegistryId.mk both.1.symm)]

theorem registry_setRegistry (allocated : id.number < site.registries.next) :
    (site.setRegistry id registry).registry id = registry := by
  rw [registry_setRegistry_eq allocated, if_pos rfl]

/-- The registries that there are stay as they are, and new ones are empty. -/
structure KeepsRegistries (before after : Site) : Prop where
  registry : ∀ id, after.registry id = before.registry id
  registries : before.registries.next ≤ after.registries.next

namespace KeepsRegistries

variable {before between after : Site}

instance : Std.Refl KeepsRegistries := ⟨fun _ => ⟨fun _ => rfl, Nat.le_refl _⟩⟩

theorem trans (first : KeepsRegistries before between) (second : KeepsRegistries between after) :
    KeepsRegistries before after where
  registry := fun id => (second.registry id).trans (first.registry id)
  registries := Nat.le_trans first.registries second.registries

instance : Trans KeepsRegistries KeepsRegistries KeepsRegistries := ⟨trans⟩

theorem of_same (same : after.registries = before.registries) : KeepsRegistries before after where
  registry := fun id => by rw [Site.registry, Site.registry, same]
  registries := Nat.le_of_eq (congrArg Table.next same).symm

end KeepsRegistries

end Site

/-! ### Registering -/

/-- One more database that differs from all others. -/
theorem Database.idsDiffer_concat {databases : List Database} {database : Database}
    (idsDiffer : (databases.map Database.id).Nodup)
    (other : database.id ∉ databases.map Database.id) :
    ((databases ++ [database]).map Database.id).Nodup := by
  rw [List.map_append, List.map_singleton, List.nodup_append]
  refine ⟨idsDiffer, List.nodup_cons.mpr ⟨List.not_mem_nil, .nil⟩, ?_⟩
  intro first present second isLast same
  exact other (List.mem_singleton.mp isLast ▸ same ▸ present)

namespace RegistryId

variable {id : RegistryId} {database : Database} {databases : List Database} {site after : Site}

/-- Registering a database adds it under its name, or finds the name taken. -/
theorem register_apply (id : RegistryId) (database : Database) (site : Site) :
    id.register database site =
      if (site.registry id).contains database.name then
        (.error (.duplicateDatabase database.name), site)
      else (.ok (), (site.log .info ("Registered database '" ++ database.name ++ "'")).setRegistry
        id ((site.registry id).insert database.name database)) := by
  unfold register
  rw [bind_of_ok site_apply]
  split
  · rfl
  · rfl

/-- A database is registered if its name is free. -/
theorem register_eq_ok_iff : id.register database site = (.ok (), after) ↔
      (site.registry id).contains database.name = false ∧
        after = (site.log .info ("Registered database '" ++ database.name ++ "'")).setRegistry
          id ((site.registry id).insert database.name database) := by
  rw [register_apply]
  cases (site.registry id).contains database.name with
  | true =>
    rw [if_pos rfl]
    simp
  | false =>
    rw [if_neg Bool.false_ne_true]
    simp [eq_comm]

/-- A database is refused if its name is taken, and then nothing changes. -/
theorem register_eq_error_iff {error : StoreError} :
    id.register database site = (.error error, after) ↔
      (site.registry id).contains database.name = true ∧
        error = .duplicateDatabase database.name ∧ after = site := by
  rw [register_apply]
  cases (site.registry id).contains database.name with
  | true =>
    rw [if_pos rfl]
    simp [eq_comm]
  | false =>
    rw [if_neg Bool.false_ne_true]
    simp

/-- A registry lists just the given databases, each under its name. -/
structure Lists (id : RegistryId) (site : Site) (databases : List Database) : Prop where
  allocated : id.number < site.registries.next
  entries : (site.registry id).entries.Perm
    (databases.map fun database => (database.name, database))

namespace Lists

/-- A new registry lists nothing. -/
theorem addRegistry (site : Site) : site.addRegistry.1.Lists site.addRegistry.2 [] where
  allocated := by
    show site.registries.next < (site.registries.add .empty).next
    rw [Table.next_add]
    exact Nat.lt_succ_self _
  entries := by
    show (((site.registries.add .empty).get? site.registries.next).getD .empty).entries.Perm []
    rw [Table.get?_add, if_pos rfl, Option.getD_some]
    exact .refl _

theorem of_keeps (lists : id.Lists site databases) (keeps : Site.KeepsRegistries site after) :
    id.Lists after databases where
  allocated := Nat.lt_of_lt_of_le lists.allocated keeps.registries
  entries := by
    rw [keeps.registry]
    exact lists.entries

/-- A registry lists one database more after its registration. -/
theorem register (lists : id.Lists site databases)
    (registered : id.register database site = (.ok (), after)) :
    id.Lists after (databases ++ [database]) := by
  obtain ⟨free, rfl⟩ := register_eq_ok_iff.mp registered
  refine ⟨?_, ?_⟩
  · show id.number < (site.registries.set _ _).next
    rw [Table.next_set]
    exact lists.allocated
  · show ((site.setRegistry id _).registry id).entries.Perm _
    rw [Site.registry_setRegistry lists.allocated, List.map_append]
    refine (SortedMap.entries_insert_perm free).trans ?_
    exact (lists.entries.cons _).trans (List.perm_append_singleton _ _).symm

/-- The databases that are listed are those under their names. -/
theorem get?_eq_some_iff (lists : id.Lists site databases) {name : String} :
    (site.registry id).get? name = some database ↔ database ∈ databases ∧ database.name = name := by
  rw [← SortedMap.mem_entries, lists.entries.mem_iff, List.mem_map]
  constructor
  · rintro ⟨other, present, same⟩
    cases same
    exact ⟨present, rfl⟩
  · rintro ⟨present, rfl⟩
    exact ⟨database, present, rfl⟩

/-- A name that no listed database has is free. -/
theorem free (lists : id.Lists site databases) {name : String}
    (other : name ∉ databases.map Database.name) : (site.registry id).contains name = false := by
  unfold SortedMap.contains
  cases found : (site.registry id).get? name with
  | none => rfl
  | some database =>
    obtain ⟨present, rfl⟩ := lists.get?_eq_some_iff.mp found
    exact absurd (List.mem_map_of_mem present) other

end Lists

end RegistryId

end StoreTopology
