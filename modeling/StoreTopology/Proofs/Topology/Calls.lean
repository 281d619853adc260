/-
**The calls of builders, one after another.**

* `Call`: one call of a builder, with all that it is given;
* `Call.IsMade`: a call is made on the site that the calls before it left, with the results that
  these gave for its nested sections;
* `Calls`: calls that were made one after another and succeeded, and the site that they left;
* `Ends`: how no further call is made, with the error and the site that is left;
* `Calls.lists`: if builders keep registries, the registry lists the databases of the calls for
  top-level sections.
-/

import StoreTopology.Proofs.Section.Traversal
import StoreTopology.Proofs.Topology.Building

namespace StoreTopology

open StoreTopology.Action

/-- The builders of a catalog register no database and take none out of a registry. -/
def Catalog.KeepsRegistries (catalog : Catalog) : Prop :=
  ∀ typeName builder, catalog.lookup? typeName = some builder →
    ∀ registry name options children,
      Within Site.KeepsRegistries (builder.build registry name options children)

/-- One call of a builder, for a section at its place. -/
structure Call where
  place : List Nat
  block : Section
  builder : Builder
  options : Options
  /-- What the nested sections built. -/
  children : List Built
  /-- The site on which the builder is called. -/
  before : Site

namespace Call

def visit (call : Call) : Visit := ⟨call.place, call.block⟩

/-- What the builder returns, and the site that it leaves. -/
def run (registry : RegistryId) (call : Call) : Except ConfigError Built × Site :=
  call.builder.build registry call.block.name call.options call.children call.before

/-- The database that a call for a top-level section built. -/
def database? (registry : RegistryId) (call : Call) : Option Database :=
  match call.place, (call.run registry).1 with
  | [_], .ok (.database database) => some database
  | _, _ => none

/-- The databases that calls for top-level sections built. -/
def databases (registry : RegistryId) (calls : List Call) : List Database :=
  calls.filterMap (database? registry)

/-- Earlier calls gave these results for sections beside one another, numbered from an index on. -/
inductive Gave (registry : RegistryId) (earlier : List Call) (around : List Nat) :
    Nat → List Section → List Built → Prop
  | nil {index : Nat} : Gave registry earlier around index [] []
  | cons {index : Nat} {call : Call} {rest : List Section} {built : Built} {results : List Built}
      (isEarlier : call ∈ earlier) (place : call.place = around ++ [index])
      (gave : (call.run registry).1 = .ok built)
      (others : Gave registry earlier around (index + 1) rest results) :
      Gave registry earlier around index (call.block :: rest) (built :: results)

/-- A call is made after earlier ones, on the site that these left: its section is coerced there,
and its nested sections have been built before. It is for a section inside the top-level section
that comes after those whose databases have been built. -/
structure IsMade (catalog : Catalog) (registry : RegistryId) (earlier : List Call) (site : Site)
    (call : Call) : Prop where
  found : catalog.lookup? call.block.typeName = some call.builder
  coerced : (call.builder.schema.settle call.block).result = .ok call.options
  settled : ∃ between, Catalog.settleOptions call.builder.schema call.block site =
      (.ok call.options, between) ∧
    call.before = between.log .debug
      (ConfigError.atLine ("Building <" ++ call.block.typeName ++ ">") call.block.line)
  children : Gave registry earlier call.place 0 call.block.children call.children
  inside : call.place.head? = some (databases registry earlier).length

/-- A call leaves a site on which further sections are built: it succeeded, and if it was for a
top-level section, its database was registered. -/
inductive Leaves (registry : RegistryId) (call : Call) : Site → Prop
  | nested {built : Built} {after : Site} (isNested : 2 ≤ call.place.length)
      (succeeded : call.run registry = (.ok built, after)) : Leaves registry call after
  | registered {database : Database} {between after : Site} (isTop : call.place.length = 1)
      (succeeded : call.run registry = (.ok (.database database), between))
      (registered : registry.register database between = (.ok (), after)) :
      Leaves registry call after

end Call

/-- Calls are made one after another from a site on, and leave a site on which further sections are
built. -/
inductive Calls (catalog : Catalog) (registry : RegistryId) (start : Site) : List Call → Site → Prop
  | none : Calls catalog registry start [] start
  | next {earlier : List Call} {site after : Site} {call : Call}
      (before : Calls catalog registry start earlier site)
      (made : call.IsMade catalog registry earlier site) (leaves : call.Leaves registry after) :
      Calls catalog registry start (earlier ++ [call]) after

/-- After earlier calls a section fails, and no further call is made: the section, the call for it
if one is made, the error, and the site that is left. -/
inductive Ends (catalog : Catalog) (registry : RegistryId) (earlier : List Call) (site : Site) :
    Visit → Option Call → ConfigError → Site → Prop
  /-- The section cannot be coerced. -/
  | notSettled {place : List Nat} {block : Section} {builder : Builder} {error : ConfigError}
      {after : Site} (found : catalog.lookup? block.typeName = some builder)
      (failed : Catalog.settleOptions builder.schema block site = (.error error, after)) :
      Ends catalog registry earlier site ⟨place, block⟩ none error after
  /-- Its builder fails. -/
  | notBuilt {call : Call} {error : ConfigError} {after : Site}
      (made : call.IsMade catalog registry earlier site)
      (failed : call.run registry = (.error error, after)) :
      Ends catalog registry earlier site call.visit (some call) error after
  /-- A top-level section builds a storage. -/
  | noDatabase {call : Call} {storage : Storage} {after : Site}
      (made : call.IsMade catalog registry earlier site) (isTop : call.place.length = 1)
      (built : call.run registry = (.ok (.storage storage), after)) :
      Ends catalog registry earlier site call.visit (some call)
        (.build (.notBuilt call.block.typeName .database)) (storage.close after).2
  /-- The database of a top-level section is refused. -/
  | refused {call : Call} {database : Database} {after : Site}
      (made : call.IsMade catalog registry earlier site) (isTop : call.place.length = 1)
      (built : call.run registry = (.ok (.database database), after))
      (taken : registry.register database after =
        (.error (.duplicateDatabase database.name), after)) :
      Ends catalog registry earlier site call.visit (some call)
        (.build (.duplicateName database.name)) (database.close after).2

/-! ### Databases of calls -/

namespace Call

variable {registry : RegistryId} {call : Call} {earlier calls : List Call} {around : List Nat}
  {index : Nat} {forest : List Section} {results : List Built}

theorem databases_append (first second : List Call) :
    databases registry (first ++ second) = databases registry first ++ databases registry second :=
  List.filterMap_append

theorem database?_of_nested (isNested : 2 ≤ call.place.length) :
    call.database? registry = none := by
  unfold database?
  split
  · next place _ =>
    rw [place] at isNested
    exact absurd isNested (Nat.not_succ_le_self 1)
  · rfl

/-- A call for a nested section adds no database. -/
theorem databases_nested (isNested : 2 ≤ call.place.length) (earlier : List Call) :
    databases registry (earlier ++ [call]) = databases registry earlier := by
  have adds : databases registry [call] = [] :=
    List.filterMap_cons_none (database?_of_nested isNested)
  rw [databases_append, adds, List.append_nil]

/-- A call for a top-level section adds its database. -/
theorem databases_top {database : Database} {after : Site} (isTop : call.place.length = 1)
    (succeeded : call.run registry = (.ok (.database database), after)) (earlier : List Call) :
    databases registry (earlier ++ [call]) = databases registry earlier ++ [database] := by
  obtain ⟨index, place⟩ := List.length_eq_one_iff.mp isTop
  have isBuilt : call.database? registry = some database := by
    unfold database?
    rw [place, succeeded]
  have adds : databases registry [call] = [database] := List.filterMap_cons_some isBuilt
  rw [databases_append, adds]

theorem Gave.of_subset (gave : Gave registry earlier around index forest results)
    (subset : ∀ call ∈ earlier, call ∈ calls) :
    Gave registry calls around index forest results := by
  induction gave with
  | nil => exact .nil
  | cons isEarlier place gave _ ih => exact .cons (subset _ isEarlier) place gave ih

end Call

namespace Ends

variable {catalog : Catalog} {registry : RegistryId} {earlier : List Call} {site after : Site}
  {visit : Visit} {last : Option Call} {error : ConfigError}

theorem isMade (ends : Ends catalog registry earlier site visit last error after) :
    ∀ call ∈ last, call.IsMade catalog registry earlier site := by
  intro call isLast
  cases ends with
  | notSettled _ _ => cases isLast
  | notBuilt made _ | noDatabase made _ _ | refused made _ _ _ =>
    cases isLast
    exact made

/-- The last call is for the section that fails, if it is made. -/
theorem visits (ends : Ends catalog registry earlier site visit last error after) :
    last.toList.map Call.visit <+: [visit] := by
  cases ends with
  | notSettled _ _ => exact List.nil_prefix
  | notBuilt _ _ | noDatabase _ _ _ | refused _ _ _ _ => exact List.prefix_rfl

end Ends

namespace Calls

variable {catalog : Catalog} {registry : RegistryId} {start site stop : Site} {call : Call}
  {calls earlier later : List Call}

/-- Of calls made one after another, each was made after those before it. -/
theorem isMade (ran : Calls catalog registry start (earlier ++ call :: later) stop) :
    ∃ site after, Calls catalog registry start earlier site ∧
      call.IsMade catalog registry earlier site ∧ call.Leaves registry after := by
  generalize same : earlier ++ call :: later = calls at ran
  induction ran generalizing later with
  | none => exact absurd same (by simp)
  | @next before site after last ran made leaves ih =>
    -- The call is the last one, or it is among those before the last.
    rcases List.eq_nil_or_concat later with rfl | ⟨between, final, rfl⟩
    · obtain ⟨rfl, isLast⟩ := List.append_inj' same rfl
      cases isLast
      exact ⟨site, after, ran, made, leaves⟩
    · rw [List.concat_eq_append, ← List.cons_append, ← List.append_assoc] at same
      obtain ⟨isBefore, _⟩ := List.append_inj' same rfl
      exact ih isBefore

/-- So it is with one more call that was made, though it may have failed. -/
theorem isMade_of_last (ran : Calls catalog registry start calls stop) {last : Option Call}
    (lastMade : ∀ call ∈ last, call.IsMade catalog registry calls stop)
    (same : calls ++ last.toList = earlier ++ call :: later) :
    ∃ site, Calls catalog registry start earlier site ∧
      call.IsMade catalog registry earlier site ∧
      (later ≠ [] → ∃ after, call.Leaves registry after) := by
  cases last with
  | none =>
    rw [Option.toList_none, List.append_nil] at same
    obtain ⟨site, after, ranEarlier, made, leaves⟩ := isMade (same ▸ ran)
    exact ⟨site, ranEarlier, made, fun _ => ⟨after, leaves⟩⟩
  | some final =>
    rcases List.eq_nil_or_concat later with rfl | ⟨between, other, rfl⟩
    · obtain ⟨rfl, isLast⟩ := List.append_inj' same rfl
      cases isLast
      exact ⟨stop, ran, lastMade call rfl, fun more => absurd rfl more⟩
    · rw [List.concat_eq_append, ← List.cons_append, ← List.append_assoc] at same
      obtain ⟨rfl, _⟩ := List.append_inj' same rfl
      obtain ⟨site, after, ranEarlier, made, leaves⟩ := isMade ran
      exact ⟨site, ranEarlier, made, fun _ => ⟨after, leaves⟩⟩

/-- Each database was built by the call for the top-level section of its number. -/
theorem exists_of_databases (ran : Calls catalog registry start calls stop) {index : Nat}
    {database : Database} (isBuilt : (Call.databases registry calls)[index]? = some database) :
    ∃ top ∈ calls, top.place = [index] ∧ (top.run registry).1 = .ok (.database database) := by
  induction ran with
  | none => cases isBuilt
  | @next earlier site after call _ made leaves ih =>
    have older : (Call.databases registry earlier)[index]? = some database →
        ∃ top ∈ earlier ++ [call], top.place = [index] ∧
          (top.run registry).1 = .ok (.database database) := by
      intro isBuilt
      obtain ⟨top, present, rest⟩ := ih isBuilt
      exact ⟨top, List.mem_append_left _ present, rest⟩
    cases leaves with
    | nested isNested _ =>
      rw [Call.databases_nested isNested] at isBuilt
      exact older isBuilt
    | @registered added _ _ isTop succeeded _ =>
      rw [Call.databases_top isTop succeeded, List.getElem?_append] at isBuilt
      split at isBuilt
      · exact older isBuilt
      · next beyond =>
        obtain ⟨number, place⟩ := List.length_eq_one_iff.mp isTop
        have isNumber := made.inside
        rw [place, List.head?_cons] at isNumber
        obtain ⟨same, _⟩ := List.getElem?_eq_some_iff.mp isBuilt
        rw [List.length_singleton, Nat.lt_one_iff] at same
        have isIndex : number = index := by
          rw [Option.some.inj isNumber]
          omega
        refine ⟨call, List.mem_append_right _ List.mem_cons_self, isIndex ▸ place, ?_⟩
        rw [succeeded, List.mem_singleton.mp (List.mem_of_getElem? isBuilt)]

/-- Registries are kept until a call is made, and by the call. -/
theorem keepsRegistries (keeps : catalog.KeepsRegistries)
    (made : call.IsMade catalog registry earlier site) :
    Site.KeepsRegistries site call.before ∧
      Site.KeepsRegistries call.before (call.run registry).2 := by
  obtain ⟨between, settled, before⟩ := made.settled
  have logs : ∀ (site : Site) level text, Site.KeepsRegistries site (site.log level text) :=
    fun _ _ _ => .of_same rfl
  have first := (Catalog.within_settleOptions logs _ _).of_ok settled
  refine ⟨?_, keeps _ _ made.found _ _ _ _ _⟩
  rw [before]
  exact first.trans (logs _ _ _)

/-- If builders keep registries, the registry lists the databases of the calls that were made. -/
theorem lists (keeps : catalog.KeepsRegistries) (nothing : registry.Lists start [])
    (ran : Calls catalog registry start calls stop) :
    registry.Lists stop (Call.databases registry calls) := by
  induction ran with
  | none => exact nothing
  | @next earlier site after call _ made leaves ih =>
    obtain ⟨first, second⟩ := keepsRegistries keeps made
    have listed := ih.of_keeps (first.trans second)
    cases leaves with
    | nested isNested succeeded =>
      rw [Call.databases_nested isNested]
      rwa [succeeded] at listed
    | registered isTop succeeded registered =>
      rw [Call.databases_top isTop succeeded]
      rw [succeeded] at listed
      exact listed.register registered

end Calls

end StoreTopology
