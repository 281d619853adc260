/-
**Sections are built from the inside out and in source order.**

* `Catalog.builds_build`: what building a section calls, by induction on the section;
* `Catalog.calls_of_buildDatabases`: what building top-level sections calls;
* `Catalog.InOrder`: calls are made in order, each with what it has to be given;
* `compile_inOrder`: so are the calls of a compilation; all sections are built if it succeeds, and
  nothing more is called after the first failure.
-/

import StoreTopology.Proofs.Builder.Orderly
import StoreTopology.Proofs.Topology.Calls
import StoreTopology.Proofs.Topology.Validation

namespace StoreTopology

open StoreTopology.Action

namespace Catalog

variable {catalog : Catalog} {registry : RegistryId} {start site after : Site}
  {earlier calls : List Call} {call : Call} {block : Section} {forest : List Section}
  {place around : List Nat} {index : Nat} {plan first rest : List Visit} {error : ConfigError}
  {expected : SectionKind}

theorem IsOrderly.keepsRegistries (orderly : catalog.IsOrderly) : catalog.KeepsRegistries :=
  fun typeName builder found registry name options children site =>
    ((orderly typeName builder found).spares registry name options children site).toKeepsRegistries

/-! ### Stopping -/

/-- After earlier calls the sections of a plan are built in turn, until one fails. -/
def Stops (catalog : Catalog) (registry : RegistryId) (start : Site) (earlier : List Call)
    (plan : List Visit) (error : ConfigError) (after : Site) : Prop :=
  ∃ done stop visit last, Calls catalog registry start (earlier ++ done) stop ∧
    done.map Call.visit ++ [visit] <+: plan ∧
    Ends catalog registry (earlier ++ done) stop visit last error after

theorem Stops.of_plan (stops : Stops catalog registry start earlier plan error after)
    (begins : plan <+: first) : Stops catalog registry start earlier first error after := by
  obtain ⟨done, stop, visit, last, ran, visited, ends⟩ := stops
  exact ⟨done, stop, visit, last, ran, visited.trans begins, ends⟩

/-- Who stops later has done all before. -/
theorem Stops.later (visited : calls.map Call.visit = first)
    (stops : Stops catalog registry start (earlier ++ calls) rest error after) :
    Stops catalog registry start earlier (first ++ rest) error after := by
  obtain ⟨done, stop, visit, last, ran, begins, ends⟩ := stops
  rw [List.append_assoc] at ran ends
  refine ⟨calls ++ done, stop, visit, last, ran, ?_, ends⟩
  rw [List.map_append, visited, List.append_assoc]
  exact (List.prefix_append_right_inj first).mpr begins

/-! ### Building a section -/

/-- What building the section at a place does after earlier calls: the sections nested in it are
built in turn, and it is built after them, unless one of them fails. -/
inductive Builds (catalog : Catalog) (registry : RegistryId) (start : Site) (earlier : List Call)
    (place : List Nat) (block : Section) : Except ConfigError Built × Site → Prop
  | made {below : List Call} {stop : Site} {call : Call} {result : Except ConfigError Built × Site}
      (ran : Calls catalog registry start (earlier ++ below) stop)
      (visited : below.map Call.visit = Section.postorderAll place 0 block.children)
      (nested : Call.databases registry (earlier ++ below) = Call.databases registry earlier)
      (isMade : call.IsMade catalog registry (earlier ++ below) stop)
      (isVisit : call.visit = ⟨place, block⟩) (isResult : call.run registry = result) :
      Builds catalog registry start earlier place block result
  | stopped {error : ConfigError} {after : Site}
      (stops : Stops catalog registry start earlier (Section.postorder place block) error after) :
      Builds catalog registry start earlier place block (.error error, after)

/-- What building sections beside one another does: they are built in turn, unless one fails. -/
inductive BuildsAll (catalog : Catalog) (registry : RegistryId) (start : Site)
    (earlier : List Call) (around : List Nat) (index : Nat) (forest : List Section) :
    Except ConfigError (List Built) × Site → Prop
  | made {below : List Call} {stop : Site} {results : List Built}
      (ran : Calls catalog registry start (earlier ++ below) stop)
      (visited : below.map Call.visit = Section.postorderAll around index forest)
      (nested : Call.databases registry (earlier ++ below) = Call.databases registry earlier)
      (gave : Call.Gave registry below around index forest results) :
      BuildsAll catalog registry start earlier around index forest (.ok results, stop)
  | stopped {error : ConfigError} {after : Site}
      (stops : Stops catalog registry start earlier (Section.postorderAll around index forest) error
        after) :
      BuildsAll catalog registry start earlier around index forest (.error error, after)

/-- A section that was built was built by the last of the calls for it. -/
theorem Builds.of_ok {built : Built}
    (builds : Builds catalog registry start earlier place block (.ok built, after)) :
    ∃ below call stop, Calls catalog registry start (earlier ++ below) stop ∧
      (below ++ [call]).map Call.visit = Section.postorder place block ∧
      Call.databases registry (earlier ++ below) = Call.databases registry earlier ∧
      call.IsMade catalog registry (earlier ++ below) stop ∧ call.visit = ⟨place, block⟩ ∧
      call.run registry = (.ok built, after) := by
  cases builds with
  | @made below stop call _ ran visited nested isMade isVisit isResult =>
    refine ⟨below, call, stop, ran, ?_, nested, isMade, isVisit, isResult⟩
    rw [List.map_append, visited, List.map_singleton, isVisit, Section.postorder_eq]

/-- A section that was built may fail nevertheless, if what it built cannot be used. -/
theorem Builds.stops_of_ok {built : Built} {between : Site}
    (builds : Builds catalog registry start earlier place block (.ok built, between))
    (ends : ∀ {before : List Call} {stop : Site} {call : Call},
      call.IsMade catalog registry before stop → call.visit = ⟨place, block⟩ →
        call.run registry = (.ok built, between) →
          Ends catalog registry before stop call.visit (some call) error after) :
    Stops catalog registry start earlier (Section.postorder place block) error after := by
  obtain ⟨below, call, stop, ran, visited, _, isMade, isVisit, isResult⟩ := builds.of_ok
  refine ⟨below, stop, call.visit, some call, ran, ⟨[], ?_⟩, ends isMade isVisit isResult⟩
  rw [← visited, List.append_nil, List.map_append, List.map_singleton]

/-- If a section was not built, its call failed, or a section inside it was not built. -/
theorem Builds.of_error
    (builds : Builds catalog registry start earlier place block (.error error, after)) :
    Stops catalog registry start earlier (Section.postorder place block) error after := by
  cases builds with
  | @made below stop call _ ran visited _ isMade isVisit isResult =>
    refine ⟨below, stop, call.visit, some call, ran, ⟨[], ?_⟩, .notBuilt isMade isResult⟩
    rw [List.append_nil, visited, isVisit, ← Section.postorder_eq]
  | stopped stops => exact stops

/-- What building each of some sections does after any earlier calls. -/
def EachBuilds (catalog : Catalog) (registry : RegistryId) (start : Site) (forest : List Section) :
    Prop :=
  ∀ child ∈ forest, ∀ {earlier : List Call} {site : Site} (place : List Nat),
    Calls catalog registry start earlier site →
      place.head? = some (Call.databases registry earlier).length →
        Builds catalog registry start earlier place child (build catalog registry child site)

/-- Sections beside one another inside a section are built in turn, if each of them is built so. -/
theorem buildsAll_buildAll (each : EachBuilds catalog registry start forest)
    (ran : Calls catalog registry start earlier site)
    (inside : around.head? = some (Call.databases registry earlier).length) :
    BuildsAll catalog registry start earlier around index forest
      (buildAll catalog registry forest site) := by
  induction forest generalizing earlier site index with
  | nil =>
    have ranNone : Calls catalog registry start (earlier ++ []) site := by rwa [List.append_nil]
    exact .made ranNone rfl (by rw [List.append_nil]) .nil
  | cons child rest ih =>
    obtain ⟨eachFirst, eachOther⟩ := List.forall_mem_cons.mp each
    have insideFirst : (around ++ [index]).head? =
        some (Call.databases registry earlier).length := by
      rw [List.head?_append, inside, Option.some_or]
    have builds := eachFirst (around ++ [index]) ran insideFirst
    rw [buildAll]
    cases builtFirst : build catalog registry child site with
    | mk outcome between =>
      rw [builtFirst] at builds
      cases outcome with
      | error error =>
        rw [bind_of_error builtFirst]
        exact .stopped (builds.of_error.of_plan (List.prefix_append _ _))
      | ok built =>
        obtain ⟨below, call, stop, ranBelow, visited, nested, isMade, isVisit, isResult⟩ :=
          builds.of_ok
        obtain ⟨isPlace, rfl⟩ := Visit.mk.inj isVisit
        have isNested : 2 ≤ call.place.length := by
          rw [isPlace, List.length_append]
          refine Nat.succ_le_succ (List.length_pos_iff.mpr ?_)
          rintro rfl
          cases inside
        -- A nested call adds no database, so that the rest is inside the same top-level section.
        have ranFirst := ranBelow.next isMade (.nested isNested isResult)
        have sameDatabases := (Call.databases_nested isNested (earlier ++ below)).trans nested
        rw [List.append_assoc] at ranFirst sameDatabases
        have buildsRest : BuildsAll catalog registry start _ around (index + 1) rest _ :=
          ih eachOther ranFirst (by rw [sameDatabases, inside])
        rw [bind_of_ok builtFirst]
        cases builtRest : buildAll catalog registry rest between with
        | mk outcome stopRest =>
          rw [builtRest] at buildsRest
          cases buildsRest with
          | @made belowRest _ results ranRest visitedRest nestedRest gaveRest =>
            rw [List.append_assoc] at ranRest nestedRest
            rw [bind_of_ok builtRest]
            refine .made ranRest ?_ (nestedRest.trans sameDatabases) ?_
            · rw [List.map_append, visited, visitedRest, Section.postorderAll]
            · refine .cons (List.mem_append_left _ (List.mem_append_right _ List.mem_cons_self))
                isPlace (by rw [isResult]) (gaveRest.of_subset fun _ => List.mem_append_right _)
          | stopped stops =>
            rw [bind_of_error builtRest]
            exact .stopped (stops.later visited)

/-- Building a section calls the builders of its nested sections first, and its own last. -/
theorem builds_build (valid : validate catalog expected block = .ok ())
    (place : List Nat) (ran : Calls catalog registry start earlier site)
    (inside : place.head? = some (Call.databases registry earlier).length) :
    Builds catalog registry start earlier place block (build catalog registry block site) := by
  induction block using Section.induction generalizing expected earlier site place with
  | step block ih =>
    -- Nested sections are valid too, so that their types are known when they are looked up again.
    have each : EachBuilds catalog registry start block.children := by
      intro child isChild earlier site place ran inside
      obtain ⟨kind, validChild⟩ := exists_validate_of_mem valid isChild
      exact ih child isChild validChild place ran inside
    obtain ⟨builder, found, _⟩ := validate_eq_ok_iff.mp valid
    rw [build_of_lookup? found]
    have below : BuildsAll catalog registry start earlier place 0 block.children _ :=
      buildsAll_buildAll each ran inside
    cases built : buildAll catalog registry block.children site with
    | mk outcome between =>
      rw [built] at below
      cases below with
      | @made below _ results ranBelow visited nested gave =>
        rw [bind_of_ok built]
        cases settled : settleOptions builder.schema block between with
        | mk outcome settledSite =>
          cases outcome with
          | ok options =>
            rw [bind_of_ok settled, bind_of_ok (log_apply _ _)]
            have isMade : Call.IsMade catalog registry (earlier ++ below) between
                ⟨place, block, builder, options, results, settledSite.log .debug
                  (ConfigError.atLine ("Building <" ++ block.typeName ++ ">") block.line)⟩ :=
              ⟨found, settleOptions_eq_ok settled, ⟨settledSite, settled, rfl⟩,
                gave.of_subset fun _ => List.mem_append_right _, by rw [nested, inside]⟩
            exact .made ranBelow visited nested isMade rfl rfl
          | error error =>
            rw [bind_of_error settled]
            refine .stopped ⟨below, between, ⟨place, block⟩, none, ranBelow, ⟨[], ?_⟩,
              .notSettled found settled⟩
            rw [List.append_nil, visited, ← Section.postorder_eq]
      | stopped stops =>
        rw [bind_of_error built]
        refine .stopped (stops.of_plan ?_)
        rw [Section.postorder_eq]
        exact List.prefix_append _ _

/-! ### Building top-level sections -/

/-- Top-level sections that are built and registered are called for in turn. -/
theorem calls_of_buildDatabases {done : List Database}
    (valid : ∀ block ∈ forest, validate catalog .database block = .ok ())
    (ran : Calls catalog registry start earlier site)
    (isIndex : index = (Call.databases registry earlier).length)
    (succeeded : buildDatabases catalog registry forest site = (.ok done, after)) :
    ∃ calls, Calls catalog registry start (earlier ++ calls) after ∧
      calls.map Call.visit = Section.postorderAll [] index forest ∧
      Call.databases registry (earlier ++ calls) = Call.databases registry earlier ++ done := by
  induction forest generalizing earlier site index done with
  | nil =>
    cases succeeded
    refine ⟨[], ?_, rfl, ?_⟩
    · rwa [List.append_nil]
    · rw [List.append_nil, List.append_nil]
  | cons block rest ih =>
    obtain ⟨validFirst, validRest⟩ := List.forall_mem_cons.mp valid
    obtain ⟨database, between, others, first, builtRest, rfl⟩ :=
      buildDatabases_cons_iff.mp succeeded
    obtain ⟨_, built, registered⟩ := buildDatabase_eq_ok_iff.mp first
    have builds := builds_build validFirst [index] ran (by rw [isIndex, List.head?_cons])
    rw [built] at builds
    obtain ⟨below, call, stop, ranBelow, visited, nested, isMade, isVisit, isResult⟩ := builds.of_ok
    have isTop : call.place.length = 1 := by rw [(Visit.mk.inj isVisit).1, List.length_singleton]
    have ranFirst := ranBelow.next isMade (.registered isTop isResult registered)
    have added := Call.databases_top isTop isResult (earlier ++ below)
    rw [nested] at added
    rw [List.append_assoc] at ranFirst added
    obtain ⟨calls, ranRest, visitedRest, addedRest⟩ := ih validRest ranFirst
      (by rw [added, List.length_append, List.length_singleton, ← isIndex]) builtRest
    rw [List.append_assoc] at ranRest addedRest
    refine ⟨_, ranRest, ?_, ?_⟩
    · rw [List.map_append, visited, visitedRest, Section.postorderAll]
      rfl
    · rw [addedRest, added, List.append_assoc, List.singleton_append]

/-- A top-level section that fails is called for last, if at all. -/
theorem stops_of_failsAt (valid : validate catalog .database block = .ok ())
    (ran : Calls catalog registry start earlier site)
    (isIndex : index = (Call.databases registry earlier).length) {refused : Option Database}
    {failing closing : Site}
    (fails : catalog.FailsAt registry block site refused error failing closing after) :
    Stops catalog registry start earlier (Section.postorder [index] block) error after := by
  have builds := builds_build valid [index] ran (by rw [isIndex, List.head?_cons])
  cases fails with
  | notBuilt failed =>
    rw [failed] at builds
    exact builds.of_error
  | noDatabase built =>
    rw [built] at builds
    refine builds.stops_of_ok fun isMade isVisit isResult => ?_
    obtain ⟨isPlace, rfl⟩ := Visit.mk.inj isVisit
    exact .noDatabase isMade (isPlace ▸ rfl) isResult
  | refused built taken =>
    rw [built] at builds
    refine builds.stops_of_ok fun isMade isVisit isResult => ?_
    exact .refused isMade ((Visit.mk.inj isVisit).1 ▸ rfl) isResult taken

theorem length_of_buildDatabases {done : List Database}
    (succeeded : buildDatabases catalog registry forest site = (.ok done, after)) :
    done.length = forest.length := by
  induction forest generalizing site done with
  | nil =>
    cases succeeded
    rfl
  | cons block rest ih =>
    obtain ⟨_, _, others, _, builtOthers, rfl⟩ := buildDatabases_cons_iff.mp succeeded
    rw [List.length_cons, List.length_cons, ih builtOthers]

/-- Top-level sections are built in turn until one fails. Then what is registered is closed. -/
theorem stops_of_buildDatabases
    (valid : ∀ block ∈ forest, validate catalog .database block = .ok ())
    (failed : buildDatabases catalog registry forest start = (.error error, after)) :
    ∃ failing, Stops catalog registry start [] (Section.postorderAll [] 0 forest) error failing ∧
      after = (registry.closeAll failing).2 := by
  obtain ⟨earlier, block, later, done, between, failing, rfl, built, failedAt, rfl⟩ :=
    buildDatabases_eq_error failed
  obtain ⟨validEarlier, validLater⟩ := List.forall_mem_append.mp valid
  obtain ⟨calls, ran, visited, added⟩ := calls_of_buildDatabases validEarlier .none rfl built
  obtain ⟨refused, _, _, fails⟩ := buildDatabase_eq_error failedAt
  have isIndex : earlier.length = (Call.databases registry ([] ++ calls)).length := by
    rw [added, ← length_of_buildDatabases built]
    rfl
  have stops := stops_of_failsAt (List.forall_mem_cons.mp validLater).1 ran isIndex fails
  refine ⟨failing, ?_, rfl⟩
  rw [Section.postorderAll_append, Nat.zero_add, Section.postorderAll]
  exact (stops.of_plan (List.prefix_append _ _)).later visited

/-! ### Calls in order -/

/-- The calls that were made from a site on for the sections of a forest are in order. -/
structure InOrder (catalog : Catalog) (registry : RegistryId) (forest : List Section) (start : Site)
    (calls : List Call) : Prop where
  /-- They are for the first sections of the traversal, none of them twice. -/
  inOrder : calls.map Call.visit <+: Section.postorderAll [] 0 forest
  once : (calls.map Call.place).Nodup
  /-- Each was made on the site that those before it left, and with what these gave. -/
  made : ∀ earlier call later, calls = earlier ++ call :: later →
    ∃ site, Calls catalog registry start earlier site ∧ call.IsMade catalog registry earlier site
  /-- Only the last may have failed, or its database may have been refused. -/
  goesOn : ∀ earlier call later, calls = earlier ++ call :: later → later ≠ [] →
    ∃ after, call.Leaves registry after
  /-- Each was made when the registry listed just the databases of the top-level sections before. -/
  registered : ∀ earlier call later, calls = earlier ++ call :: later →
    ∃ databases, registry.Lists call.before databases ∧
      call.place.head? = some databases.length ∧
      ∀ index database, databases[index]? = some database →
        ∃ top ∈ earlier, top.place = [index] ∧ (top.run registry).1 = .ok (.database database)

theorem InOrder.of_calls (keeps : catalog.KeepsRegistries) (nothing : registry.Lists start [])
    (ran : Calls catalog registry start earlier site) {last : Option Call}
    (lastMade : ∀ call ∈ last, call.IsMade catalog registry earlier site)
    (inOrder : (earlier ++ last.toList).map Call.visit <+: Section.postorderAll [] 0 forest) :
    catalog.InOrder registry forest start (earlier ++ last.toList) where
  inOrder := inOrder
  once := by
    have places := (inOrder.sublist.map Visit.place).nodup (Section.places_nodup [] 0 forest)
    rw [List.map_map] at places
    exact places
  made := fun before call later same => by
    obtain ⟨site, ranBefore, made, _⟩ := ran.isMade_of_last lastMade same
    exact ⟨site, ranBefore, made⟩
  goesOn := fun before call later same more => by
    obtain ⟨_, _, _, leaves⟩ := ran.isMade_of_last lastMade same
    exact leaves more
  registered := fun before call later same => by
    obtain ⟨site, ranBefore, made, _⟩ := ran.isMade_of_last lastMade same
    have listed := (ranBefore.lists keeps nothing).of_keeps (Calls.keepsRegistries keeps made).1
    exact ⟨_, listed, made.inside, fun index database => ranBefore.exists_of_databases⟩

end Catalog

/-- **A compilation calls builders from the inside out and in source order**: for all sections if it
succeeds, and otherwise for those up to the first failure, of which it returns the error. -/
theorem compile_inOrder {catalog : Catalog} (keeps : catalog.KeepsRegistries) {text : String}
    {forest : List Section} (parsed : parse text = .ok forest)
    (valid : catalog.validateAll .database forest = .ok ()) (site : Site) :
    ∃ calls, catalog.InOrder site.addRegistry.1 forest site.addRegistry.2 calls ∧
      (∀ topology after, catalog.compile text site = (.ok topology, after) →
        calls.map Call.visit = Section.postorderAll [] 0 forest ∧
          Calls catalog site.addRegistry.1 site.addRegistry.2 calls after ∧
          topology = ⟨Call.databases site.addRegistry.1 calls, site.addRegistry.1⟩) ∧
      ∀ error after, catalog.compile text site = (.error error, after) →
        ∃ earlier stop visit last failing, calls = earlier ++ last.toList ∧
          earlier.map Call.visit ++ [visit] <+: Section.postorderAll [] 0 forest ∧
          Calls catalog site.addRegistry.1 site.addRegistry.2 earlier stop ∧
          Ends catalog site.addRegistry.1 earlier stop visit last error failing ∧
          after = (site.addRegistry.1.closeAll failing).2 := by
  have validEach := Catalog.validateAll_eq_ok_iff.mp valid
  have nothing := RegistryId.Lists.addRegistry site
  rw [Catalog.compile_of_valid parsed valid]
  cases built : catalog.buildDatabases site.addRegistry.1 forest site.addRegistry.2 with
  | mk outcome after =>
    cases outcome with
    | ok databases =>
      rw [bind_of_ok built]
      obtain ⟨calls, ran, visited, added⟩ :=
        Catalog.calls_of_buildDatabases validEach .none rfl built
      rw [List.nil_append] at ran added
      have all : calls.map Call.visit = Section.postorderAll [] 0 forest := visited
      have inOrder : catalog.InOrder site.addRegistry.1 forest site.addRegistry.2
          (calls ++ (none : Option Call).toList) := by
        refine .of_calls keeps nothing ran (fun _ isLast => nomatch isLast) ⟨[], ?_⟩
        rw [Option.toList_none, List.append_nil, List.append_nil, all]
      rw [Option.toList_none, List.append_nil] at inOrder
      refine ⟨calls, inOrder, fun topology stop compiled => ?_, fun error stop failed => ?_⟩
      · cases compiled
        exact ⟨visited, ran, congrArg (Topology.mk · _) added.symm⟩
      · cases failed
    | error problem =>
      rw [bind_of_error built]
      obtain ⟨failing, ⟨done, stop, visit, last, ran, visited, ends⟩, isAfter⟩ :=
        Catalog.stops_of_buildDatabases validEach built
      have inOrder : catalog.InOrder site.addRegistry.1 forest site.addRegistry.2
          (done ++ last.toList) := by
        refine .of_calls keeps nothing ran ends.isMade ?_
        rw [List.map_append]
        exact ((List.prefix_append_right_inj _).mpr ends.visits).trans visited
      refine ⟨done ++ last.toList, inOrder, fun topology stop compiled => ?_,
        fun error stop' failed => ?_⟩
      · cases compiled
      · cases failed
        exact ⟨done, stop, visit, last, failing, rfl, visited, ran, ends, isAfter⟩

/-- Two databases, the first over a demo storage with a base of its own. -/
def layeredDatabases : String :=
  "<zodb main>\n<demostorage>\n<mappingstorage/>\n</demostorage>\n</zodb>\n" ++
    "<zodb side>\n<mappingstorage/>\n</zodb>\n"

/-- All five sections are built from the inside out, the first database before the second. -/
theorem compile_inOrder_layered :
    ∃ forest calls, parse layeredDatabases = .ok forest ∧
      Catalog.builtIn.InOrder ⟨0⟩ forest (Site.addRegistry {}).2 calls ∧
      calls.map Call.place = [[0, 0, 0], [0, 0], [0], [1, 0], [1]] := by
  have checks : (parse layeredDatabases).toOption.map (fun forest =>
      ((Catalog.builtIn.validateAll .database forest).toOption,
        (Section.postorderAll [] 0 forest).map Visit.place)) =
      some (some (), [[0, 0, 0], [0, 0], [0], [1, 0], [1]]) := by
    decide +kernel
  obtain ⟨forest, isForest, isChecked⟩ := Option.map_eq_some_iff.mp checks
  obtain ⟨isValid, places⟩ := Prod.mk.inj isChecked
  have parsed := toOption_eq_some_iff.mp isForest
  have valid := toOption_eq_some_iff.mp isValid
  obtain ⟨calls, inOrder, succeeds, _⟩ :=
    compile_inOrder Catalog.isOrderly_builtIn.keepsRegistries parsed valid {}
  have compiles : (Catalog.builtIn.compile layeredDatabases {}).1.toOption.isSome = true := by
    decide +kernel
  cases compiled : Catalog.builtIn.compile layeredDatabases {} with
  | mk outcome after =>
    rw [compiled] at compiles
    cases outcome with
    | error error => cases compiles
    | ok topology =>
      obtain ⟨visited, _, _⟩ := succeeds topology after compiled
      refine ⟨forest, calls, parsed, inOrder, ?_⟩
      rw [← places, ← visited, List.map_map]
      rfl

end StoreTopology
