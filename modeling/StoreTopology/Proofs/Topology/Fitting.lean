/-
**Sections that have been checked fit together when they are built.**

What a valid section builds is of the kind that was expected, so that each builder is called with
the children that its type takes. The checks that builders make again never fail.

* `Catalog.returns_build`, `Catalog.returns_buildAll`: what valid sections build;
* `Catalog.failsOutside_build`: the errors that building one can end with;
* `Catalog.SameWhenFitting`: two catalogs differ only in what their builders do with other children;
* `Catalog.children_of_inOrder`: the children that calls are made with;
* `compile_fits`: the checks that are dead in both compilations.
-/

import StoreTopology.Proofs.Builder.Sufficing
import StoreTopology.Proofs.Topology.Order
import StoreTopology.Proofs.Topology.Phases

namespace StoreTopology

open StoreTopology.Action

namespace Catalog

variable {catalog other : Catalog} {registry : RegistryId} {block : Section} {forest : List Section}
  {expected : SectionKind} {builder : Builder} {text : String} {error : ConfigError}

/-! ### What valid sections build -/

/-- What a valid section builds is of the expected kind. -/
theorem returns_build (valid : validate builtIn expected block = .ok ()) :
    Returns (fun built => built.kind = expected) (build builtIn registry block) := by
  intro site built after succeeded
  obtain ⟨builder, _, _, _, _, found, _, _, _, succeeded⟩ := build_eq_ok succeeded
  obtain ⟨other, isFound, kind, _⟩ := validate_eq_ok_iff.mp valid
  cases found.symm.trans isFound
  rw [kind_of_builtIn found succeeded, kind]

/-- What is nested in a valid section builds what the type of the section takes. -/
theorem returns_buildAll (valid : validate builtIn expected block = .ok ())
    (found : builtIn.lookup? block.typeName = some builder) :
    Returns builder.children.Fits (buildAll builtIn registry block.children) := by
  obtain ⟨other, isFound, _, shape⟩ := validate_eq_ok_iff.mp valid
  cases found.symm.trans isFound
  intro site results after succeeded
  rcases shape with ⟨none, noChild⟩ | ⟨kind, child, one, only, validChild⟩
  · rw [noChild] at succeeded
    cases succeeded
    rw [none]
    rfl
  · rw [only, buildAll] at succeeded
    obtain ⟨first, _, builtFirst, succeeded⟩ := bind_eq_ok_iff.mp succeeded
    cases succeeded
    rw [one]
    exact congrArg (fun kind => [kind]) (returns_build validChild _ _ _ builtFirst)

theorem returns_settleOptions (schema : OptionSchema) (block : Section) :
    Returns (fun options => schema.coerce block = .ok options) (settleOptions schema block) :=
  fun _ _ _ settled => settleOptions_eq_ok settled

/-! ### Errors of a build -/

theorem failsOutside_settleOptions (found : builtIn.lookup? block.typeName = some builder) :
    FailsWith ConfigError.IsOutside (settleOptions builder.schema block) := by
  refine .bind (.change _) fun _ => .ofExcept fun error failed => ?_
  cases settled : (builder.schema.settle block).result with
  | ok options =>
    rw [settled] at failed
    cases failed
  | error problem =>
    rw [settled] at failed
    cases failed
    exact isOutside_of_coerce found settled

/-- Building a valid section fails for no check that was made before. -/
theorem failsOutside_build (valid : validate builtIn expected block = .ok ()) :
    FailsWith ConfigError.IsOutside (build builtIn registry block) := by
  induction block using Section.induction generalizing expected with
  | step block ih =>
    obtain ⟨builder, found, _⟩ := validate_eq_ok_iff.mp valid
    have below : FailsWith ConfigError.IsOutside (buildAll builtIn registry block.children) := by
      refine failsWith_buildAll fun child nested => ?_
      obtain ⟨kind, validChild⟩ := exists_validate_of_mem valid nested
      exact ih child nested validChild
    rw [build_of_lookup? found]
    exact .bind_of_returns below (returns_buildAll valid found) fun results fits =>
      .bind_of_returns (failsOutside_settleOptions found) (returns_settleOptions _ _)
        fun options coerced => .bind (.change _) fun _ =>
          failsOutside_builtIn found coerced fits registry _

theorem failsOutside_buildDatabase (valid : validate builtIn .database block = .ok ()) :
    FailsWith ConfigError.IsOutside (buildDatabase builtIn registry block) := by
  refine .bind_of_returns (failsOutside_build valid) (returns_build valid) fun built kind => ?_
  cases built with
  | storage storage => cases kind
  | database database =>
    refine .bind (.outcome _) fun registered => ?_
    cases registered with
    | ok _ => exact .pure _
    | error problem =>
      refine .bind (.outcome _) fun _ => ?_
      split
      · exact .throw nofun
      · exact .throw nofun

theorem failsOutside_buildDatabases (valid : validateAll builtIn .database forest = .ok ()) :
    FailsWith ConfigError.IsOutside (buildDatabases builtIn registry forest) := by
  intro site error after failed
  obtain ⟨earlier, block, later, _, between, failing, rfl, _, failedAt, _⟩ :=
    buildDatabases_eq_error failed
  have present : block ∈ earlier ++ block :: later := List.mem_append_right _ List.mem_cons_self
  exact failsOutside_buildDatabase (validateAll_eq_ok_iff.mp valid block present) between error
    failing failedAt

/-! ### Errors of a compilation -/

theorem isOutside_of_isSyntactic (hasLine : error.isSyntactic = true) : error.IsOutside := by
  rintro (_ | _ | _ | _ | _)
  all_goals cases hasLine

theorem failsOutside_assemble (checked : builtIn.check text = .ok forest) :
    FailsWith ConfigError.IsOutside (builtIn.assemble forest) :=
  .bind (.create _) fun _ =>
    .bind (failsOutside_buildDatabases (valid_of_check checked).2) fun _ => .pure _

theorem failsOutside_assembleStorage (checked : builtIn.checkStorage text = .ok block) :
    FailsWith ConfigError.IsOutside (builtIn.assembleStorage block) := by
  have valid := valid_of_checkStorage checked
  refine .bind (.create _) fun _ => .bind_of_returns (failsOutside_build valid)
    (returns_build valid) fun built kind => ?_
  cases built with
  | storage storage => exact .pure _
  | database database => cases kind

/-- A compilation fails for no check that it made before, and an unknown type is found by its check,
before anything has happened. -/
structure FailsOutside {α β : Type} (run : Action ConfigError β) (checked : Except ConfigError α) :
    Prop where
  isOutside : FailsWith ConfigError.IsOutside run
  unknownType : ∀ site typeName line after,
    run site = (.error (.misplaced (.unknownType typeName) line), after) →
      checked = .error (.misplaced (.unknownType typeName) line) ∧ after = site

/-- An action that starts with a check fails so if what comes after it fails late, and for nothing
that is internal. -/
theorem FailsOutside.of_check {α β : Type} {run : Action ConfigError β}
    {checked : Except ConfigError α} {next : α → Action ConfigError β}
    (runs : run = ofExcept checked >>= next)
    (refuses : ∀ error, checked = .error error → error.IsOutside)
    (goesOn : ∀ value, checked = .ok value →
      FailsWith ConfigError.IsOutside (next value) ∧ FailsWith ConfigError.IsLate (next value)) :
    FailsOutside run checked := by
  subst runs
  refine ⟨fun site error after failed => ?_, fun site typeName line after failed => ?_⟩
  · rcases bind_eq_error_iff.mp failed with refused | ⟨value, between, succeeded, failed⟩
    · exact refuses error (Prod.mk.inj refused).1
    · exact (goesOn value (Prod.mk.inj succeeded).1).1 between error after failed
  · rcases bind_eq_error_iff.mp failed with refused | ⟨value, between, succeeded, failed⟩
    · obtain ⟨isRefused, same⟩ := Prod.mk.inj refused
      exact ⟨isRefused, same.symm⟩
    · have late := (goesOn value (Prod.mk.inj succeeded).1).2 between _ after failed
      cases late.isSyntactic

theorem failsOutside_compile (text : String) :
    FailsOutside (builtIn.compile text) (builtIn.check text) :=
  .of_check (compile_eq builtIn text)
    (fun _ refused => isOutside_of_isSyntactic (isSyntactic_of_check refused))
    fun _ checked => ⟨failsOutside_assemble checked, failsLate_assemble checked⟩

theorem failsOutside_compileStorage (text : String) :
    FailsOutside (builtIn.compileStorage text) (builtIn.checkStorage text) := by
  refine .of_check (compileStorage_eq builtIn text) (fun error refused => ?_) fun _ checked =>
    ⟨failsOutside_assembleStorage checked, failsLate_assembleStorage checked⟩
  rcases isSyntactic_or_none_of_checkStorage refused with hasLine | rfl
  · exact isOutside_of_isSyntactic hasLine
  · exact nofun

/-! ### Builders that differ where children do not fit -/

end Catalog

/-- Two builders take the same sections, and do the same with children that fit. -/
structure Builder.SameWhenFitting (builder other : Builder) : Prop where
  kind : other.kind = builder.kind
  children : other.children = builder.children
  schema : other.schema = builder.schema
  build : ∀ registry name options children, builder.children.Fits children →
    other.build registry name options children = builder.build registry name options children

namespace Catalog

variable {catalog other : Catalog} {registry : RegistryId} {block : Section} {forest : List Section}
  {expected : SectionKind} {builder : Builder} {text : String}

/-- Two catalogs know the same types, and their builders do the same with children that fit. -/
def SameWhenFitting (catalog other : Catalog) : Prop :=
  ∀ typeName, Option.Rel Builder.SameWhenFitting (catalog.lookup? typeName) (other.lookup? typeName)

theorem SameWhenFitting.exists_lookup? (same : catalog.SameWhenFitting other) {typeName : String}
    (found : catalog.lookup? typeName = some builder) :
    ∃ alike, other.lookup? typeName = some alike ∧ builder.SameWhenFitting alike := by
  have related := same typeName
  rw [found] at related
  cases isOther : other.lookup? typeName with
  | none =>
    rw [isOther] at related
    cases related
  | some alike =>
    rw [isOther] at related
    cases related with
    | some alikes => exact ⟨alike, rfl, alikes⟩

theorem SameWhenFitting.sameShapes (same : catalog.SameWhenFitting other) :
    SameShapes other catalog := by
  intro typeName
  cases found : catalog.lookup? typeName with
  | none =>
    have related := same typeName
    rw [found] at related
    cases isOther : other.lookup? typeName with
    | none => rfl
    | some alike =>
      rw [isOther] at related
      cases related
  | some builder =>
    obtain ⟨alike, isOther, alikes⟩ := same.exists_lookup? found
    rw [isOther, Option.map_some, Option.map_some, alikes.kind, alikes.children]

theorem buildAll_congr
    (each : ∀ block ∈ forest, build other registry block = build catalog registry block) :
    buildAll other registry forest = buildAll catalog registry forest := by
  induction forest with
  | nil => rw [buildAll, buildAll]
  | cons block rest ih =>
    obtain ⟨first, others⟩ := List.forall_mem_cons.mp each
    rw [buildAll, buildAll, first, ih others]

/-- A valid section is built in the same way, since all children fit. -/
theorem SameWhenFitting.build_eq (same : builtIn.SameWhenFitting other)
    (valid : validate builtIn expected block = .ok ()) :
    build other registry block = build builtIn registry block := by
  induction block using Section.induction generalizing expected with
  | step block ih =>
    obtain ⟨builder, found, _⟩ := validate_eq_ok_iff.mp valid
    obtain ⟨alike, isOther, alikes⟩ := same.exists_lookup? found
    have below : buildAll other registry block.children =
        buildAll builtIn registry block.children := by
      refine buildAll_congr fun child nested => ?_
      obtain ⟨kind, validChild⟩ := exists_validate_of_mem valid nested
      exact ih child nested validChild
    rw [build_of_lookup? found, build_of_lookup? isOther, below, alikes.schema]
    refine bind_congr_of_returns (returns_buildAll valid found) fun results fits => ?_
    exact congrArg _ (funext fun options => congrArg _ (funext fun _ =>
      alikes.build registry block.name options results fits))

theorem SameWhenFitting.buildDatabases_eq (same : builtIn.SameWhenFitting other)
    (valid : ∀ block ∈ forest, validate builtIn .database block = .ok ()) :
    buildDatabases other registry forest = buildDatabases builtIn registry forest := by
  induction forest with
  | nil => rw [buildDatabases, buildDatabases]
  | cons block rest ih =>
    obtain ⟨first, others⟩ := List.forall_mem_cons.mp valid
    rw [buildDatabases, buildDatabases, buildDatabase, buildDatabase, same.build_eq first,
      ih others]

theorem SameWhenFitting.compile_eq (same : builtIn.SameWhenFitting other) (text : String) :
    other.compile text = builtIn.compile text := by
  rw [Catalog.compile_eq, Catalog.compile_eq, same.sameShapes.check_eq]
  cases checked : builtIn.check text with
  | error problem => rfl
  | ok forest =>
    have valid := validateAll_eq_ok_iff.mp (valid_of_check checked).2
    show other.assemble forest = builtIn.assemble forest
    unfold assemble
    simp only [same.buildDatabases_eq valid]

theorem SameWhenFitting.compileStorage_eq (same : builtIn.SameWhenFitting other) (text : String) :
    other.compileStorage text = builtIn.compileStorage text := by
  rw [Catalog.compileStorage_eq, Catalog.compileStorage_eq, same.sameShapes.checkStorage_eq]
  cases checked : builtIn.checkStorage text with
  | error problem => rfl
  | ok block =>
    show other.assembleStorage block = builtIn.assembleStorage block
    unfold assembleStorage
    simp only [same.build_eq (valid_of_checkStorage checked)]

/-! ### Calls -/

section Calls

variable {start : Site} {calls earlier : List Call} {call : Call} {around : List Nat} {index : Nat}
  {visit : Visit}

/-- The sections that a traversal of valid sections visits are valid. -/
theorem exists_validate_of_visit
    (valid : ∀ block ∈ forest, ∃ kind, validate catalog kind block = .ok ())
    (present : visit ∈ Section.postorderAll around index forest) :
    ∃ kind, validate catalog kind visit.block = .ok () := by
  induction forest using Section.forest_induction generalizing around index with
  | nil => cases present
  | cons block rest ihNested ih =>
    obtain ⟨first, others⟩ := List.forall_mem_cons.mp valid
    rw [Section.postorderAll, Section.postorder_eq, List.mem_append, List.mem_append,
      List.mem_singleton] at present
    rcases present with (nested | rfl) | later
    · obtain ⟨kind, validFirst⟩ := first
      exact ihNested (fun child isChild => exists_validate_of_mem validFirst isChild) nested
    · exact first
    · exact ih others later

/-- Each of the calls in order was made after some of them. -/
theorem InOrder.exists_isMade (inOrder : catalog.InOrder registry forest start calls)
    (present : call ∈ calls) :
    ∃ earlier site, call.IsMade catalog registry earlier site ∧
      ∀ other ∈ earlier, other ∈ calls := by
  obtain ⟨earlier, later, rfl⟩ := List.append_of_mem present
  obtain ⟨site, _, made⟩ := inOrder.made earlier call later rfl
  exact ⟨earlier, site, made, fun other isEarlier => List.mem_append_left _ isEarlier⟩

theorem eq_nil_of_gave {results : List Built}
    (gave : Call.Gave registry earlier around index [] results) : results = [] := by
  cases gave
  rfl

/-- The one nested section of a call has been built by an earlier call, to what this returned. -/
theorem exists_of_gave {child : Section} {results : List Built}
    (gave : Call.Gave registry earlier around index [child] results) :
    ∃ below ∈ earlier, below.block = child ∧ ∃ built, (below.run registry).1 = .ok built ∧
      results = [built] := by
  cases gave with
  | cons isEarlier _ gave others =>
    cases others
    exact ⟨_, isEarlier, rfl, _, gave, rfl⟩

/-- The calls for valid sections are made with the children that their types take. -/
theorem fits_of_inOrder (valid : validateAll builtIn expected forest = .ok ())
    (inOrder : builtIn.InOrder registry forest start calls) (present : call ∈ calls) :
    call.builder.children.Fits call.children := by
  have validEach : ∀ block ∈ forest, ∃ kind, validate builtIn kind block = .ok () :=
    fun block inForest => ⟨expected, validateAll_eq_ok_iff.mp valid block inForest⟩
  have visited : call.visit ∈ Section.postorderAll [] 0 forest :=
    inOrder.inOrder.subset (List.mem_map_of_mem present)
  obtain ⟨earlier, site, made, areCalls⟩ := inOrder.exists_isMade present
  obtain ⟨kind, validCall⟩ := exists_validate_of_visit validEach visited
  obtain ⟨builder, found, _, shape⟩ := validate_eq_ok_iff.mp validCall
  cases made.found.symm.trans found
  have gave := made.children
  rcases shape with ⟨none, noChild⟩ | ⟨kind, child, one, only, validChild⟩
  · change call.block.children = [] at noChild
    rw [noChild] at gave
    rw [none, eq_nil_of_gave gave]
    rfl
  · change call.block.children = [child] at only
    rw [only] at gave
    obtain ⟨below, isEarlier, rfl, built, returned, isOnly⟩ := exists_of_gave gave
    -- The builder that the earlier call is for builds what is expected of the nested section.
    obtain ⟨_, _, madeBelow, _⟩ := inOrder.exists_isMade (areCalls below isEarlier)
    obtain ⟨builder, foundBelow, isKind, _⟩ := validate_eq_ok_iff.mp validChild
    cases madeBelow.found.symm.trans foundBelow
    have succeeded : below.run registry = (.ok built, (below.run registry).2) :=
      Prod.ext returned rfl
    rw [one, isOnly]
    exact congrArg (fun kind => [kind]) ((kind_of_builtIn foundBelow succeeded).trans isKind)

/-- A call for a demo storage or a database is made with exactly one child, which is a storage. -/
theorem children_of_inOrder (valid : validateAll builtIn expected forest = .ok ())
    (inOrder : builtIn.InOrder registry forest start calls) (present : call ∈ calls)
    (isOver : Text.lowercased call.block.typeName ∈ ["demostorage", "zodb"]) :
    ∃ storage, call.children = [.storage storage] := by
  have fits := fits_of_inOrder valid inOrder present
  obtain ⟨_, _, made, _⟩ := inOrder.exists_isMade present
  refine ChildShape.fits_storage_iff.mp ?_
  rcases builtIn_cases made.found with ⟨isType, _⟩ | ⟨isType, _⟩ | ⟨_, isBuilder⟩ | ⟨_, isBuilder⟩
  · rw [isType] at isOver
    exact absurd isOver (by decide)
  · rw [isType] at isOver
    exact absurd isOver (by decide)
  · rw [isBuilder] at fits
    exact fits
  · rw [isBuilder] at fits
    exact fits

end Calls

end Catalog

/-- **Sections that have been checked fit together when they are built.** Neither compilation fails
for a check that builders or schemas make again, and an unknown type is found before anything has
happened. What builders would do with children that do not fit makes no difference; in particular a
demo storage or a database is called for with one storage. The defaults of the built-in schemas can
be read. -/
theorem compile_fits (text : String) :
    Catalog.FailsOutside (Catalog.builtIn.compile text) (Catalog.builtIn.check text) ∧
    Catalog.FailsOutside (Catalog.builtIn.compileStorage text)
      (Catalog.builtIn.checkStorage text) ∧
    (∀ other : Catalog, Catalog.builtIn.SameWhenFitting other →
      other.compile text = Catalog.builtIn.compile text ∧
        other.compileStorage text = Catalog.builtIn.compileStorage text) ∧
    (∀ expected forest, Catalog.builtIn.validateAll expected forest = .ok () →
      ∀ registry start calls, Catalog.builtIn.InOrder registry forest start calls →
        ∀ call ∈ calls, Text.lowercased call.block.typeName ∈ ["demostorage", "zodb"] →
          ∃ storage, call.children = [.storage storage]) ∧
    ∀ typeName builder, Catalog.builtIn.lookup? typeName = some builder →
      ∀ spec ∈ builder.schema.specs, ∀ raw, spec.default = some raw →
        ∃ value, spec.coercion.coerce spec.key raw = .ok value :=
  ⟨Catalog.failsOutside_compile text, Catalog.failsOutside_compileStorage text,
    fun _ same => ⟨same.compile_eq text, same.compileStorage_eq text⟩,
    fun _ _ valid _ _ _ inOrder _ present isOver =>
      Catalog.children_of_inOrder valid inOrder present isOver,
    fun _ _ found _ declared _ isDefault => Catalog.reads_default found declared isDefault⟩

/-- A demo storage over the first storage, without a check that there is no other child. -/
def Builder.uncheckedDemo : Builder where
  kind := .storage
  children := .one .storage
  schema := demoSchema
  build _ name options children := do
    match children with
    | .storage base :: _ =>
      return .storage (← Storage.newDemo ((options.string? "name").or name) base)
    | _ => return .storage (← Storage.newMapping Storage.defaultMappingName .empty)

theorem Catalog.sameWhenFitting_uncheckedDemo :
    builtIn.SameWhenFitting (builtIn.register "demostorage" Builder.uncheckedDemo) := by
  intro typeName
  rw [lookup?_register]
  split
  · next isDemo =>
    have found : builtIn.lookup? typeName = some Builder.demo := by
      show builtIn.get? (Text.lowercased typeName) = _
      rw [← isDemo]
      rfl
    rw [found]
    refine .some ⟨rfl, rfl, rfl, fun registry name options children fits => ?_⟩
    obtain ⟨storage, rfl⟩ := ChildShape.fits_storage_iff.mp fits
    rfl
  · cases builtIn.lookup? typeName with
    | none => exact .none
    | some builder => exact .some ⟨rfl, rfl, rfl, fun _ _ _ _ _ => rfl⟩

/-- A database over a demo storage over a section of some type. -/
def overText (typeName : String) : String :=
  "<zodb>\n<demostorage>\n<" ++ typeName ++ "/>\n</demostorage>\n</zodb>\n"

/-- A file storage without a path is refused for this, and an unknown type by the check. The check
for one storage might be left out. -/
theorem compile_fits_unchecked :
    (∃ after, Catalog.builtIn.compile (overText "filestorage") {} =
      (.error (.option (.missingOption "path" "filestorage" 3)), after)) ∧
    (ConfigError.option (.missingOption "path" "filestorage" 3)).IsOutside ∧
    Catalog.builtIn.compile (overText "tape") {} =
      (.error (.misplaced (.unknownType "tape") 3), {}) ∧
    (Catalog.builtIn.register "demostorage" Builder.uncheckedDemo).compile
      (overText "filestorage") = Catalog.builtIn.compile (overText "filestorage") := by
  obtain ⟨outside, _, same, _⟩ := compile_fits (overText "filestorage")
  obtain ⟨unknown, _⟩ := compile_fits (overText "tape")
  have missing : (Catalog.builtIn.compile (overText "filestorage") {}).1 =
      .error (.option (.missingOption "path" "filestorage" 3)) :=
    error?_eq_some_iff.mp (by decide +kernel)
  have refused : (Catalog.builtIn.compile (overText "tape") {}).1 =
      .error (.misplaced (.unknownType "tape") 3) := error?_eq_some_iff.mp (by decide +kernel)
  have fails : Catalog.builtIn.compile (overText "filestorage") {} =
      (.error (.option (.missingOption "path" "filestorage" 3)),
        (Catalog.builtIn.compile (overText "filestorage") {}).2) := by rw [← missing]
  have refuses : Catalog.builtIn.compile (overText "tape") {} =
      (.error (.misplaced (.unknownType "tape") 3),
        (Catalog.builtIn.compile (overText "tape") {}).2) := by rw [← refused]
  obtain ⟨_, unchanged⟩ := unknown.unknownType {} _ _ _ refuses
  rw [unchanged] at refuses
  exact ⟨⟨_, fails⟩, outside.isOutside {} _ _ fails, refuses,
    (same _ Catalog.sameWhenFitting_uncheckedDemo).1⟩

end StoreTopology
