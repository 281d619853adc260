/-
**Checking accepts the sections that conform to a catalog, and reports the first that does not.**

A type says what its sections build and which sections they take. Whether a section conforms is told
by its type and by the sections nested in it. A section that does not conform is reported with the
first problem that it has, the sections around it coming before those inside.

* `Catalog.Conforms`: a section conforms, with all that is nested in it;
* `Catalog.preorder`: a section and what is nested in it from the outside in, with what is expected
  at each place;
* `Catalog.HasProblem`: the problem of one section where it stands;
* `Catalog.validate_conformance`: what checking accepts, and what it reports.
-/

import StoreTopology.Proofs.Option.Meaning
import StoreTopology.Proofs.Topology.Validation

namespace StoreTopology

/-- The kind of the nested sections that are taken. -/
def ChildShape.kind? : ChildShape → Option SectionKind
  | .none => Option.none
  | .one kind => some kind

/-- A section where it stands, with the kind that is expected there, if any is. -/
structure Standing where
  expected? : Option SectionKind
  block : Section

namespace Catalog

variable {catalog : Catalog} {expected kind : SectionKind} {expected? : Option SectionKind}
  {block child : Section} {builder : Builder} {stand : Standing} {problem : NestingProblem}
  {error : ConfigError}

/-- A section builds what is expected if its type is in the catalog and builds that kind, and its
nested sections are those that the type takes: none, or one that builds a given kind in turn. -/
inductive Conforms (catalog : Catalog) : SectionKind → Section → Prop
  | leaf {block : Section} {builder : Builder}
      (known : catalog.lookup? block.typeName = some builder)
      (takes : builder.children = .none) (childless : block.children = []) :
      Conforms catalog builder.kind block
  | around {block child : Section} {builder : Builder} {kind : SectionKind}
      (known : catalog.lookup? block.typeName = some builder)
      (takes : builder.children = .one kind) (only : block.children = [child])
      (inside : Conforms catalog kind child) : Conforms catalog builder.kind block

/-! ### From the outside in -/

/-- The kind that is expected of what is nested in a section of a type. -/
def nestedKind? (catalog : Catalog) (typeName : String) : Option SectionKind :=
  (catalog.lookup? typeName).bind fun builder => builder.children.kind?

mutual

/-- A section where it stands and then the sections nested in it, each before those nested in it. -/
def preorder (catalog : Catalog) (expected? : Option SectionKind) : Section → List Standing
  | ⟨typeName, name, options, children, line, endLine⟩ =>
    ⟨expected?, ⟨typeName, name, options, children, line, endLine⟩⟩ ::
      preorderAll catalog (catalog.nestedKind? typeName) children

/-- Sections beside one another, of which the same is expected. -/
def preorderAll (catalog : Catalog) (expected? : Option SectionKind) :
    List Section → List Standing
  | [] => []
  | block :: rest => preorder catalog expected? block ++ preorderAll catalog expected? rest

end

theorem preorder_eq (catalog : Catalog) (expected? : Option SectionKind) (block : Section) :
    preorder catalog expected? block = ⟨expected?, block⟩ ::
      preorderAll catalog (catalog.nestedKind? block.typeName) block.children := by
  cases block
  rw [preorder]

/-- The problem of a section where it stands, whatever is wrong inside its nested sections. An
unknown type comes before the wrong kind, and this before nested sections that are not taken. -/
inductive HasProblem (catalog : Catalog) (stand : Standing) : NestingProblem → Prop
  | unknownType (unknown : catalog.lookup? stand.block.typeName = none) :
      HasProblem catalog stand (.unknownType stand.block.typeName)
  | wrongKind {builder : Builder} {expected : SectionKind}
      (known : catalog.lookup? stand.block.typeName = some builder)
      (expects : stand.expected? = some expected) (differs : builder.kind ≠ expected) :
      HasProblem catalog stand (.wrongKind stand.block.typeName builder.kind expected)
  | unexpectedChild {builder : Builder} {child : Section}
      (known : catalog.lookup? stand.block.typeName = some builder)
      (builds : ∀ expected ∈ stand.expected?, builder.kind = expected)
      (takes : builder.children = .none) (first : stand.block.children.head? = some child) :
      HasProblem catalog stand (.unexpectedChild stand.block.typeName child.typeName)
  | childCount {builder : Builder} {kind : SectionKind}
      (known : catalog.lookup? stand.block.typeName = some builder)
      (builds : ∀ expected ∈ stand.expected?, builder.kind = expected)
      (takes : builder.children = .one kind) (notOne : stand.block.children.length ≠ 1) :
      HasProblem catalog stand
        (.childCount stand.block.typeName kind stand.block.children.length)

/-- A section is reported with its problem and the line of its opening tag. -/
def Reports (catalog : Catalog) (stand : Standing) (error : ConfigError) : Prop :=
  ∃ problem, catalog.HasProblem stand problem ∧ error = .misplaced problem stand.block.line

/-! ### One section -/

theorem hasProblem_iff_of_unknown (unknown : catalog.lookup? stand.block.typeName = none) :
    catalog.HasProblem stand problem ↔ problem = .unknownType stand.block.typeName := by
  constructor
  · rintro (_ | ⟨known, _, _⟩ | ⟨known, _, _, _⟩ | ⟨known, _, _, _⟩)
    · rfl
    all_goals
      rw [unknown] at known
      cases known
  · rintro rfl
    exact .unknownType unknown

theorem hasProblem_iff_of_known (known : catalog.lookup? stand.block.typeName = some builder) :
    catalog.HasProblem stand problem ↔
      (∃ expected, stand.expected? = some expected ∧ builder.kind ≠ expected ∧
        problem = .wrongKind stand.block.typeName builder.kind expected) ∨
      (∀ expected ∈ stand.expected?, builder.kind = expected) ∧
        ((∃ child, builder.children = .none ∧ stand.block.children.head? = some child ∧
          problem = .unexpectedChild stand.block.typeName child.typeName) ∨
        ∃ kind, builder.children = .one kind ∧ stand.block.children.length ≠ 1 ∧
          problem = .childCount stand.block.typeName kind stand.block.children.length) := by
  constructor
  · rintro (unknown | ⟨known', expects, differs⟩ | ⟨known', builds, takes, first⟩ |
      ⟨known', builds, takes, notOne⟩)
    · rw [known] at unknown
      cases unknown
    all_goals
      rw [known] at known'
      cases known'
    · exact .inl ⟨_, expects, differs, rfl⟩
    · exact .inr ⟨builds, .inl ⟨_, takes, first, rfl⟩⟩
    · exact .inr ⟨builds, .inr ⟨_, takes, notOne, rfl⟩⟩
  · rintro (⟨expected, expects, differs, rfl⟩ | ⟨builds, ⟨child, takes, first, rfl⟩ |
      ⟨kind, takes, notOne, rfl⟩⟩)
    · exact .wrongKind known expects differs
    · exact .unexpectedChild known builds takes first
    · exact .childCount known builds takes notOne

/-- Checking a section ends with its only problem, or else with what is found of the section nested
in it, if there is one. -/
theorem validate_step (catalog : Catalog) (expected : SectionKind) (block : Section) :
    (∃ problem, (∀ other, catalog.HasProblem ⟨some expected, block⟩ other ↔ other = problem) ∧
      validate catalog expected block = .error (.misplaced problem block.line)) ∨
    (∀ other, ¬ catalog.HasProblem ⟨some expected, block⟩ other) ∧
      (block.children = [] ∧ validate catalog expected block = .ok () ∨
        ∃ kind child, catalog.nestedKind? block.typeName = some kind ∧ block.children = [child] ∧
          validate catalog expected block = validate catalog kind child) := by
  rw [validate_eq]
  unfold resolve nestedKind?
  cases known : catalog.lookup? block.typeName with
  | none => exact .inl ⟨_, fun _ => hasProblem_iff_of_unknown known, rfl⟩
  | some builder =>
    have stands : catalog.lookup? (Standing.mk (some expected) block).block.typeName =
        some builder := known
    simp only [hasProblem_iff_of_known stands]
    change (∃ problem, _ ∧ nested block builder.kind expected builder.children >>= _ = _) ∨ _ ∧
      (_ ∧ nested block builder.kind expected builder.children >>= _ = _ ∨ ∃ kind child, _ ∧ _ ∧
        nested block builder.kind expected builder.children >>= _ = _)
    unfold nested
    by_cases differs : builder.kind ≠ expected
    · rw [if_pos differs]
      exact .inl ⟨_, by simp [differs], rfl⟩
    · rw [if_neg differs]
      have builds : builder.kind = expected := Decidable.not_not.mp differs
      split
      · next takes none => exact .inr ⟨by simp [builds, takes, none], .inl ⟨none, rfl⟩⟩
      · next child rest takes several =>
        exact .inl ⟨_, by simp [builds, takes, several], rfl⟩
      · next kind child takes only =>
        refine .inr ⟨by simp [builds, takes, only], .inr ⟨kind, child, ?_, only, rfl⟩⟩
        rw [Option.bind_some, takes]
        rfl
      · next kind takes notOne =>
        have several : block.children.length ≠ 1 := fun one => by
          obtain ⟨child, only⟩ := List.length_eq_one_iff.mp one
          exact notOne child only
        exact .inl ⟨_, by simp [builds, takes, several], rfl⟩

/-! ### All sections -/

theorem validate_eq_ok_iff_conforms :
    validate catalog expected block = .ok () ↔ catalog.Conforms expected block := by
  constructor
  · induction block using Section.induction generalizing expected with
    | step block ih =>
      intro valid
      obtain ⟨builder, known, rfl, ⟨takes, childless⟩ | ⟨kind, child, takes, only, inside⟩⟩ :=
        validate_eq_ok_iff.mp valid
      · exact .leaf known takes childless
      · exact .around known takes only (ih child (only ▸ List.mem_singleton_self child) inside)
  · intro conforms
    induction conforms with
    | leaf known takes childless =>
      exact validate_eq_ok_iff.mpr ⟨_, known, rfl, .inl ⟨takes, childless⟩⟩
    | around known takes only _ valid =>
      exact validate_eq_ok_iff.mpr ⟨_, known, rfl, .inr ⟨_, _, takes, only, valid⟩⟩

theorem validate_eq_error_iff : validate catalog expected block = .error error ↔
    FirstFault (fun stand _ => catalog.Reports stand) (catalog.preorder (some expected) block)
      error := by
  induction block using Section.induction generalizing expected with
  | step block ih =>
    rw [preorder_eq]
    rcases validate_step catalog expected block with ⟨problem, only, stops⟩ | ⟨sound, goesOn⟩
    · have reports : ∀ error, catalog.Reports ⟨some expected, block⟩ error ↔
          error = .misplaced problem block.line := fun error => by simp [Reports, only]
      rw [stops]
      constructor
      · rintro ⟨⟩
        exact .here ((reports _).mpr rfl)
      · rintro (isFault | ⟨noFault, _⟩)
        · rw [(reports _).mp isFault]
        · exact absurd ((reports _).mpr rfl) (noFault _)
    · have noFault : ∀ error, ¬ catalog.Reports ⟨some expected, block⟩ error :=
        fun error ⟨problem, has, _⟩ => sound problem has
      have passes : ∀ later, FirstFault (fun stand _ => catalog.Reports stand)
          (⟨some expected, block⟩ :: later) error ↔
            FirstFault (fun stand _ => catalog.Reports stand) later error := fun later =>
        ⟨fun isFirst => match isFirst with
          | .here isFault => absurd isFault (noFault error)
          | .after _ rest => rest, .after noFault⟩
      rw [passes]
      rcases goesOn with ⟨childless, valid⟩ | ⟨kind, child, expects, only, goesOn⟩
      · rw [valid, childless, preorderAll]
        constructor
        · rintro ⟨⟩
        · rintro ⟨⟩
      · rw [goesOn, only, expects, preorderAll, preorderAll, List.append_nil]
        exact ih child (only ▸ List.mem_singleton_self child)

/-- **What checking accepts and what it reports.** It accepts the sections that conform to the
catalog. Of any other it reports the first section, from the outside in, that has a problem: this
problem, with the line of the opening tag. -/
theorem validate_conformance (catalog : Catalog) (expected : SectionKind) (block : Section) :
    (validate catalog expected block = .ok () ↔ catalog.Conforms expected block) ∧
    (∀ error, validate catalog expected block = .error error ↔
      ∃ earlier stand later problem,
        catalog.preorder (some expected) block = earlier ++ stand :: later ∧
        (∀ before ∈ earlier, ∀ other, ¬ catalog.HasProblem before other) ∧
        catalog.HasProblem stand problem ∧ error = .misplaced problem stand.block.line) ∧
    ∀ error, validate catalog expected block = .error error → error.isSyntactic = true := by
  refine ⟨validate_eq_ok_iff_conforms, fun error => ?_, fun _ => isSyntactic_of_validate⟩
  rw [validate_eq_error_iff, firstFault_iff_exists]
  constructor
  · rintro ⟨earlier, stand, later, split, sound, problem, has, rfl⟩
    have none : ∀ before ∈ earlier, ∀ other, ¬ catalog.HasProblem before other :=
      fun before isBefore other isProblem => sound before isBefore _ ⟨other, isProblem, rfl⟩
    exact ⟨earlier, stand, later, problem, split, none, has, rfl⟩
  · rintro ⟨earlier, stand, later, problem, split, sound, has, rfl⟩
    refine ⟨earlier, stand, later, split, fun before isBefore _ reported => ?_, problem, has, rfl⟩
    obtain ⟨other, isProblem, _⟩ := reported
    exact sound before isBefore other isProblem

end Catalog

end StoreTopology
