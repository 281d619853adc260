/-
**What checking the sections of a text finds out.**

* `Catalog.validate_eq_ok_iff`: a section is valid if its type is known and builds what is expected,
  and its nested sections are those that its type takes, valid in turn;
* `Catalog.isSyntactic_of_validate`: what checking finds wrong has a line;
* `Catalog.SameShapes.validate_eq`: checking looks at what the types build and take, and at nothing
  else.
-/

import StoreTopology.Proofs.Action
import StoreTopology.Proofs.Section.Traversal
import StoreTopology.Topology

namespace StoreTopology

open StoreTopology.Action

namespace Catalog

variable {catalog other : Catalog} {expected : SectionKind} {block : Section} {builder : Builder}
  {forest : List Section} {text : String} {error : ConfigError}

theorem resolve_eq_ok_iff :
    resolve catalog block = .ok builder ↔ catalog.lookup? block.typeName = some builder := by
  unfold resolve
  cases catalog.lookup? block.typeName with
  | some found => rw [Except.ok.injEq, Option.some.injEq]
  | none =>
    constructor
    · intro failed
      cases failed
    · intro found
      cases found

/-! ### One section -/

/-- What is left to check of a section whose type builds one kind and takes nested sections of a
shape: the nested section, if there has to be one. -/
def nested (block : Section) (built expected : SectionKind) (shape : ChildShape) :
    Except ConfigError (Option (SectionKind × Section)) :=
  if built ≠ expected then
    .error (.misplaced (.wrongKind block.typeName built expected) block.line)
  else match shape, block.children with
    | .none, [] => .ok none
    | .none, child :: _ =>
      .error (.misplaced (.unexpectedChild block.typeName child.typeName) block.line)
    | .one kind, [child] => .ok (some (kind, child))
    | .one kind, children =>
      .error (.misplaced (.childCount block.typeName kind children.length) block.line)

/-- Checking a section leads to its nested section. -/
theorem validate_eq (catalog : Catalog) (expected : SectionKind) (block : Section) :
    validate catalog expected block =
      resolve catalog block >>= fun builder =>
        nested block builder.kind expected builder.children >>= fun
          | none => .ok ()
          | some (kind, child) => validate catalog kind child := by
  rw [validate]
  refine congrArg _ (funext fun builder => ?_)
  unfold nested
  by_cases wrong : builder.kind ≠ expected
  · rw [if_pos wrong, if_pos wrong]
    rfl
  · rw [if_neg wrong, if_neg wrong]
    dsimp only
    split
    · next shape children =>
      rw [shape, children]
      rfl
    · next shape children =>
      rw [shape, children]
      rfl
    · next shape children =>
      rw [shape, children]
      rfl
    · next kind shape notOne =>
      rw [shape]
      split
      · next none _ => cases none
      · next none _ => cases none
      · next child _ one => exact (notOne child one).elim
      · next isKind _ =>
        cases isKind
        rfl

theorem nested_eq_ok_iff {built : SectionKind} {shape : ChildShape}
    {left : Option (SectionKind × Section)} : nested block built expected shape = .ok left ↔
      built = expected ∧ (shape = .none ∧ block.children = [] ∧ left = none ∨
        ∃ kind child, shape = .one kind ∧ block.children = [child] ∧
          left = some (kind, child)) := by
  unfold nested
  by_cases wrong : built ≠ expected
  · rw [if_pos wrong]
    simp [wrong]
  · rw [if_neg wrong]
    have right : built = expected := Decidable.not_not.mp wrong
    split
    · next children => simp [right, children, eq_comm]
    · next children => simp [children]
    · next children => simp [right, children, eq_comm]
    · next kind notOne =>
      have several : ∀ child, block.children ≠ [child] := fun child one => notOne child one
      simp [several]

/-- A section is valid if its type is known and builds what is expected, and its nested sections
are those that its type takes, valid in turn. -/
theorem validate_eq_ok_iff : validate catalog expected block = .ok () ↔
    ∃ builder, catalog.lookup? block.typeName = some builder ∧ builder.kind = expected ∧
      (builder.children = .none ∧ block.children = [] ∨
        ∃ kind child, builder.children = .one kind ∧ block.children = [child] ∧
          validate catalog kind child = .ok ()) := by
  rw [validate_eq, bind_eq_ok]
  simp only [resolve_eq_ok_iff, bind_eq_ok, nested_eq_ok_iff]
  refine exists_congr fun builder => and_congr_right fun _ => ?_
  constructor
  · rintro ⟨_, ⟨kinds, ⟨shape, noChild, rfl⟩ | ⟨kind, child, shape, only, rfl⟩⟩, rest⟩
    · exact ⟨kinds, .inl ⟨shape, noChild⟩⟩
    · exact ⟨kinds, .inr ⟨kind, child, shape, only, rest⟩⟩
  · rintro ⟨kinds, ⟨shape, noChild⟩ | ⟨kind, child, shape, only, valid⟩⟩
    · exact ⟨none, ⟨kinds, .inl ⟨shape, noChild, rfl⟩⟩, rfl⟩
    · exact ⟨some (kind, child), ⟨kinds, .inr ⟨kind, child, shape, only, rfl⟩⟩, valid⟩

/-- The nested sections of a valid section are valid. -/
theorem exists_validate_of_mem (valid : validate catalog expected block = .ok ()) {child : Section}
    (nested : child ∈ block.children) : ∃ kind, validate catalog kind child = .ok () := by
  obtain ⟨builder, _, _, ⟨_, none⟩ | ⟨kind, only, _, one, validOnly⟩⟩ := validate_eq_ok_iff.mp valid
  · rw [none] at nested
    cases nested
  · rw [one, List.mem_singleton] at nested
    exact ⟨kind, nested ▸ validOnly⟩

/-- What checking a section finds wrong has a line. -/
theorem isSyntactic_of_validate (refused : validate catalog expected block = .error error) :
    error.isSyntactic = true := by
  induction block using Section.induction generalizing expected with
  | step block ih =>
    rw [validate_eq] at refused
    unfold resolve at refused
    cases found : catalog.lookup? block.typeName with
    | none =>
      rw [found] at refused
      cases refused
      rfl
    | some builder =>
      rw [found] at refused
      change nested block builder.kind expected builder.children >>= _ = _ at refused
      cases checked : nested block builder.kind expected builder.children with
      | error problem =>
        rw [checked] at refused
        cases refused
        unfold nested at checked
        split at checked
        · cases checked
          rfl
        · split at checked
          · cases checked
          · cases checked
            rfl
          · cases checked
          · cases checked
            rfl
      | ok left =>
        rw [checked] at refused
        obtain ⟨_, ⟨_, _, rfl⟩ | ⟨kind, child, _, only, rfl⟩⟩ := nested_eq_ok_iff.mp checked
        · cases refused
        · exact ih child (only ▸ List.mem_singleton_self child) refused

/-! ### What checking looks at -/

/-- Two catalogs know the same types, which build the same kinds and take the same nested
sections. -/
def SameShapes (catalog other : Catalog) : Prop :=
  ∀ typeName, (catalog.lookup? typeName).map (fun builder => (builder.kind, builder.children)) =
    (other.lookup? typeName).map fun builder => (builder.kind, builder.children)

theorem SameShapes.validate_eq (same : SameShapes catalog other) :
    validate catalog expected block = validate other expected block := by
  induction block using Section.induction generalizing expected with
  | step block ih =>
    have shapes := same block.typeName
    rw [Catalog.validate_eq, Catalog.validate_eq]
    unfold resolve
    cases found : catalog.lookup? block.typeName with
    | none =>
      rw [found, Option.map_none] at shapes
      rw [Option.map_eq_none_iff.mp shapes.symm]
      rfl
    | some builder =>
      rw [found, Option.map_some] at shapes
      obtain ⟨builder', found', shapes⟩ := Option.map_eq_some_iff.mp shapes.symm
      obtain ⟨kinds, children⟩ := Prod.mk.inj shapes
      rw [found']
      show nested block builder.kind expected builder.children >>= _ =
        nested block builder'.kind expected builder'.children >>= _
      rw [kinds, children]
      cases checked : nested block builder.kind expected builder.children with
      | error problem => rfl
      | ok left =>
        obtain ⟨_, ⟨_, _, rfl⟩ | ⟨kind, child, _, only, rfl⟩⟩ := nested_eq_ok_iff.mp checked
        · rfl
        · exact ih child (only ▸ List.mem_singleton_self child)

/-! ### Top-level sections -/

theorem validateAll_eq_ok_iff : validateAll catalog expected forest = .ok () ↔
    ∀ block ∈ forest, validate catalog expected block = .ok () := by
  induction forest with
  | nil => simp [validateAll]
  | cons block rest ih =>
    rw [validateAll, bind_eq_ok, List.forall_mem_cons, ← ih]
    exact ⟨fun ⟨_, valid, others⟩ => ⟨valid, others⟩, fun valid => ⟨(), valid⟩⟩

/-- Checking sections in turn fails if one of them is not valid. -/
theorem exists_validateAll_error_iff :
    (∃ error, validateAll catalog expected forest = .error error) ↔
      ∃ block ∈ forest, ∃ error, validate catalog expected block = .error error := by
  have fails : ∀ {result : Except ConfigError Unit},
      (∃ error, result = .error error) ↔ ¬ result = .ok () := by
    intro result
    cases result with
    | ok _ => simp
    | error error => simp
  rw [fails, validateAll_eq_ok_iff, Classical.not_forall]
  simp only [Classical.not_imp, fails]

theorem isSyntactic_of_validateAll (refused : validateAll catalog expected forest = .error error) :
    error.isSyntactic = true := by
  induction forest with
  | nil => cases refused
  | cons block rest ih =>
    rw [validateAll] at refused
    cases checked : validate catalog expected block with
    | error problem =>
      rw [checked] at refused
      cases refused
      exact isSyntactic_of_validate checked
    | ok _ =>
      rw [checked] at refused
      exact ih refused

theorem SameShapes.validateAll_eq (same : SameShapes catalog other) :
    validateAll catalog expected forest = validateAll other expected forest := by
  induction forest with
  | nil => rfl
  | cons block rest ih => rw [validateAll, validateAll, same.validate_eq, ih]

/-! ### Texts that are valid -/

theorem readSections_of_parse (parsed : parse text = .ok forest) :
    readSections text = .ok forest := by
  unfold readSections
  rw [parsed]
  rfl

/-- A compilation of a valid text builds its sections for a new registry. -/
theorem compile_of_valid (parsed : parse text = .ok forest)
    (valid : validateAll catalog .database forest = .ok ()) (site : Site) :
    catalog.compile text site =
      (catalog.buildDatabases site.addRegistry.1 forest >>= fun databases =>
        pure ⟨databases, site.addRegistry.1⟩) site.addRegistry.2 := by
  unfold compile
  rw [readSections_of_parse parsed, bind_of_ok (ofExcept_apply _), valid,
    bind_of_ok (ofExcept_apply _), bind_of_ok (create_apply _)]

end Catalog

end StoreTopology
