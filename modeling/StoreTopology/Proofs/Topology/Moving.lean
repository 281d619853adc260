/-
**Sections further down in a text build the same.**

* `Catalog.validate_moved`: a section that stands further down is valid if it is, and else is refused
  further down;
* `OptionSchema.settle_moved`: its options have the same values;
* `Catalog.agrees_build`: so that it builds the same storage, or fails in the same way, on sites with
  the same stores.
-/

import StoreTopology.Proofs.Builder.Agreeing
import StoreTopology.Proofs.Section.Moving
import StoreTopology.Proofs.Topology.Building
import StoreTopology.Proofs.Topology.Validation

namespace StoreTopology

open StoreTopology.Action

variable {count : Nat}

/-! ### Checking -/

namespace Catalog

theorem resolve_moved (catalog : Catalog) (block : Section) :
    resolve catalog (block.moved count) =
      (resolve catalog block).mapError (ConfigError.moved count) := by
  unfold resolve
  rw [Section.moved_typeName, Section.moved_line]
  cases catalog.lookup? block.typeName with
  | some builder => rfl
  | none => rfl

/-- What is left to check of a section further down is the nested section further down. -/
theorem nested_moved (block : Section) (built expected : SectionKind) (shape : ChildShape) :
    nested (block.moved count) built expected shape =
      ((nested block built expected shape).map
        (Option.map fun left => (left.1, left.2.moved count))).mapError
          (ConfigError.moved count) := by
  obtain ⟨typeName, name, options, children, line, endLine⟩ := block
  rw [Section.moved_mk]
  unfold nested
  by_cases wrong : built ≠ expected
  · rw [if_pos wrong, if_pos wrong]
    rfl
  · rw [if_neg wrong, if_neg wrong]
    dsimp only
    cases shape with
    | none =>
      cases children with
      | nil => rfl
      | cons child rest =>
        show Except.error (ConfigError.misplaced (.unexpectedChild typeName
          (child.moved count).typeName) _) = _
        rw [Section.moved_typeName]
        rfl
    | one kind =>
      cases children with
      | nil => rfl
      | cons child rest =>
        cases rest with
        | nil => rfl
        | cons second rest =>
          simp only [List.map_cons, List.length_cons, List.length_map]
          rfl

/-- A section further down is valid if the section is, and else is refused further down. -/
theorem validate_moved (catalog : Catalog) (expected : SectionKind) (block : Section) :
    validate catalog expected (block.moved count) =
      (validate catalog expected block).mapError (ConfigError.moved count) := by
  induction block using Section.induction generalizing expected with
  | step block ih =>
    rw [validate_eq, validate_eq, resolve_moved]
    cases resolve catalog block with
    | error error => rfl
    | ok builder =>
      show nested (block.moved count) builder.kind expected builder.children >>= _ =
        (nested block builder.kind expected builder.children >>= _).mapError _
      rw [nested_moved]
      cases checked : nested block builder.kind expected builder.children with
      | error error => rfl
      | ok left =>
        obtain ⟨_, ⟨_, _, rfl⟩ | ⟨kind, child, _, only, rfl⟩⟩ := nested_eq_ok_iff.mp checked
        · rfl
        · exact ih child (only ▸ List.mem_singleton_self child) kind

end Catalog

/-! ### Options -/

namespace OptionSchema

variable {schema : OptionSchema} {typeName : String} {values : Options}

/-- A value of the wrong kind has no line. -/
theorem moved_of_coerce {coercion : Coercion} {key raw : String} {problem : OptionProblem}
    (refused : coercion.coerce key raw = .error problem) : problem.moved count = problem := by
  unfold Coercion.coerce at refused
  split at refused
  · cases refused
  · cases refused
    rfl

theorem settleLines_moved (lines : List OptionLine) :
    (schema.settleLines typeName values (lines.map (OptionLine.moved count))).result =
      (schema.settleLines typeName values lines).result.mapError (OptionProblem.moved count) := by
  induction lines generalizing values with
  | nil => rfl
  | cons line later ih =>
    have again : ((later.map (OptionLine.moved count)).any fun other => other.key = line.key) =
        later.any fun other => other.key = line.key := List.any_map
    have key : (line.moved count).key = line.key := rfl
    rw [List.map_cons, settleLines, settleLines, key, again]
    cases schema.spec? line.key with
    | none =>
      cases schema.strict with
      | true => rfl
      | false => exact ih
    | some spec =>
      dsimp only
      by_cases repeated : (later.any fun other => other.key = line.key) = true
      · rw [if_pos repeated, if_pos repeated]
        exact ih
      · have value : (line.moved count).value = line.value := rfl
        rw [if_neg repeated, if_neg repeated, value]
        cases coerced : spec.coercion.coerce spec.key line.value with
        | error problem => exact congrArg Except.error (moved_of_coerce coerced).symm
        | ok value => exact ih

theorem settleDefaults_moved (line : Nat) (specs : List OptionSpec) :
    settleDefaults typeName (line + count) values specs =
      (settleDefaults typeName line values specs).mapError (OptionProblem.moved count) := by
  induction specs generalizing values with
  | nil => rfl
  | cons spec rest ih =>
    rw [settleDefaults, settleDefaults]
    split
    · exact ih
    · split
      · next raw _ =>
        cases coerced : spec.coercion.coerce spec.key raw with
        | error problem => exact congrArg Except.error (moved_of_coerce coerced).symm
        | ok value => exact ih
      · split
        · rfl
        · exact ih

/-- The options of a section further down have the same values. -/
theorem settle_moved (schema : OptionSchema) (block : Section) :
    (schema.settle (block.moved count)).result =
      (schema.settle block).result.mapError (OptionProblem.moved count) := by
  unfold settle
  rw [Section.moved_typeName, Section.moved_options, Section.moved_line]
  have moves : (schema.settleLines block.typeName .empty
      (block.options.map (OptionLine.moved count))).result = _ := settleLines_moved block.options
  dsimp only
  rw [moves]
  cases (schema.settleLines block.typeName .empty block.options).result with
  | error problem => rfl
  | ok values => exact settleDefaults_moved block.line schema.specs

end OptionSchema

/-! ### Building -/

namespace Catalog

variable {registry otherRegistry : RegistryId} {block : Section}

/-- A built-in storage takes no nested section that is no storage. -/
theorem kind_of_nested_builtIn {typeName : String} {builder : Builder}
    (found : builtIn.lookup? typeName = some builder) (kind : builder.kind = .storage)
    {nested : SectionKind} (takes : builder.children = .one nested) : nested = .storage := by
  rcases mem_builtIn found with rfl | rfl | rfl | rfl
  · cases takes
  · cases takes
  · cases takes
    rfl
  · cases kind

/-- Settling options changes nothing but the history. -/
theorem sameStores_settleOptions (schema : OptionSchema) (block : Section) :
    Within Site.SameStores (settleOptions schema block) :=
  within_settleOptions Site.sameStores_log schema block

theorem settleOptions_fst (schema : OptionSchema) (block : Section) (site : Site) :
    (settleOptions schema block site).1 =
      (schema.settle block).result.mapError ConfigError.option := rfl

theorem agrees_settleOptions (schema : OptionSchema) (block : Section) :
    Agrees (ConfigError.moved count) (settleOptions schema block)
      (settleOptions schema (block.moved count)) := by
  refine .of_within (sameStores_settleOptions _ _) (sameStores_settleOptions _ _) fun _ _ => ?_
  rw [settleOptions_fst, settleOptions_fst, OptionSchema.settle_moved]
  cases (schema.settle block).result with
  | ok options => rfl
  | error problem => rfl

/-- A valid storage section builds the same storage further down, on sites with the same stores. -/
theorem agrees_build (valid : validate builtIn .storage block = .ok ()) :
    Agrees (ConfigError.moved count) (build builtIn registry block)
      (build builtIn otherRegistry (block.moved count)) := by
  induction block using Section.induction with
  | step block ih =>
    obtain ⟨builder, found, kind, shape⟩ := validate_eq_ok_iff.mp valid
    have foundMoved : builtIn.lookup? (block.moved count).typeName = some builder := by
      rw [Section.moved_typeName]
      exact found
    rw [build_of_lookup? found, build_of_lookup? foundMoved, Section.moved_children,
      Section.moved_name]
    refine .bind ?_ fun below => .bind (agrees_settleOptions _ _) fun options =>
      .bind (.log _ _ _) fun _ => agrees_builtIn found kind
    rcases shape with ⟨_, none⟩ | ⟨childKind, child, takes, only, validChild⟩
    · rw [none, List.map_nil, buildAll]
      exact .pure _
    · cases kind_of_nested_builtIn found kind takes
      rw [only, List.map_singleton, buildAll, buildAll, buildAll]
      refine .bind (ih child (only ▸ List.mem_singleton_self child) validChild) fun first => ?_
      exact .bind (.pure _) fun _ => .pure _

end Catalog

end StoreTopology
