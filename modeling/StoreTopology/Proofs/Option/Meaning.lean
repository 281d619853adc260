/-
**What the options of a section mean.**

The declarations in force say which options a section may give. The first line that is at fault is
reported, and only if there is none, the first declaration that the section does not comply with.

* `FirstFault`: the problem of the first item of a list that is at fault;
* `OptionSchema.specs_declareAll`: the declarations in force after any declarations;
* `OptionSchema.coerce_eq_error_iff`: the problem that a section is refused for;
* `OptionSchema.exists_coerce_iff`: the sections that are accepted;
* `OptionSchema.gives_of_coerce`: the values that an accepted section has;
* `OptionSchema.declareAll_meaning`: all of this after any declarations.
-/

import Mathlib.Data.List.Nodup
import StoreTopology.Proofs.Option.Settling

namespace StoreTopology

/-! ### The first item at fault -/

section FirstFault

variable {α ε σ β : Type} {fault : α → List α → ε → Prop} {list : List α} {problem : ε}

/-- The first item that is at fault has the problem. Whether an item is at fault may depend on the
items after it. -/
inductive FirstFault (fault : α → List α → ε → Prop) : List α → ε → Prop
  | here {item : α} {later : List α} {problem : ε} (isFault : fault item later problem) :
      FirstFault fault (item :: later) problem
  | after {item : α} {later : List α} {problem : ε} (noFault : ∀ other, ¬ fault item later other)
      (rest : FirstFault fault later problem) : FirstFault fault (item :: later) problem

/-- There is a first item at fault unless no item is. -/
theorem not_firstFault_iff : (∀ problem, ¬ FirstFault fault list problem) ↔
    ∀ earlier item later, list = earlier ++ item :: later → ∀ problem, ¬ fault item later problem := by
  induction list with
  | nil =>
    constructor
    · intro _ earlier item later split
      exact absurd split (by simp)
    · rintro _ problem ⟨⟩
  | cons first rest ih =>
    constructor
    · intro none earlier item later split
      have sound : ∀ problem, ¬ fault first rest problem := fun problem isFault =>
        none problem (.here isFault)
      cases earlier with
      | nil =>
        cases split
        exact sound
      | cons _ between =>
        obtain ⟨rfl, splitRest⟩ := List.cons.inj split
        have noneLater : ∀ problem, ¬ FirstFault fault rest problem := fun problem isFirst =>
          none problem (.after sound isFirst)
        exact ih.mp noneLater between item later splitRest
    · intro sound problem isFirst
      cases isFirst with
      | here isFault => exact sound [] first rest rfl problem isFault
      | after _ isFirst =>
        refine ih.mpr (fun earlier item later split => ?_) problem isFirst
        exact sound (first :: earlier) item later (congrArg (first :: ·) split)

/-- The first item at fault is an item that is at fault. -/
theorem FirstFault.exists_fault (isFirst : FirstFault fault list problem) :
    ∃ earlier item later, list = earlier ++ item :: later ∧ fault item later problem := by
  induction isFirst with
  | here isFault => exact ⟨[], _, _, rfl, isFault⟩
  | after _ _ ih =>
    obtain ⟨earlier, item, later, rfl, isFault⟩ := ih
    exact ⟨_ :: earlier, item, later, rfl, isFault⟩

/-- Where a fault does not depend on later items, the first item at fault comes after items that are
not at fault. -/
theorem firstFault_iff_exists {fault : α → ε → Prop} :
    FirstFault (fun item _ => fault item) list problem ↔ ∃ earlier item later,
      list = earlier ++ item :: later ∧ (∀ before ∈ earlier, ∀ other, ¬ fault before other) ∧
        fault item problem := by
  constructor
  · intro isFirst
    induction isFirst with
    | here isFault => exact ⟨[], _, _, rfl, (fun _ none => nomatch none), isFault⟩
    | after noFault _ ih =>
      obtain ⟨earlier, item, later, rfl, sound, isFault⟩ := ih
      exact ⟨_ :: earlier, item, later, rfl, List.forall_mem_cons.mpr ⟨noFault, sound⟩, isFault⟩
  · rintro ⟨earlier, item, later, rfl, sound, isFault⟩
    induction earlier with
    | nil => exact .here isFault
    | cons before earlier ih =>
      obtain ⟨noFault, sound⟩ := List.forall_mem_cons.mp sound
      exact .after noFault (ih sound)

/-- What a step of a run does with an item: it stops if the item is at fault, with its only problem,
and else goes on to the items after it. -/
def StepsOver (fault : α → List α → ε → Prop) (run : σ → List α → Except ε β)
    (goesOn : σ → Prop) (state : σ) (item : α) (later : List α) : Prop :=
  (∃ problem, (∀ other, fault item later other ↔ other = problem) ∧
    run state (item :: later) = .error problem) ∨
  ((∀ other, ¬ fault item later other) ∧
    ∃ next, goesOn next ∧ run state (item :: later) = run next later)

/-- A run over a list fails for the first item that is at fault. -/
theorem eq_error_iff_firstFault (run : σ → List α → Except ε β) (invariant : List α → σ → Prop)
    (ends : ∀ state, ∃ value, run state [] = .ok value)
    (steps : ∀ state item later, invariant (item :: later) state →
      StepsOver fault run (invariant later) state item later)
    {state : σ} (holds : invariant list state) :
    run state list = .error problem ↔ FirstFault fault list problem := by
  induction list generalizing state with
  | nil =>
    obtain ⟨value, isEnd⟩ := ends state
    rw [isEnd]
    constructor
    · rintro ⟨⟩
    · rintro ⟨⟩
  | cons item later ih =>
    rcases steps state item later holds with ⟨found, only, stops⟩ | ⟨noFault, next, holds, goesOn⟩
    · rw [stops]
      constructor
      · intro same
        cases same
        exact .here ((only problem).mpr rfl)
      · rintro (isFault | ⟨noFault, _⟩)
        · rw [(only problem).mp isFault]
        · exact absurd ((only found).mpr rfl) (noFault found)
    · rw [goesOn, ih holds]
      constructor
      · exact .after noFault
      · rintro (isFault | ⟨_, isFirst⟩)
        · exact absurd isFault (noFault problem)
        · exact isFirst

end FirstFault

namespace Coercion

variable {coercion : Coercion} {key raw : String}

theorem coerce_eq_error_iff {problem : OptionProblem} :
    coercion.coerce key raw = .error problem ↔
      coercion.read? raw = none ∧ problem = .notOfKind coercion key raw := by
  unfold coerce
  cases coercion.read? raw with
  | none => simp [eq_comm]
  | some value => simp

theorem exists_coerce_iff :
    (∃ value, coercion.coerce key raw = .ok value) ↔ coercion.read? raw ≠ none := by
  simp only [coerce_eq_ok_iff, ← Option.isSome_iff_exists, ← Option.isSome_iff_ne_none]

end Coercion

namespace Section

variable {lines earlier later : List OptionLine} {line : OptionLine} {key : String}

theorem settlingLine?_eq_some_iff : settlingLine? lines key = some line ↔
    line.key = key ∧ ∃ earlier later, lines = earlier ++ line :: later ∧
      ∀ other ∈ later, other.key ≠ key := by
  unfold settlingLine?
  rw [List.find?_eq_some_iff_append]
  simp only [decide_eq_true_eq, Bool.not_eq_true', decide_eq_false_iff_not, ne_eq]
  refine and_congr_right fun _ => ⟨?_, ?_⟩
  · rintro ⟨later, earlier, split, others⟩
    refine ⟨earlier.reverse, later.reverse, ?_, fun other present => ?_⟩
    · rw [← List.reverse_reverse lines, split]
      simp
    · exact others other (List.mem_reverse.mp present)
  · rintro ⟨earlier, later, rfl, others⟩
    refine ⟨later.reverse, earlier.reverse, by simp, fun other present => ?_⟩
    exact others other (List.mem_reverse.mp present)

/-- The effective value of a key is that of its last line. -/
theorem value?_eq_some_iff {block : Section} {raw : String} : block.value? key = some raw ↔
    ∃ earlier line later, block.options = earlier ++ line :: later ∧ line.key = key ∧
      line.value = raw ∧ ∀ other ∈ later, other.key ≠ key := by
  unfold value?
  rw [Option.map_eq_some_iff]
  constructor
  · rintro ⟨line, settling, isValue⟩
    obtain ⟨isKey, earlier, later, split, others⟩ := settlingLine?_eq_some_iff.mp settling
    exact ⟨earlier, line, later, split, isKey, isValue, others⟩
  · rintro ⟨earlier, line, later, split, isKey, isValue, others⟩
    exact ⟨line, settlingLine?_eq_some_iff.mpr ⟨isKey, earlier, later, split, others⟩, isValue⟩

end Section

namespace OptionSchema

variable {schema : OptionSchema} {spec : OptionSpec} {key : String} {block : Section}
  {problem : OptionProblem} {values coerced : Options}

/-! ### The declarations in force -/

/-- The schema of declarations that are made in turn. Each of `required`, `optional` and
`withDefault` makes one. -/
def declareAll (strict : Bool) (declarations : List OptionSpec) : OptionSchema :=
  declarations.foldl declare (.new strict)

/-- The declarations that no later one of their key withdraws. -/
def inForce : List OptionSpec → List OptionSpec
  | [] => []
  | spec :: later =>
    if later.any fun other => other.key = spec.key then inForce later else spec :: inForce later

theorem strict_foldl_declare (declarations : List OptionSpec) :
    (declarations.foldl declare schema).strict = schema.strict := by
  induction declarations generalizing schema with
  | nil => rfl
  | cons spec later ih => exact ih

theorem specs_foldl_declare (declarations : List OptionSpec) :
    (declarations.foldl declare schema).specs =
      (schema.specs.filter fun earlier => ! declarations.any fun spec => spec.key = earlier.key) ++
        inForce declarations := by
  induction declarations generalizing schema with
  | nil => simp [inForce]
  | cons spec later ih =>
    rw [List.foldl_cons, ih, declare, List.filter_append, List.filter_filter, List.append_assoc]
    congr 1
    · refine List.filter_congr fun earlier _ => ?_
      rw [List.any_cons, Bool.not_or, Bool.and_comm]
      simp [eq_comm]
    · rw [inForce]
      by_cases again : (later.any fun other => other.key = spec.key) = true
      · rw [if_pos again, List.filter_cons_of_neg (by simp [again]), List.filter_nil, List.nil_append]
      · rw [if_neg again, List.filter_cons_of_pos (by simp [again]), List.filter_nil,
          List.singleton_append]

/-- A schema holds the declarations in force, in their order. -/
theorem specs_declareAll (strict : Bool) (declarations : List OptionSpec) :
    (declareAll strict declarations).specs = inForce declarations :=
  specs_foldl_declare declarations

theorem spec?_eq_some_iff : schema.spec? key = some spec ↔ spec ∈ schema.specs ∧ spec.key = key := by
  constructor
  · intro found
    exact ⟨List.mem_of_find?_eq_some found, key_of_spec? found⟩
  · rintro ⟨declared, rfl⟩
    cases found : schema.spec? spec.key with
    | none =>
      have differs := List.find?_eq_none.mp found spec declared
      exact absurd (decide_eq_true rfl) differs
    | some other =>
      rw [List.inj_on_of_nodup_map schema.distinct (List.mem_of_find?_eq_some found) declared
        (key_of_spec? found)]

theorem spec?_eq_none_iff : schema.spec? key = none ↔ ∀ spec ∈ schema.specs, spec.key ≠ key := by
  unfold spec?
  rw [List.find?_eq_none]
  simp only [decide_eq_true_eq, ne_eq]

/-! ### Faults -/

/-- An option line is at fault, with the lines after it. A line that a later one of its key follows
is at fault only if the key is unknown. -/
inductive LineFault (schema : OptionSchema) (typeName : String) :
    OptionLine → List OptionLine → OptionProblem → Prop
  | unknownKey {line : OptionLine} {later : List OptionLine} (isStrict : schema.strict = true)
      (undeclared : ∀ spec ∈ schema.specs, spec.key ≠ line.key) :
      LineFault schema typeName line later (.unknownKey line.key typeName line.line)
  | notOfKind {spec : OptionSpec} {line : OptionLine} {later : List OptionLine}
      (declared : spec ∈ schema.specs) (isKey : spec.key = line.key)
      (isLast : ∀ other ∈ later, other.key ≠ line.key)
      (notRead : spec.coercion.read? line.value = none) :
      LineFault schema typeName line later (.notOfKind spec.coercion spec.key line.value)

/-- A section does not comply with a declaration whose key it does not give. -/
inductive SpecFault (block : Section) : OptionSpec → OptionProblem → Prop
  | notOfKind {spec : OptionSpec} {raw : String} (notGiven : block.value? spec.key = none)
      (isDefault : spec.default = some raw) (notRead : spec.coercion.read? raw = none) :
      SpecFault block spec (.notOfKind spec.coercion spec.key raw)
  | missingOption {spec : OptionSpec} (notGiven : block.value? spec.key = none)
      (noDefault : spec.default = none) (isRequired : spec.required = true) :
      SpecFault block spec (.missingOption spec.key block.typeName block.line)

variable {typeName : String} {line : OptionLine} {later : List OptionLine}

theorem lineFault_of_unknown (unknown : schema.spec? line.key = none) :
    schema.LineFault typeName line later problem ↔
      schema.strict = true ∧ problem = .unknownKey line.key typeName line.line := by
  have undeclared := spec?_eq_none_iff.mp unknown
  constructor
  · rintro (⟨isStrict, _⟩ | ⟨declared, isKey, _⟩)
    · exact ⟨isStrict, rfl⟩
    · exact absurd isKey (undeclared _ declared)
  · rintro ⟨isStrict, rfl⟩
    exact .unknownKey isStrict undeclared

theorem lineFault_of_known (known : schema.spec? line.key = some spec) :
    schema.LineFault typeName line later problem ↔
      (later.any fun other => other.key = line.key) = false ∧
        spec.coercion.coerce spec.key line.value = .error problem := by
  obtain ⟨declared, isKey⟩ := spec?_eq_some_iff.mp known
  rw [Coercion.coerce_eq_error_iff, List.any_eq_false]
  simp only [decide_eq_true_eq]
  constructor
  · rintro (⟨_, undeclared⟩ | ⟨declared', isKey', isLast, notRead⟩)
    · exact absurd isKey (undeclared _ declared)
    · cases List.inj_on_of_nodup_map schema.distinct declared' declared (isKey'.trans isKey.symm)
      exact ⟨isLast, notRead, rfl⟩
  · rintro ⟨isLast, notRead, rfl⟩
    exact .notOfKind declared isKey isLast notRead

/-- Settling lines stops at a line that is at fault. -/
theorem stepsOver_settleLines (values : Options) (line : OptionLine) (later : List OptionLine) :
    StepsOver (schema.LineFault typeName)
      (fun values lines => (schema.settleLines typeName values lines).result) (fun _ => True) values
      line later := by
  unfold StepsOver
  simp only [settleLines]
  cases found : schema.spec? line.key with
  | none =>
    simp only [lineFault_of_unknown found]
    by_cases isStrict : schema.strict = true
    · rw [if_pos isStrict]
      exact .inl ⟨_, fun other => and_iff_right isStrict, rfl⟩
    · rw [if_neg isStrict]
      exact .inr ⟨fun other atFault => isStrict atFault.1, values, trivial, rfl⟩
  | some spec =>
    simp only [lineFault_of_known found]
    by_cases again : (later.any fun other => other.key = line.key) = true
    · -- The value of a line that does not count is not looked at.
      rw [if_pos again]
      exact .inr ⟨fun other atFault => by simp [again] at atFault, values, trivial, rfl⟩
    · rw [if_neg again]
      cases coerces : spec.coercion.coerce spec.key line.value with
      | error problem =>
        refine .inl ⟨problem, fun other => ?_, rfl⟩
        rw [and_iff_right (Bool.eq_false_iff.mpr again), Except.error.injEq, eq_comm]
      | ok value =>
        refine .inr ⟨?_, _, trivial, rfl⟩
        rintro other ⟨_, failed⟩
        cases failed

/-- The values go with a section for declarations that are still to be settled: they hold those that
the section gives. -/
structure Awaits (block : Section) (specs : List OptionSpec) (values : Options) : Prop where
  distinct : (specs.map OptionSpec.key).Nodup
  given : ∀ spec ∈ specs, values.contains spec.key = (block.value? spec.key).isSome

theorem Awaits.after {specs : List OptionSpec} (awaits : Awaits block (spec :: specs) values) :
    Awaits block specs values :=
  ⟨(List.nodup_cons.mp awaits.distinct).2, fun other later =>
    awaits.given other (List.mem_cons_of_mem spec later)⟩

theorem Awaits.insert {specs : List OptionSpec} {value : OptionValue}
    (awaits : Awaits block (spec :: specs) values) :
    Awaits block specs (values.insert spec.key value) := by
  refine ⟨awaits.after.distinct, fun other later => ?_⟩
  have differs : spec.key ≠ other.key := fun same =>
    (List.nodup_cons.mp awaits.distinct).1 (same ▸ List.mem_map_of_mem later)
  rw [← awaits.after.given other later, SortedMap.contains, SortedMap.get?_insert, if_neg differs]
  rfl

theorem specFault_of_notGiven (notGiven : block.value? spec.key = none) :
    SpecFault block spec problem ↔
      match spec.default with
      | some raw => spec.coercion.coerce spec.key raw = .error problem
      | none => spec.required = true ∧
          problem = .missingOption spec.key block.typeName block.line := by
  constructor
  · rintro (⟨_, isDefault, notRead⟩ | ⟨_, noDefault, isRequired⟩)
    · rw [isDefault]
      exact Coercion.coerce_eq_error_iff.mpr ⟨notRead, rfl⟩
    · rw [noDefault]
      exact ⟨isRequired, rfl⟩
  · intro failed
    split at failed
    · next raw isDefault =>
      obtain ⟨notRead, rfl⟩ := Coercion.coerce_eq_error_iff.mp failed
      exact .notOfKind notGiven isDefault notRead
    · next noDefault =>
      obtain ⟨isRequired, rfl⟩ := failed
      exact .missingOption notGiven noDefault isRequired

/-- Settling defaults stops at a declaration that the section does not comply with. -/
theorem stepsOver_settleDefaults {specs : List OptionSpec}
    (awaits : Awaits block (spec :: specs) values) :
    StepsOver (fun spec _ => SpecFault block spec)
      (settleDefaults block.typeName block.line) (Awaits block specs) values spec specs := by
  unfold StepsOver
  simp only [settleDefaults]
  have given := awaits.given spec List.mem_cons_self
  cases isGiven : block.value? spec.key with
  | some raw =>
    rw [isGiven, Option.isSome_some] at given
    rw [if_pos given]
    refine .inr ⟨?_, values, awaits.after, rfl⟩
    rintro _ (⟨notGiven, _⟩ | ⟨notGiven, _⟩)
    · rw [isGiven] at notGiven
      cases notGiven
    · rw [isGiven] at notGiven
      cases notGiven
  | none =>
    rw [isGiven, Option.isSome_none] at given
    rw [given, if_neg (by decide)]
    simp only [specFault_of_notGiven isGiven]
    cases spec.default with
    | some raw =>
      dsimp only
      cases coerces : spec.coercion.coerce spec.key raw with
      | error problem => exact .inl ⟨problem, fun other => by rw [Except.error.injEq, eq_comm], rfl⟩
      | ok value => exact .inr ⟨nofun, _, awaits.insert, rfl⟩
    | none =>
      dsimp only
      by_cases isRequired : spec.required = true
      · rw [if_pos isRequired]
        exact .inl ⟨_, fun other => and_iff_right isRequired, rfl⟩
      · rw [if_neg isRequired]
        exact .inr ⟨fun other failed => isRequired failed.1, values, awaits.after, rfl⟩

theorem awaits_of_settleLines
    (settled : (schema.settleLines block.typeName .empty block.options).result = .ok values) :
    Awaits block schema.specs values := by
  refine ⟨schema.distinct, fun spec declared => ?_⟩
  have lines := get?_of_settleLines (spec?_eq_some_iff.mpr ⟨declared, rfl⟩) settled
  unfold Section.value? SortedMap.contains
  cases found : Section.settlingLine? block.options spec.key with
  | none =>
    rw [found] at lines
    rw [lines]
    rfl
  | some last =>
    rw [found] at lines
    obtain ⟨value, _, isValue⟩ := lines
    rw [isValue]
    rfl

/-! ### The problem that is reported -/

/-- The problem of a section: that of its first line that is at fault, and only if no line is, that
of the first declaration that it does not comply with. -/
def Reports (schema : OptionSchema) (block : Section) (problem : OptionProblem) : Prop :=
  FirstFault (schema.LineFault block.typeName) block.options problem ∨
    (∀ other, ¬ FirstFault (schema.LineFault block.typeName) block.options other) ∧
      FirstFault (fun spec _ => SpecFault block spec) schema.specs problem

theorem settleLines_eq_error_iff (values : Options) {lines : List OptionLine} :
    (schema.settleLines typeName values lines).result = .error problem ↔
      FirstFault (schema.LineFault typeName) lines problem :=
  eq_error_iff_firstFault (fun values lines => (schema.settleLines typeName values lines).result)
    (fun _ _ => True) (fun values => ⟨values, rfl⟩)
    (fun values line later _ => stepsOver_settleLines values line later) trivial

theorem settleDefaults_eq_error_iff {specs : List OptionSpec} (awaits : Awaits block specs values) :
    settleDefaults block.typeName block.line values specs = .error problem ↔
      FirstFault (fun spec _ => SpecFault block spec) specs problem :=
  eq_error_iff_firstFault (settleDefaults block.typeName block.line) (Awaits block)
    (fun values => ⟨values, rfl⟩) (fun _ _ _ awaits => stepsOver_settleDefaults awaits) awaits

/-- A section is refused for the first line at fault, else for the first declaration that it does not
comply with. -/
theorem coerce_eq_error_iff : schema.coerce block = .error problem ↔ schema.Reports block problem := by
  unfold coerce settle Reports
  dsimp only
  cases settled : (schema.settleLines block.typeName .empty block.options).result with
  | error found =>
    have isFirst := (settleLines_eq_error_iff _).mp settled
    dsimp only
    rw [← settleLines_eq_error_iff .empty, settled]
    constructor
    · exact .inl
    · rintro (same | ⟨none, _⟩)
      · exact same
      · exact absurd isFirst (none found)
  | ok values =>
    -- No line is at fault, so that only a declaration can be.
    have none : ∀ other, ¬ FirstFault (schema.LineFault block.typeName) block.options other := by
      intro other isFirst
      rw [(settleLines_eq_error_iff _).mpr isFirst] at settled
      cases settled
    dsimp only
    rw [settleDefaults_eq_error_iff (awaits_of_settleLines settled)]
    constructor
    · exact fun isFirst => .inr ⟨none, isFirst⟩
    · rintro (isFirst | ⟨_, isFirst⟩)
      · exact absurd isFirst (none problem)
      · exact isFirst

/-! ### The sections that are accepted -/

/-- A section complies with a schema. -/
structure Accepts (schema : OptionSchema) (block : Section) : Prop where
  known : schema.strict = true → ∀ line ∈ block.options, ∃ spec ∈ schema.specs, spec.key = line.key
  /-- The last value of a declared key is of the declared kind. -/
  given : ∀ spec ∈ schema.specs, ∀ raw, block.value? spec.key = some raw →
    ∃ value, spec.coercion.coerce spec.key raw = .ok value
  /-- The default of a declared key that does not occur is of the declared kind. -/
  defaulted : ∀ spec ∈ schema.specs, block.value? spec.key = none → ∀ raw,
    spec.default = some raw → ∃ value, spec.coercion.coerce spec.key raw = .ok value
  /-- A declared key that does not occur and has no default may be left out. -/
  leftOut : ∀ spec ∈ schema.specs, block.value? spec.key = none → spec.default = none →
    spec.required = false

theorem no_lineFault_iff :
    (∀ problem, ¬ FirstFault (schema.LineFault block.typeName) block.options problem) ↔
      (schema.strict = true → ∀ line ∈ block.options, ∃ spec ∈ schema.specs, spec.key = line.key) ∧
      ∀ spec ∈ schema.specs, ∀ raw, block.value? spec.key = some raw →
        ∃ value, spec.coercion.coerce spec.key raw = .ok value := by
  rw [not_firstFault_iff]
  constructor
  · intro sound
    refine ⟨fun isStrict line present => ?_, fun spec declared raw isLast => ?_⟩
    · obtain ⟨earlier, later, split⟩ := List.append_of_mem present
      by_contra undeclared
      refine sound earlier line later split _ (.unknownKey isStrict fun spec declared isKey => ?_)
      exact undeclared ⟨spec, declared, isKey⟩
    · obtain ⟨earlier, line, later, split, isKey, rfl, others⟩ := Section.value?_eq_some_iff.mp isLast
      refine Coercion.exists_coerce_iff.mpr fun notRead => ?_
      exact sound earlier line later split _ (.notOfKind declared isKey.symm (isKey ▸ others) notRead)
  · rintro ⟨known, given⟩ earlier line later split _ (⟨isStrict, undeclared⟩ |
      ⟨declared, isKey, isLast, notRead⟩)
    · obtain ⟨spec, declared, isKey⟩ := known isStrict line (split ▸ by simp)
      exact undeclared spec declared isKey
    · have isValue := Section.value?_eq_some_iff.mpr
        ⟨earlier, line, later, split, isKey.symm, rfl, isKey ▸ isLast⟩
      exact Coercion.exists_coerce_iff.mp (given _ declared _ isValue) notRead

theorem no_specFault_iff :
    (∀ problem, ¬ FirstFault (fun spec _ => SpecFault block spec) schema.specs problem) ↔
      (∀ spec ∈ schema.specs, block.value? spec.key = none → ∀ raw,
        spec.default = some raw → ∃ value, spec.coercion.coerce spec.key raw = .ok value) ∧
      ∀ spec ∈ schema.specs, block.value? spec.key = none → spec.default = none →
        spec.required = false := by
  rw [not_firstFault_iff]
  constructor
  · intro sound
    have complies : ∀ spec ∈ schema.specs, ∀ problem, ¬ SpecFault block spec problem := by
      intro spec declared
      obtain ⟨earlier, later, split⟩ := List.append_of_mem declared
      exact sound earlier spec later split
    refine ⟨fun spec declared notGiven raw isDefault => ?_, fun spec declared notGiven noDefault => ?_⟩
    · refine Coercion.exists_coerce_iff.mpr fun notRead => ?_
      exact complies spec declared _ (.notOfKind notGiven isDefault notRead)
    · refine Bool.eq_false_iff.mpr fun isRequired => ?_
      exact complies spec declared _ (.missingOption notGiven noDefault isRequired)
  · rintro ⟨defaulted, leftOut⟩ earlier spec later split _ (⟨notGiven, isDefault, notRead⟩ |
      ⟨notGiven, noDefault, isRequired⟩)
    · have declared : spec ∈ schema.specs := split ▸ by simp
      exact Coercion.exists_coerce_iff.mp (defaulted spec declared notGiven _ isDefault) notRead
    · have declared : spec ∈ schema.specs := split ▸ by simp
      rw [leftOut spec declared notGiven noDefault] at isRequired
      cases isRequired

/-- A section is accepted exactly if it complies with the schema. -/
theorem exists_coerce_iff : (∃ options, schema.coerce block = .ok options) ↔ schema.Accepts block := by
  have noError : (∃ options, schema.coerce block = .ok options) ↔
      ∀ problem, ¬ schema.Reports block problem := by
    simp only [← coerce_eq_error_iff]
    cases schema.coerce block with
    | ok options => simp
    | error problem => simp
  rw [noError]
  unfold Reports
  constructor
  · intro sound
    have noLine := fun problem isFirst => sound problem (.inl isFirst)
    obtain ⟨known, given⟩ := no_lineFault_iff.mp noLine
    obtain ⟨defaulted, leftOut⟩ := no_specFault_iff.mp fun problem isFirst =>
      sound problem (.inr ⟨noLine, isFirst⟩)
    exact ⟨known, given, defaulted, leftOut⟩
  · rintro ⟨known, given, defaulted, leftOut⟩ problem (isFirst | ⟨_, isFirst⟩)
    · exact no_lineFault_iff.mpr ⟨known, given⟩ problem isFirst
    · exact no_specFault_iff.mpr ⟨defaulted, leftOut⟩ problem isFirst

/-! ### The values of an accepted section -/

/-- The values are what a schema makes of a section: those of the declared keys that occur or have a
default, the last value of a key counting before its default. -/
structure Gives (schema : OptionSchema) (block : Section) (options : Options) : Prop where
  contains_iff : ∀ key, options.contains key = true ↔
    ∃ spec ∈ schema.specs, spec.key = key ∧ (block.value? key ≠ none ∨ spec.default ≠ none)
  given : ∀ spec ∈ schema.specs, ∀ raw, block.value? spec.key = some raw →
    ∃ value, spec.coercion.coerce spec.key raw = .ok value ∧ options.get? spec.key = some value
  defaulted : ∀ spec ∈ schema.specs, block.value? spec.key = none → ∀ raw,
    spec.default = some raw →
      ∃ value, spec.coercion.coerce spec.key raw = .ok value ∧ options.get? spec.key = some value

/-- Lines give no value to an undeclared key. -/
theorem get?_of_settleLines_of_unknown {lines : List OptionLine} (unknown : schema.spec? key = none)
    (settled : (schema.settleLines typeName values lines).result = .ok coerced) :
    coerced.get? key = values.get? key := by
  induction lines generalizing values with
  | nil =>
    cases settled
    rfl
  | cons line later ih =>
    rw [settleLines] at settled
    split at settled
    · split at settled
      · cases settled
      · exact ih settled
    · next found known =>
      split at settled
      · exact ih settled
      · split at settled
        · cases settled
        · have differs : found.key ≠ key := fun same => by
            rw [← key_of_spec? known, same, unknown] at known
            cases known
          rw [ih settled, SortedMap.get?_insert, if_neg differs]

/-- An undeclared key has no value. -/
theorem get?_of_coerce_of_unknown (unknown : schema.spec? key = none)
    (accepted : schema.coerce block = .ok coerced) : coerced.get? key = none := by
  unfold coerce settle at accepted
  dsimp only at accepted
  split at accepted
  · cases accepted
  · next values settled =>
    have notDeclared : key ∉ schema.specs.map OptionSpec.key := by
      rintro declared
      obtain ⟨spec, present, isKey⟩ := List.mem_map.mp declared
      exact spec?_eq_none_iff.mp unknown spec present isKey
    rw [get?_of_settleDefaults schema.distinct accepted, defaultValue?_eq_none notDeclared,
      get?_of_settleLines_of_unknown unknown settled, SortedMap.get?_empty, Option.or_none]

theorem gives_of_coerce (accepted : schema.coerce block = .ok coerced) :
    schema.Gives block coerced := by
  have complies := exists_coerce_iff.mp ⟨coerced, accepted⟩
  have gets : ∀ spec ∈ schema.specs, coerced.get? spec.key =
      ((block.value? spec.key).or spec.default).bind spec.coercion.read? := fun spec declared =>
    get?_of_settle (spec?_eq_some_iff.mpr ⟨declared, rfl⟩) accepted
  have given : ∀ spec ∈ schema.specs, ∀ raw, block.value? spec.key = some raw → ∃ value,
      spec.coercion.coerce spec.key raw = .ok value ∧ coerced.get? spec.key = some value := by
    intro spec declared raw isLast
    obtain ⟨value, coerces⟩ := complies.given spec declared raw isLast
    refine ⟨value, coerces, ?_⟩
    rw [gets spec declared, isLast, Option.some_or, Option.bind_some,
      Coercion.coerce_eq_ok_iff.mp coerces]
  have defaulted : ∀ spec ∈ schema.specs, block.value? spec.key = none → ∀ raw,
      spec.default = some raw → ∃ value,
      spec.coercion.coerce spec.key raw = .ok value ∧ coerced.get? spec.key = some value := by
    intro spec declared notGiven raw isDefault
    obtain ⟨value, coerces⟩ := complies.defaulted spec declared notGiven raw isDefault
    refine ⟨value, coerces, ?_⟩
    rw [gets spec declared, notGiven, isDefault, Option.none_or, Option.bind_some,
      Coercion.coerce_eq_ok_iff.mp coerces]
  refine ⟨fun key => ⟨fun isContained => ?_, ?_⟩, given, defaulted⟩
  · cases found : schema.spec? key with
    | none =>
      rw [SortedMap.contains, get?_of_coerce_of_unknown found accepted] at isContained
      cases isContained
    | some spec =>
      obtain ⟨declared, rfl⟩ := spec?_eq_some_iff.mp found
      refine ⟨spec, declared, rfl, ?_⟩
      by_contra neither
      rw [not_or, not_not, not_not] at neither
      rw [SortedMap.contains, gets spec declared, neither.1, neither.2] at isContained
      cases isContained
  · rintro ⟨spec, declared, rfl, occurs⟩
    cases isGiven : block.value? spec.key with
    | some raw =>
      obtain ⟨value, _, isValue⟩ := given spec declared raw isGiven
      rw [SortedMap.contains, isValue]
      rfl
    | none =>
      obtain ⟨raw, isDefault⟩ := Option.ne_none_iff_exists'.mp
        (occurs.resolve_left fun given => given isGiven)
      obtain ⟨value, _, isValue⟩ := defaulted spec declared isGiven raw isDefault
      rw [SortedMap.contains, isValue]
      rfl

/-- **What the options of a section mean** after any declarations, of which the last one of a key
counts. A section is accepted exactly if it complies with them. Its values are then those of the
declared keys that occur or have a default. A section that does not comply is refused for its first
line at fault, else for the first declaration in force that it does not comply with. -/
theorem declareAll_meaning (strict : Bool) (declarations : List OptionSpec) (block : Section) :
    (declareAll strict declarations).strict = strict ∧
    (declareAll strict declarations).specs = inForce declarations ∧
    ((∃ options, (declareAll strict declarations).coerce block = .ok options) ↔
      (declareAll strict declarations).Accepts block) ∧
    (∀ options, (declareAll strict declarations).coerce block = .ok options →
      (declareAll strict declarations).Gives block options) ∧
    ∀ problem, (declareAll strict declarations).coerce block = .error problem ↔
      (declareAll strict declarations).Reports block problem :=
  ⟨strict_foldl_declare declarations, specs_declareAll strict declarations, exists_coerce_iff,
    fun _ accepted => gives_of_coerce accepted, fun _ => coerce_eq_error_iff⟩

end OptionSchema

end StoreTopology
