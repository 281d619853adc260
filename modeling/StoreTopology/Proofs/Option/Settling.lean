/-
**The values that settling the options of a section gives.**

* `settlingLine?_cons`: a line settles its key if no later line does;
* `get?_of_settleLines`, `get?_of_settleDefaults`: what the lines and the defaults give a key;
* `get?_of_settle`: a declared key has the value of its last line, else its default.
-/

import StoreTopology.Option.Schema

namespace StoreTopology

variable {key typeName : String} {line : OptionLine} {later lines : List OptionLine}

theorem Coercion.coerce_eq_ok_iff {coercion : Coercion} {raw : String} {value : OptionValue} :
    coercion.coerce key raw = .ok value ↔ coercion.read? raw = some value := by
  unfold coerce
  split
  · next read isRead => rw [isRead, Except.ok.injEq, Option.some.injEq]
  · next notRead =>
    rw [notRead]
    constructor
    · intro failed
      cases failed
    · intro none
      cases none

/-! ### The last line of a key -/

namespace Section

theorem settlingLine?_cons : settlingLine? (line :: later) key =
    (settlingLine? later key).or (if line.key = key then some line else none) := by
  unfold settlingLine?
  rw [List.reverse_cons, List.find?_append]
  by_cases same : line.key = key
  · rw [if_pos same, List.find?_singleton, decide_eq_true same, if_pos rfl]
  · rw [if_neg same, List.find?_singleton, decide_eq_false same, if_neg Bool.false_ne_true]

theorem settlingLine?_eq_none_iff :
    settlingLine? lines key = none ↔ (lines.any fun other => other.key = key) = false := by
  unfold settlingLine?
  rw [List.find?_eq_none, List.any_eq_false]
  constructor
  · exact fun noLine other present => noLine other (List.mem_reverse.mpr present)
  · exact fun noLine other present => noLine other (List.mem_reverse.mp present)

/-- A line that a later one with its key follows settles nothing. -/
theorem settlingLine?_cons_of_any (again : later.any fun other => other.key = line.key) :
    settlingLine? (line :: later) key = settlingLine? later key := by
  rw [settlingLine?_cons]
  by_cases same : line.key = key
  · cases found : settlingLine? later key with
    | none =>
      rw [settlingLine?_eq_none_iff, ← same, again] at found
      cases found
    | some last => rfl
  · rw [if_neg same, Option.or_none]

end Section

namespace OptionSchema

open Section

variable {schema : OptionSchema} {values coerced : Options} {spec : OptionSpec}

/-! ### Lines -/

theorem key_of_spec? (declared : schema.spec? key = some spec) : spec.key = key := by
  have found := List.find?_some declared
  exact of_decide_eq_true found

/-- The lines give a declared key the value of its last line, and leave it alone if there is
none. -/
theorem get?_of_settleLines (declared : schema.spec? key = some spec)
    (settled : (schema.settleLines typeName values lines).result = .ok coerced) :
    match settlingLine? lines key with
    | some last => ∃ value, spec.coercion.read? last.value = some value ∧
        coerced.get? key = some value
    | none => coerced.get? key = values.get? key := by
  induction lines generalizing values with
  | nil =>
    cases settled
    exact rfl
  | cons line later ih =>
    rw [settleLines] at settled
    split at settled
    · next unknown =>
      have other : line.key ≠ key := fun same => by
        rw [same, declared] at unknown
        cases unknown
      rw [settlingLine?_cons, if_neg other, Option.or_none]
      split at settled
      · cases settled
      · exact ih settled
    · next found known =>
      split at settled
      · next again =>
        rw [settlingLine?_cons_of_any again]
        exact ih settled
      · next notAgain =>
        split at settled
        · cases settled
        · next value coerces =>
          rw [key_of_spec? known] at settled
          have inserted := ih settled
          rw [settlingLine?_cons]
          by_cases same : line.key = key
          · subst same
            rw [settlingLine?_eq_none_iff.mpr (Bool.eq_false_iff.mpr notAgain)] at inserted ⊢
            rw [if_pos rfl]
            cases declared.symm.trans known
            rw [SortedMap.get?_insert_self] at inserted
            exact ⟨value, Coercion.coerce_eq_ok_iff.mp coerces, inserted⟩
          · rw [if_neg same, Option.or_none]
            rw [SortedMap.get?_insert, if_neg same] at inserted
            exact inserted

/-! ### Defaults -/

/-- The value that a key has if no line gives one. -/
def defaultValue? (specs : List OptionSpec) (key : String) : Option OptionValue :=
  (specs.find? fun spec => spec.key = key).bind fun spec => spec.default.bind spec.coercion.read?

variable {number : Nat} {specs : List OptionSpec}

theorem defaultValue?_cons : defaultValue? (spec :: specs) key =
    if spec.key = key then spec.default.bind spec.coercion.read? else defaultValue? specs key := by
  unfold defaultValue?
  by_cases same : spec.key = key
  · rw [if_pos same, List.find?_cons_of_pos (by simpa using same), Option.bind_some]
  · rw [if_neg same, List.find?_cons_of_neg (by simpa using same)]

theorem defaultValue?_eq_none (missing : key ∉ specs.map OptionSpec.key) :
    defaultValue? specs key = none := by
  unfold defaultValue?
  rw [List.find?_eq_none.mpr, Option.bind_none]
  intro spec present same
  exact missing (of_decide_eq_true same ▸ List.mem_map_of_mem present)

/-- A declaration gives its key the default, unless the key has a value. -/
theorem settleDefaults_cons_eq_ok
    (settled : settleDefaults typeName number values (spec :: specs) = .ok coerced) (key : String) :
    ∃ next : Options, settleDefaults typeName number next specs = .ok coerced ∧
      next.get? key = (values.get? key).or
        (if spec.key = key then spec.default.bind spec.coercion.read? else none) := by
  rw [settleDefaults] at settled
  split at settled
  · next given =>
    refine ⟨values, settled, ?_⟩
    by_cases same : spec.key = key
    · obtain ⟨value, isGiven⟩ := Option.isSome_iff_exists.mp given
      rw [← same, isGiven, Option.some_or]
    · rw [if_neg same, Option.or_none]
  · next notGiven =>
    have noValue : values.get? spec.key = none := Option.not_isSome_iff_eq_none.mp notGiven
    split at settled
    · next raw isDefault =>
      split at settled
      · cases settled
      · next value coerces =>
        refine ⟨_, settled, ?_⟩
        rw [SortedMap.get?_insert, isDefault, Option.bind_some,
          Coercion.coerce_eq_ok_iff.mp coerces]
        by_cases same : spec.key = key
        · rw [if_pos same, if_pos same, ← same, noValue, Option.none_or]
        · rw [if_neg same, if_neg same, Option.or_none]
    · next noDefault =>
      split at settled
      · cases settled
      · refine ⟨values, settled, ?_⟩
        rw [noDefault, Option.bind_none, ite_self, Option.or_none]

/-- A declared key that has no value gets its default, and every other key is left alone. -/
theorem get?_of_settleDefaults (distinct : (specs.map OptionSpec.key).Nodup)
    (settled : settleDefaults typeName number values specs = .ok coerced) :
    coerced.get? key = (values.get? key).or (defaultValue? specs key) := by
  induction specs generalizing values with
  | nil =>
    cases settled
    exact Option.or_none.symm
  | cons spec rest ih =>
    obtain ⟨notInRest, distinctRest⟩ := List.nodup_cons.mp distinct
    obtain ⟨next, settledRest, gets⟩ := settleDefaults_cons_eq_ok settled key
    rw [ih distinctRest settledRest, gets, defaultValue?_cons, Option.or_assoc]
    by_cases same : spec.key = key
    · rw [if_pos same, if_pos same, defaultValue?_eq_none (same ▸ notInRest), Option.or_none]
    · rw [if_neg same, if_neg same, Option.none_or]

/-- **A declared key has the value of its last line**, else its default, else none. -/
theorem get?_of_settle {block : Section} (declared : schema.spec? key = some spec)
    (settled : (schema.settle block).result = .ok coerced) :
    coerced.get? key = ((block.value? key).or spec.default).bind spec.coercion.read? := by
  unfold settle at settled
  dsimp only at settled
  split at settled
  · cases settled
  · next values settledLines =>
    have lines := get?_of_settleLines declared settledLines
    have isDefault : defaultValue? schema.specs key = spec.default.bind spec.coercion.read? := by
      unfold defaultValue?
      rw [show (schema.specs.find? fun other => other.key = key) = some spec from declared,
        Option.bind_some]
    rw [get?_of_settleDefaults schema.distinct settled, isDefault]
    unfold Section.value?
    cases found : settlingLine? block.options key with
    | none =>
      rw [found] at lines
      rw [lines, SortedMap.get?_empty, Option.none_or, Option.map_none, Option.none_or]
    | some last =>
      rw [found] at lines
      obtain ⟨value, isRead, isValue⟩ := lines
      rw [isValue, Option.some_or, Option.map_some, Option.some_or, Option.bind_some, isRead]

/-- A text without a default has the text of its last line. -/
theorem string?_of_settle {block : Section} (declared : schema.spec? key = some spec)
    (isString : spec.coercion = .string) (noDefault : spec.default = none)
    (settled : (schema.settle block).result = .ok coerced) :
    coerced.string? key = block.value? key := by
  unfold Options.string?
  rw [get?_of_settle declared settled, isString, noDefault, Option.or_none]
  cases block.value? key with
  | none => rfl
  | some raw => rfl

end OptionSchema

end StoreTopology
