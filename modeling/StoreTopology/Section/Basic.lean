/-
**Sections of a configuration.**

A section is a block `<type name> ... </type>` with option lines and nested sections. Types, names
and keys are lowercase; a key may be given on several lines, and the last of them counts.
-/

namespace StoreTopology

/-- One `key value` line of a section. -/
structure OptionLine where
  key : String
  value : String
  line : Nat
deriving DecidableEq, Repr

/-- A block of the configuration, with the lines of its two tags. The tag that opens and closes at
once gives the same line for both. -/
structure Section where
  typeName : String
  name : Option String
  options : List OptionLine
  children : List Section
  line : Nat
  endLine : Nat

namespace Section

/-- The line that settles a key: the last one with it. -/
def settlingLine? (lines : List OptionLine) (key : String) : Option OptionLine :=
  lines.reverse.find? fun line => line.key = key

/-- The effective value of a key. -/
def value? (block : Section) (key : String) : Option String :=
  (settlingLine? block.options key).map OptionLine.value

mutual

/-- Equality of sections is decided field by field. -/
def decideEq : (first second : Section) → Decidable (first = second)
  | ⟨typeName, name, options, children, line, endLine⟩,
      ⟨typeName', name', options', children', line', endLine'⟩ =>
    if fields : typeName = typeName' ∧ name = name' ∧ options = options' ∧ line = line' ∧
        endLine = endLine' then
      match decideEqList children children' with
      | isTrue same => isTrue (by obtain ⟨rfl, rfl, rfl, rfl, rfl⟩ := fields; rw [same])
      | isFalse differ => isFalse fun same => by
          simp only [Section.mk.injEq] at same
          exact differ same.2.2.2.1
    else isFalse fun same => by
      simp only [Section.mk.injEq] at same
      exact fields ⟨same.1, same.2.1, same.2.2.1, same.2.2.2.2.1, same.2.2.2.2.2⟩

/-- Equality of forests is decided section by section. -/
def decideEqList : (first second : List Section) → Decidable (first = second)
  | [], [] => isTrue rfl
  | [], _ :: _ => isFalse fun same => by simp at same
  | _ :: _, [] => isFalse fun same => by simp at same
  | head :: rest, head' :: rest' =>
    match decideEq head head' with
    | isTrue same =>
      match decideEqList rest rest' with
      | isTrue sameRest => isTrue (by rw [same, sameRest])
      | isFalse differ => isFalse fun equal => differ (List.cons.inj equal).2
    | isFalse differ => isFalse fun equal => differ (List.cons.inj equal).1

end

instance : DecidableEq Section := decideEq

end Section

end StoreTopology
