/-
**What the lines of a configuration define.**

A reference is to a definition on an earlier line, and definitions stay: the definitions after all
lines tell what each value stands for.

* `SettlesTo`: what a line becomes, by the definitions after all lines;
* `settlesTo_of_settleAll`: so do all lines become what they are settled to;
* `value_induction`: what holds of a value if it holds of the values that it refers to holds of all
  values.
-/

import StoreTopology.Proofs.Section.Spelling

namespace StoreTopology

open Text

variable {definitions next last : Definitions} {line other : Line} {said settled : List Line}
  {name : String} {value : List Char}

/-! ### Lines and the definitions after all of them -/

/-- What a line becomes, by the definitions after all lines. -/
inductive SettlesTo (last : Definitions) : Line → Line → Prop
  | definition {name : String} {value text : List Char}
      (replaced : substitute last value = .ok text)
      (isDefined : last.get? name = some (.ofList text)) :
      SettlesTo last (.definition name value) .blank
  | option {key : String} {value text : List Char} (replaced : substitute last value = .ok text) :
      SettlesTo last (.option key value) (.option key text)
  | same {line : Line} (noValue : line.value? = none) : SettlesTo last line line

theorem settlesTo_of_settle (settles : line.settle definitions = .ok (other, next))
    (widens : Widens next last) : SettlesTo last line other := by
  have before : Widens definitions last := fun _ _ found =>
    widens _ _ (Outline.widens_of_settle settles _ _ found)
  cases line with
  | definition name value =>
    obtain ⟨text, replaced, _, rfl, rfl⟩ := settle_definition_iff.mp settles
    exact .definition (substitute_of_widens before replaced)
      (widens _ _ (SortedMap.get?_insert_self _ _ _))
  | option key value =>
    obtain ⟨text, replaced, rfl, rfl⟩ := settle_option_iff.mp settles
    exact .option (substitute_of_widens before replaced)
  | blank => cases settles; exact .same rfl
  | openTag typeName name => cases settles; exact .same rfl
  | emptyTag typeName name => cases settles; exact .same rfl
  | closeTag typeName => cases settles; exact .same rfl

/-- Lines become what they are settled to, and what was defined before them stays. -/
theorem settlesTo_of_settleAll (settles : settleAll definitions said = .ok (settled, last)) :
    Widens definitions last ∧ List.Forall₂ (SettlesTo last) said settled := by
  induction said generalizing definitions settled with
  | nil =>
    cases settles
    exact ⟨fun _ _ found => found, .nil⟩
  | cons line rest ih =>
    obtain ⟨first, next, later, settlesFirst, settlesRest, rfl⟩ := settleAll_cons_iff.mp settles
    obtain ⟨widens, others⟩ := ih settlesRest
    exact ⟨fun _ _ found => widens _ _ (Outline.widens_of_settle settlesFirst _ _ found),
      .cons (settlesTo_of_settle settlesFirst widens) others⟩

theorem exists_settlesTo_of_mem (settles : List.Forall₂ (SettlesTo last) said settled)
    (present : line ∈ said) : ∃ other, SettlesTo last line other := by
  induction settles with
  | nil => cases present
  | cons settlesTo _ ih =>
    rcases List.mem_cons.mp present with rfl | later
    · exact ⟨_, settlesTo⟩
    · exact ih later

/-- A defined name has what its value stands for. -/
theorem exists_of_definition (settles : List.Forall₂ (SettlesTo last) said settled)
    (present : Line.definition name value ∈ said) :
    ∃ text, substitute last value = .ok text ∧ last.get? name = some (.ofList text) := by
  obtain ⟨other, settlesTo⟩ := exists_settlesTo_of_mem settles present
  cases settlesTo with
  | definition replaced isDefined => exact ⟨_, replaced, isDefined⟩
  | same noValue => cases noValue

/-- Every value stands for something. -/
theorem exists_substitute_of_value (settles : List.Forall₂ (SettlesTo last) said settled)
    (present : line ∈ said) (isValue : line.value? = some value) :
    ∃ text, substitute last value = .ok text := by
  obtain ⟨other, settlesTo⟩ := exists_settlesTo_of_mem settles present
  cases settlesTo with
  | definition replaced _ =>
    cases isValue
    exact ⟨_, replaced⟩
  | option replaced =>
    cases isValue
    exact ⟨_, replaced⟩
  | same noValue =>
    rw [isValue] at noValue
    cases noValue

/-- A settled option is one of the lines, with what its value stands for. -/
theorem exists_option_of_settled (settles : List.Forall₂ (SettlesTo last) said settled)
    {index : Nat} {key : String} {text : List Char}
    (found : settled[index]? = some (.option key text)) :
    ∃ value, said[index]? = some (.option key value) ∧ substitute last value = .ok text := by
  induction settles generalizing index with
  | nil => cases found
  | cons settlesTo _ ih =>
    cases index with
    | zero =>
      cases Option.some.inj found
      cases settlesTo with
      | option replaced => exact ⟨_, rfl, replaced⟩
      | same noValue => cases noValue
    | succ index => exact ih found

/-! ### Values that refer to values -/

/-- A token refers to a name that some line defines with the value. -/
def Token.RefersTo (said : List Line) (token : Token) (value : List Char) : Prop :=
  ∃ name ∈ token.reference?, Line.definition (lowercased (.ofList name)) value ∈ said

/-- An item with an image of its own is the only one. -/
theorem eq_of_nodup_filterMap {α β : Type} {f : α → Option β} {list : List α}
    (distinct : (list.filterMap f).Nodup) {first second : α} {image : β} (isFirst : first ∈ list)
    (isSecond : second ∈ list) (firstImage : f first = some image)
    (secondImage : f second = some image) : first = second := by
  induction list with
  | nil => cases isFirst
  | cons head rest ih =>
    obtain ⟨apart, others⟩ := nodup_filterMap_cons.mp distinct
    have inRest : ∀ {item}, item ∈ rest → f item = some image → image ∈ rest.filterMap f :=
      fun present isImage => List.mem_filterMap.mpr ⟨_, present, isImage⟩
    rcases List.mem_cons.mp isFirst with rfl | firstLater
    · rcases List.mem_cons.mp isSecond with rfl | secondLater
      · rfl
      · exact absurd (inRest secondLater secondImage) (apart image firstImage)
    · rcases List.mem_cons.mp isSecond with rfl | secondLater
      · exact absurd (inRest firstLater firstImage) (apart image secondImage)
      · exact ih others firstLater secondLater

/-- What holds of a value if it holds of all values that it refers to holds of every value, since a
reference is to a definition on an earlier line. -/
theorem value_induction {motive : List Char → Prop}
    (settles : settleAll .empty said = .ok (settled, last))
    (step : ∀ line ∈ said, ∀ value ∈ line.value?,
      (∀ token ∈ Token.read value, ∀ inner, token.RefersTo said inner → motive inner) →
        motive value) :
    ∀ line ∈ said, ∀ value ∈ line.value?, motive value := by
  obtain ⟨distinct, _, defined⟩ := exists_settleAll_iff.mp ⟨_, settles⟩
  -- The induction is on the number of lines before the one with the value.
  have behind : ∀ count before line after, before.length = count →
      said = before ++ line :: after → ∀ value ∈ line.value?, motive value := by
    intro count
    induction count using Nat.strong_induction_on with
    | _ count ih =>
      intro before line after isCount split value isValue
      refine step line (split ▸ by simp) value isValue fun token present inner refers => ?_
      obtain ⟨name, isName, isDefinition⟩ := refers
      obtain ⟨tokens, splits, known⟩ := defined before line after split value isValue
      rw [splits.read_eq] at present
      have earlier := (known token present name isName).resolve_left (by simp [SortedMap.contains])
      obtain ⟨source, inBefore, defines⟩ := List.mem_filterMap.mp earlier
      have inSaid : source ∈ said := split ▸ List.mem_append_left _ inBefore
      obtain rfl := eq_of_nodup_filterMap distinct inSaid isDefinition defines rfl
      obtain ⟨front, back, rfl⟩ := List.append_of_mem inBefore
      have fewer : front.length < count := by
        rw [← isCount, List.length_append, List.length_cons]
        omega
      rw [List.append_assoc, List.cons_append] at split
      exact ih front.length fewer front _ _ rfl split inner rfl
  intro line present
  obtain ⟨before, after, split⟩ := List.append_of_mem present
  exact behind _ before line after rfl split

end StoreTopology
