/-
**Sections in the order from the inside out.**

* `Section.induction`: what holds of a section if it holds of its nested sections;
* `Section.forest_induction`: what holds of a forest if it holds of the forests that it begins with;
* `Section.postorder`: the nested sections before the section itself, each with its place;
* `Section.places_nodup`: no place is visited twice.
-/

import StoreTopology.Section.Basic

namespace StoreTopology

/-- What holds of a section if it holds of its nested sections holds of all sections. -/
theorem Section.induction {motive : Section → Prop}
    (step : ∀ block : Section, (∀ child ∈ block.children, motive child) → motive block)
    (block : Section) : motive block := by
  apply step
  intro child nested
  exact Section.induction step child
termination_by sizeOf block
decreasing_by
  have smaller := List.sizeOf_lt_of_mem nested
  cases block
  simp only [Section.mk.sizeOf_spec] at smaller ⊢
  omega

/-- What holds of a forest if it holds of what is nested in its first section, and of the sections
behind this one, holds of all forests. -/
theorem Section.forest_induction {motive : List Section → Prop} (nil : motive [])
    (cons : ∀ block rest, motive block.children → motive rest → motive (block :: rest)) :
    ∀ forest, motive forest
  | [] => nil
  | block :: rest =>
    cons block rest (forest_induction nil cons block.children) (forest_induction nil cons rest)
termination_by forest => sizeOf forest
decreasing_by
  all_goals
    cases block
    simp only [List.cons.sizeOf_spec, Section.mk.sizeOf_spec]
    omega

/-- A section at its place in a forest: its number among the sections beside it, after the place of
the section around it. -/
structure Visit where
  place : List Nat
  block : Section
deriving DecidableEq

namespace Section

mutual

/-- The sections nested in a section in source order, each after those nested in it, and the section
itself last. -/
def postorder (place : List Nat) : Section → List Visit
  | ⟨typeName, name, options, children, line, endLine⟩ =>
    postorderAll place 0 children ++ [⟨place, ⟨typeName, name, options, children, line, endLine⟩⟩]

/-- Sections beside one another, numbered from an index on. -/
def postorderAll (around : List Nat) (index : Nat) : List Section → List Visit
  | [] => []
  | block :: rest => postorder (around ++ [index]) block ++ postorderAll around (index + 1) rest

end

theorem postorder_eq (place : List Nat) (block : Section) :
    postorder place block = postorderAll place 0 block.children ++ [⟨place, block⟩] := by
  cases block
  rw [postorder]

theorem postorderAll_append (around : List Nat) (index : Nat) (first second : List Section) :
    postorderAll around index (first ++ second) =
      postorderAll around index first ++ postorderAll around (index + first.length) second := by
  induction first generalizing index with
  | nil => rfl
  | cons block rest ih =>
    rw [List.cons_append, postorderAll, ih, postorderAll, List.append_assoc, List.length_cons,
      Nat.add_assoc, Nat.add_comm 1]

/-- Sections beside one another have places with their numbers, and what is visited inside of them
has a place inside of these. -/
theorem place_of_mem_postorderAll {forest : List Section} {around : List Nat} {index : Nat}
    {visit : Visit} (present : visit ∈ postorderAll around index forest) :
    ∃ number, index ≤ number ∧ around ++ [number] <+: visit.place := by
  induction forest using forest_induction generalizing around index with
  | nil => cases present
  | cons block rest ihNested ih =>
    rw [postorderAll, postorder_eq, List.mem_append, List.mem_append, List.mem_singleton] at present
    rcases present with (nested | rfl) | later
    · obtain ⟨number, _, inside⟩ := ihNested nested
      exact ⟨index, Nat.le_refl _, (List.prefix_append _ [number]).trans inside⟩
    · exact ⟨index, Nat.le_refl _, List.prefix_rfl⟩
    · obtain ⟨number, below, inside⟩ := ih later
      exact ⟨number, Nat.le_of_succ_le below, inside⟩

/-- What is visited inside a section has a place inside it. -/
theorem place_of_mem_postorder {block : Section} {place : List Nat} {visit : Visit}
    (present : visit ∈ postorder place block) : place <+: visit.place := by
  rw [postorder_eq, List.mem_append, List.mem_singleton] at present
  rcases present with nested | rfl
  · obtain ⟨number, _, inside⟩ := place_of_mem_postorderAll nested
    exact (List.prefix_append place [number]).trans inside
  · exact List.prefix_rfl

/-- A section is visited at a place of its own if what is nested in it is. -/
theorem places_nodup_postorder {block : Section} {place : List Nat}
    (nested : ((postorderAll place 0 block.children).map Visit.place).Nodup) :
    ((postorder place block).map Visit.place).Nodup := by
  rw [postorder_eq, List.map_append, List.nodup_append]
  refine ⟨nested, List.nodup_cons.mpr ⟨List.not_mem_nil, .nil⟩, ?_⟩
  intro other inside own isOwn same
  obtain ⟨visit, present, rfl⟩ := List.mem_map.mp inside
  rw [List.map_singleton, List.mem_singleton] at isOwn
  obtain ⟨number, _, begins⟩ := place_of_mem_postorderAll present
  have longer := begins.length_le
  rw [same, isOwn, List.length_append] at longer
  exact Nat.lt_irrefl _ longer

/-- No place is visited twice. -/
theorem places_nodup (around : List Nat) (index : Nat) (forest : List Section) :
    ((postorderAll around index forest).map Visit.place).Nodup := by
  induction forest using forest_induction generalizing around index with
  | nil => exact .nil
  | cons block rest ihNested ih =>
    rw [postorderAll, List.map_append, List.nodup_append]
    refine ⟨places_nodup_postorder (ihNested _ 0), ih around (index + 1), ?_⟩
    intro place inFirst other inOthers same
    obtain ⟨visit, present, rfl⟩ := List.mem_map.mp inFirst
    obtain ⟨visit', present', rfl⟩ := List.mem_map.mp inOthers
    obtain ⟨number, above, inside'⟩ := place_of_mem_postorderAll present'
    have inside := place_of_mem_postorder present
    rw [same] at inside
    -- Both sections are around the same place, so that they have the same number.
    have equal := (List.prefix_of_prefix_length_le inside inside' (by simp)).eq_of_length (by simp)
    have numbers := List.append_cancel_left equal
    cases numbers
    exact Nat.lt_irrefl index above

end Section

end StoreTopology
