/-
**Types are registered as they are read from tags.**

* `Line.AcceptsType`: an opening tag may have its type in this spelling, which is so for all names
  (`acceptsType_iff`);
* `Catalog.Resolves`: a type in some spelling resolves to a builder, where it is looked up and in
  every tag of every text;
* `resolves_iff`: which are the same, because lowercase letters are their own lowercase;
* `resolves_exchange`: what registering a builder does to the types that resolve to another one.
-/

import StoreTopology.Builder.BuiltIn
import StoreTopology.Proofs.Section.LineForm
import StoreTopology.Proofs.Section.Openings
import StoreTopology.Proofs.Topology.Validation

namespace StoreTopology

open Text

/-! ### Spellings that tags accept -/

namespace Line

variable {typeName : String}

/-- An opening tag accepts the spelling of its type. -/
def AcceptsType (typeName : String) : Prop :=
  ∃ raw line, classify raw = .ok line ∧ IsTagOf typeName raw

theorem isTagOf_emptyText (isType : isName typeName.toList = true) :
    IsTagOf typeName (emptyText typeName none) := by
  have ends : ∀ c ∈ ['/', '>'].head?, isNameChar c = false := by
    rintro _ ⟨⟩
    decide +kernel
  have noSlash : ∀ c ∈ (headingText typeName none ++ ['/', '>']).head?, c ≠ '/' :=
    head?_headingText isType _
  refine ⟨typeName.toList ++ ['/', '>'], ['/', '>'],
    trim_of_trimmed (trimmed_emptyText typeName none), fun slash => noSlash '/' slash rfl, ?_⟩
  rw [trimStart_name isType, splitName_append isType ends]

/-- A tag that opens and closes at once has its type in lowercase, however it is spelled. -/
theorem classify_spelled (isType : isName typeName.toList = true) :
    classify (emptyText typeName none) = .ok (.emptyTag (lowercased typeName) none) := by
  have noName : ∀ text ∈ (none : Option String), IsOwnSectionName text := fun _ absent =>
    nomatch absent
  refine classify_opening (trimmed_emptyText typeName none) (head?_headingText isType _) ?_
  rw [readOpenTag_headingText isType noName (.inr rfl), tagEnding, String.ofList_toList]
  rfl

/-- Opening tags accept names, and nothing else. -/
theorem acceptsType_iff : AcceptsType typeName ↔ isName typeName.toList = true := by
  constructor
  · rintro ⟨raw, line, _, text, rest, _, _, split⟩
    exact isName_of_splitName split
  · intro isType
    exact ⟨_, _, classify_spelled isType, isTagOf_emptyText isType⟩

end Line

variable {typeName : String}

theorem lines_emptyText (isType : Line.isName typeName.toList = true) :
    Text.lines (Line.emptyText typeName none) = [Line.emptyText typeName none] := by
  refine lines_of_noLineFeed ?_ (List.cons_ne_nil _ _)
  have apart := Line.lineFeed_notMem_name isType
  simp [Line.emptyText, Line.headingText, apart]

/-- A text of one tag has one section, of the type in lowercase. -/
theorem parse_emptyText (isType : Line.isName typeName.toList = true) :
    parse (.ofList (Line.emptyText typeName none)) =
      .ok [⟨lowercased typeName, none, [], [], 1, 1⟩] := by
  rw [parse, String.toList_ofList, lines_emptyText isType, parseLines, Outline.readLines,
    Outline.readLine, Line.classify_spelled isType]
  rfl

/-! ### Builders of types -/

namespace Catalog

variable {catalog : Catalog} {builder held : Builder}

/-- A type in this spelling resolves to a builder, where it is looked up and in tags: each tag
opens one section of its text, to which the builder belongs. -/
structure Resolves (catalog : Catalog) (typeName : String) (builder : Builder) : Prop where
  found : catalog.lookup? typeName = some builder
  tags {text : String} {forest : List Section} (parsed : parse text = .ok forest) {index : Nat}
    {raw : List Char} (isLine : (Text.lines text.toList)[index]? = some raw)
    (isTag : Line.IsTagOf typeName raw) :
    ∃ block, Section.Occurs forest block ∧ block.line = index + 1 ∧
      (∀ other, Section.Occurs forest other → other.line = index + 1 → other = block) ∧
      catalog.resolve block = .ok builder

theorem lookup?_lowercased (catalog : Catalog) (typeName : String) :
    catalog.lookup? (lowercased typeName) = catalog.lookup? typeName := by
  unfold lookup?
  rw [lowercased_lowercased]

/-- What a type is looked up as is what it resolves to in tags. -/
theorem resolves_iff :
    catalog.Resolves typeName builder ↔ catalog.lookup? typeName = some builder := by
  constructor
  · exact Resolves.found
  · intro found
    refine ⟨found, fun parsed _ _ isLine isTag => ?_⟩
    obtain ⟨block, occurs, isFirst, isType, unique⟩ := exists_section_of_tag parsed isLine isTag
    refine ⟨block, occurs, isFirst, unique, resolve_eq_ok_iff.mpr ?_⟩
    rw [isType, lookup?_lowercased, found]

/-- A builder in place of another one leaves the types as they are. -/
theorem types_register (found : catalog.lookup? typeName = some held) (builder : Builder) :
    (catalog.register typeName builder).types = catalog.types := by
  refine SortedMap.keys_eq_of_contains fun key => ?_
  unfold SortedMap.contains register
  rw [SortedMap.get?_insert]
  split
  · next here =>
    subst here
    rw [show catalog.get? _ = some held from found]
    rfl
  · rfl

/-- **Types are registered as they are read.** A type that tags accept resolves to the builder
registered for it. The next builder for a type with the same lowercase takes its place and nothing
more; one for any other type makes no difference. -/
theorem resolves_exchange (catalog : Catalog) (builder : Builder)
    (accepted : Line.AcceptsType typeName) :
    (∃ text forest raw, parse text = .ok forest ∧ raw ∈ Text.lines text.toList ∧
      Line.IsTagOf typeName raw) ∧
    (catalog.exchange typeName builder).2.Resolves typeName builder ∧
    (∀ other replacement, lowercased other = lowercased typeName →
      let registered := (catalog.exchange typeName builder).2
      (registered.exchange other replacement).1 = some builder ∧
        (registered.exchange other replacement).2.types.length = registered.types.length ∧
        (registered.exchange other replacement).2.Resolves typeName replacement) ∧
    ∀ other replacement, lowercased other ≠ lowercased typeName →
      ∀ (before : Catalog) (held : Builder),
        (before.exchange other replacement).2.Resolves typeName held ↔
          before.Resolves typeName held := by
  have isType := Line.acceptsType_iff.mp accepted
  have found : ∀ other, lowercased other = lowercased typeName →
      (catalog.register typeName builder).lookup? other = some builder := fun other same =>
    (lookup?_register catalog typeName other builder).trans (if_pos same.symm)
  refine ⟨⟨_, _, _, parse_emptyText isType, ?_, Line.isTagOf_emptyText isType⟩,
    resolves_iff.mpr (found typeName rfl), fun other replacement same => ⟨found other same, ?_, ?_⟩,
    fun other replacement differs before held => ?_⟩
  · rw [String.toList_ofList, lines_emptyText isType]
    exact List.mem_singleton_self _
  · exact congrArg List.length (types_register (found other same) replacement)
  · exact resolves_iff.mpr ((lookup?_register _ other typeName replacement).trans (if_pos same))
  · rw [resolves_iff, resolves_iff]
    show lookup? (register before other replacement) typeName = _ ↔ _
    rw [lookup?_register, if_neg differs]

/-- A type that ends with a sigma, which has another lowercase there. Spelled with the small letter
for the end of a word it is the same type, with the one for the middle of a word another type. -/
theorem resolves_exchange_finalSigma :
    let registered := (builtIn.exchange "DiskΣ" Builder.mapping).2
    parse "<DiskΣ/>" = .ok [⟨"diskς", none, [], [], 1, 1⟩] ∧
      registered.Resolves "DiskΣ" Builder.mapping ∧
      (registered.exchange "DISKς" Builder.file).1 = some Builder.mapping ∧
      (registered.exchange "DISKς" Builder.file).2.types.length = 5 ∧
      (registered.exchange "DISKς" Builder.file).2.Resolves "DiskΣ" Builder.file ∧
      (registered.exchange "Diskσ" Builder.file).2.Resolves "DiskΣ" Builder.mapping := by
  have accepted : Line.AcceptsType "DiskΣ" := Line.acceptsType_iff.mpr (by decide +kernel)
  have same : lowercased "DISKς" = lowercased "DiskΣ" := by decide +kernel
  have differs : lowercased "Diskσ" ≠ lowercased "DiskΣ" := by decide +kernel
  obtain ⟨_, resolves, replaced, others⟩ := resolves_exchange builtIn Builder.mapping accepted
  obtain ⟨isFirst, count, next⟩ := replaced "DISKς" Builder.file same
  exact ⟨toOption_eq_some_iff.mp (by decide +kernel), resolves, isFirst, count.trans rfl, next,
    (others "Diskσ" Builder.file differs _ _).mpr resolves⟩

end Catalog

end StoreTopology
