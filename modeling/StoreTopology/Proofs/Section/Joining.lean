/-
**One text after another.**

* `settleAll_of_widens`: lines that can be settled are settled in the same way if more is defined
  before them, as long as they do not define it again;
* `contents_unique`: lines describe one forest only;
* `parse_append`: a text that goes on with another one has the sections of both, the later ones moved
  down, exactly if no top-level section and no definition of the two have a name in common.
-/

import Mathlib.Data.List.Nodup
import StoreTopology.Proofs.Section.Language
import StoreTopology.Proofs.Section.Layout

namespace StoreTopology

open Text

/-! ### More definitions -/

/-- All that is defined in a table is defined in the larger one as well, with the same value. -/
def Widens (definitions larger : Definitions) : Prop :=
  ∀ name value, definitions.get? name = some value → larger.get? name = some value

variable {definitions larger next last : Definitions}

theorem widens_empty (larger : Definitions) : Widens .empty larger := by
  intro name value found
  cases found

theorem Widens.insert (widens : Widens definitions larger) (name value : String) :
    Widens (definitions.insert name value) (larger.insert name value) := by
  intro other text found
  rw [SortedMap.get?_insert] at found ⊢
  by_cases same : name = other
  · rw [if_pos same] at found ⊢
    exact found
  · rw [if_neg same] at found ⊢
    exact widens other text found

theorem meaning_of_widens {token : Token} {text : List Char} (widens : Widens definitions larger)
    (meant : token.meaning definitions = .ok text) : token.meaning larger = .ok text := by
  have ofName : ∀ {name : List Char}, Token.meaning.lookUp definitions name = .ok text →
      Token.meaning.lookUp larger name = .ok text := by
    intro name meant
    unfold Token.meaning.lookUp at meant ⊢
    split at meant
    · next value found =>
      rw [widens _ value found]
      exact meant
    · cases meant
  cases token with
  | plain c => exact meant
  | dollar => exact meant
  | bare name => exact ofName meant
  | braced name => exact ofName meant
  | unterminated rest => cases meant
  | lone rest => cases meant

theorem expand_of_widens {tokens : List Token} {text : List Char}
    (widens : Widens definitions larger) (expands : Token.expand definitions tokens = .ok text) :
    Token.expand larger tokens = .ok text := by
  induction tokens generalizing text with
  | nil => exact expands
  | cons token rest ih =>
    rw [Token.expand] at expands ⊢
    split at expands
    · cases expands
    · next own meant =>
      split at expands
      · cases expands
      · next later expandsRest =>
        rw [meaning_of_widens widens meant]
        dsimp only
        rw [ih expandsRest]
        exact expands

theorem substitute_of_widens {value text : List Char} (widens : Widens definitions larger)
    (replaced : substitute definitions value = .ok text) : substitute larger value = .ok text :=
  expand_of_widens widens replaced

/-- A line is settled in the same way if more is defined before it, as long as what it defines is
not. -/
theorem settle_of_widens {line settled : Line} (widens : Widens definitions larger)
    (free : ∀ name ∈ line.defined?, larger.contains name = false)
    (settles : line.settle definitions = .ok (settled, next)) :
    ∃ after, line.settle larger = .ok (settled, after) ∧ Widens next after ∧
      ∀ name, after.contains name = true ↔ larger.contains name = true ∨ name ∈ line.defined? := by
  have known : ∀ {after}, line.settle larger = .ok (settled, after) → Widens next after →
      ∃ after, line.settle larger = .ok (settled, after) ∧ Widens next after ∧
        ∀ name, after.contains name = true ↔ larger.contains name = true ∨ name ∈ line.defined? :=
    fun settles widens => ⟨_, settles, widens, contains_of_settle settles⟩
  cases line with
  | definition name value =>
    obtain ⟨text, replaced, _, rfl, rfl⟩ := settle_definition_iff.mp settles
    exact known (settle_definition_iff.mpr
      ⟨text, substitute_of_widens widens replaced, free name rfl, rfl, rfl⟩) (widens.insert _ _)
  | option key value =>
    obtain ⟨text, replaced, rfl, rfl⟩ := settle_option_iff.mp settles
    exact known (settle_option_iff.mpr
      ⟨text, substitute_of_widens widens replaced, rfl, rfl⟩) widens
  | blank =>
    cases settles
    exact known rfl widens
  | openTag typeName name =>
    cases settles
    exact known rfl widens
  | emptyTag typeName name =>
    cases settles
    exact known rfl widens
  | closeTag typeName =>
    cases settles
    exact known rfl widens

/-- Lines are settled in the same way if more is defined before them, as long as they do not define
it again. -/
theorem settleAll_of_widens {said settled : List Line} (widens : Widens definitions larger)
    (free : ∀ name ∈ said.filterMap Line.defined?, larger.contains name = false)
    (settles : settleAll definitions said = .ok (settled, last)) :
    ∃ final, settleAll larger said = .ok (settled, final) := by
  induction said generalizing definitions larger settled with
  | nil =>
    cases settles
    exact ⟨larger, rfl⟩
  | cons line rest ih =>
    simp only [mem_filterMap_cons, or_imp, forall_and] at free
    obtain ⟨first, next, later, settlesFirst, settlesRest, rfl⟩ := settleAll_cons_iff.mp settles
    obtain ⟨after, settlesThere, widensNext, known⟩ :=
      settle_of_widens widens free.1 settlesFirst
    have freeLater : ∀ name ∈ rest.filterMap Line.defined?, after.contains name = false := by
      intro name present
      have unused := (exists_settleAll_iff.mp ⟨_, settlesRest⟩).2.1 name present
      rw [← Bool.not_eq_true, contains_of_settle settlesFirst name, not_or] at unused
      rw [← Bool.not_eq_true, known name, not_or, Bool.not_eq_true]
      exact ⟨free.2 name present, unused.2⟩
    obtain ⟨final, settlesLater⟩ := ih widensNext freeLater settlesRest
    exact ⟨final, settleAll_cons_iff.mpr ⟨first, after, later, settlesThere, settlesLater, rfl⟩⟩

/-- What is defined after lines. -/
theorem contains_of_settleAll {said settled : List Line}
    (settles : settleAll definitions said = .ok (settled, last)) (name : String) :
    last.contains name = true ↔
      definitions.contains name = true ∨ name ∈ said.filterMap Line.defined? := by
  induction said generalizing definitions settled with
  | nil =>
    cases settles
    simp
  | cons line rest ih =>
    obtain ⟨first, next, later, settlesFirst, settlesRest, rfl⟩ := settleAll_cons_iff.mp settles
    rw [ih settlesRest, contains_of_settle settlesFirst, mem_filterMap_cons, or_assoc]

/-- Lines can only follow others if they define other names, and then they are settled as if nothing
stood before them. -/
theorem apart_of_settleAll_append {said more settled settledMore whole : List Line}
    {lastMore final : Definitions} (settles : settleAll .empty said = .ok (settled, last))
    (settlesMore : settleAll .empty more = .ok (settledMore, lastMore))
    (settlesAll : settleAll .empty (said ++ more) = .ok (whole, final)) :
    whole = settled ++ settledMore ∧
      (said.filterMap Line.defined?).Disjoint (more.filterMap Line.defined?) := by
  obtain ⟨_, _, _, settlesFirst, settlesLater, rfl⟩ := settleAll_append_iff.mp settlesAll
  obtain ⟨rfl, rfl⟩ := Prod.mk.inj (Except.ok.inj (settlesFirst.symm.trans settles))
  have free := (exists_settleAll_iff.mp ⟨_, settlesLater⟩).2.1
  obtain ⟨_, settlesThere⟩ := settleAll_of_widens (widens_empty _) free settlesMore
  obtain ⟨rfl, _⟩ := Prod.mk.inj (Except.ok.inj (settlesLater.symm.trans settlesThere))
  refine ⟨rfl, fun name before present => ?_⟩
  have known := (contains_of_settleAll settles name).mpr (.inr before)
  rw [free name present] at known
  cases known

/-! ### More sections -/

variable {number : Nat} {settled : List Line} {forest others later : List Section}

/-- Lines describe one forest only. -/
theorem contents_unique (contents : Contents number settled [] forest)
    (distinct : DistinctNames forest) (otherContents : Contents number settled [] others)
    (otherDistinct : DistinctNames others) : forest = others := by
  have places := Outline.placeAll_empty_of_contents contents distinct
  rw [Outline.placeAll_empty_of_contents otherContents otherDistinct] at places
  exact (List.reverse_injective (congrArg Outline.roots (Except.ok.inj places))).symm

theorem distinctNames_append_iff :
    DistinctNames (forest ++ later) ↔
      DistinctNames forest ∧ DistinctNames later ∧
        (forest.filterMap Section.name).Disjoint (later.filterMap Section.name) := by
  unfold DistinctNames
  rw [List.filterMap_append, List.nodup_append']

theorem filterMap_name_moved (count : Nat) :
    (later.map (Section.moved count)).filterMap Section.name = later.filterMap Section.name := by
  rw [List.filterMap_map]
  exact List.filterMap_congr fun block _ => Section.moved_name count block

/-- Lines can only follow others at the top level if they describe sections with other names. -/
theorem apart_of_placeAll_append {more : List Line} {placed : Outline}
    (contents : Contents number settled [] forest) (distinct : DistinctNames forest)
    (contentsMore : Contents (number + settled.length) more [] later)
    (distinctMore : DistinctNames later)
    (places : Outline.placeAll {} number (settled ++ more) = .ok placed)
    (closed : placed.enclosing = []) :
    (forest.filterMap Section.name).Disjoint (later.filterMap Section.name) := by
  obtain ⟨between, placesFirst, placesLater⟩ := Outline.placeAll_append_iff.mp places
  rw [Outline.placeAll_empty_of_contents contents distinct] at placesFirst
  obtain rfl := Except.ok.inj placesFirst
  have beside : DistinctNames (Outline.siblings { roots := forest.reverse }) :=
    distinctNames_reverse.mpr distinct
  obtain ⟨others, otherContents, stays, _⟩ :=
    Outline.exists_contents_of_placeAll rfl closed beside placesLater
  have whole : DistinctNames (forest ++ others) := by
    rw [← distinctNames_reverse, List.reverse_append]
    exact stays
  obtain ⟨_, otherDistinct, sections⟩ := distinctNames_append_iff.mp whole
  rw [contents_unique contentsMore distinctMore otherContents otherDistinct]
  exact sections

/-! ### Lists of lines -/

/-- The names that lines define, in lowercase. -/
def definedIn (raws : List (List Char)) : List String :=
  raws.filterMap fun raw => (Line.classify raw).toOption.bind Line.defined?

theorem definedIn_eq (raws : List (List Char)) :
    definedIn raws = (raws.map Line.classify).filterMap fun line =>
      line.toOption.bind Line.defined? := by
  rw [List.filterMap_map]
  rfl

theorem definedIn_of_classify {raws : List (List Char)} {said : List Line}
    (classified : raws.map Line.classify = said.map .ok) :
    definedIn raws = said.filterMap Line.defined? := by
  rw [definedIn_eq, classified, List.filterMap_map]
  rfl

variable {raws more : List (List Char)}

/-- Lines that define other names and describe sections with other names can follow. -/
theorem parseLines_append_of_apart (parsed : parseLines raws = .ok forest)
    (parsedMore : parseLines more = .ok later)
    (sections : (forest.filterMap Section.name).Disjoint (later.filterMap Section.name))
    (defined : (definedIn raws).Disjoint (definedIn more)) :
    parseLines (raws ++ more) = .ok (forest ++ later.map (Section.moved raws.length)) := by
  obtain ⟨said, settled, last, classified, settles, contents, distinct⟩ :=
    parseLines_eq_ok_iff_contents.mp parsed
  obtain ⟨saidMore, settledMore, _, classifiedMore, settlesMore, contentsMore, distinctMore⟩ :=
    parseLines_eq_ok_iff_contents.mp parsedMore
  rw [definedIn_of_classify classified, definedIn_of_classify classifiedMore] at defined
  have free : ∀ name ∈ saidMore.filterMap Line.defined?, last.contains name = false := by
    intro name present
    rw [← Bool.not_eq_true, contains_of_settleAll settles, not_or]
    exact ⟨Bool.false_ne_true, fun before => defined before present⟩
  obtain ⟨final, settlesThere⟩ :=
    settleAll_of_widens (widens_empty last) free settlesMore
  have count : settled.length = raws.length := by
    have same := congrArg List.length classified
    rw [List.length_map, List.length_map] at same
    rw [length_of_settleAll settles, same]
  have moved := contents_moved contentsMore raws.length
  rw [← count] at moved ⊢
  refine parseLines_eq_ok_iff_contents.mpr ⟨said ++ saidMore, settled ++ settledMore, final, ?_, ?_,
    contents.append moved, ?_⟩
  · rw [List.map_append, List.map_append, classified, classifiedMore]
  · exact settleAll_append_iff.mpr ⟨settled, last, settledMore, settles, settlesThere, rfl⟩
  · rw [distinctNames_append_iff, distinctNames_moved, filterMap_name_moved]
    exact ⟨distinct, distinctMore, sections⟩

/-- Lines can only follow if they define other names and describe sections with other names. -/
theorem apart_of_parseLines_append {whole : List Section} (parsed : parseLines raws = .ok forest)
    (parsedMore : parseLines more = .ok later) (parsedAll : parseLines (raws ++ more) = .ok whole) :
    (forest.filterMap Section.name).Disjoint (later.filterMap Section.name) ∧
      (definedIn raws).Disjoint (definedIn more) := by
  obtain ⟨said, settled, last, classified, settles, contents, distinct⟩ :=
    parseLines_eq_ok_iff_contents.mp parsed
  obtain ⟨saidMore, settledMore, _, classifiedMore, settlesMore, contentsMore, distinctMore⟩ :=
    parseLines_eq_ok_iff_contents.mp parsedMore
  obtain ⟨saidAll, _, _, placed, classifiedAll, settlesAll, places, closed, _⟩ :=
    parseLines_eq_ok_iff.mp parsedAll
  have okInjective : Function.Injective (Except.ok (ε := ParseProblem) (α := Line)) :=
    fun _ _ => Except.ok.inj
  have sameSaid : saidAll = said ++ saidMore := by
    refine List.map_injective_iff.mpr okInjective ?_
    rw [← classifiedAll, List.map_append, List.map_append, classified, classifiedMore]
  subst sameSaid
  obtain ⟨rfl, defined⟩ := apart_of_settleAll_append settles settlesMore settlesAll
  have sections := apart_of_placeAll_append contents distinct (contents_moved contentsMore _)
    (distinctNames_moved.mpr distinctMore) places closed
  rw [filterMap_name_moved] at sections
  rw [definedIn_of_classify classified, definedIn_of_classify classifiedMore]
  exact ⟨sections, defined⟩

/-! ### Texts -/

/-- The names that a text defines, in lowercase. -/
def definedNames (text : String) : List String := definedIn (lines text.toList)

theorem definedNames_eq_definedIn {text : String} (taken : TakenAs text.toList raws) :
    definedNames text = definedIn raws := by
  obtain ⟨extra, isExtra, same⟩ := taken.lines
  have classified := map_classify_of_sameLine same
  rw [definedIn_eq, ← classified, ← definedIn_eq, definedNames]
  rcases isExtra with rfl | rfl
  · rw [List.append_nil]
  · exact (List.filterMap_append.trans (List.append_nil _)).symm

/-- No name is used in both texts: for no top-level section, and for no definition. -/
structure NamesApart (first second : String) (forest later : List Section) : Prop where
  sections : (forest.filterMap Section.name).Disjoint (later.filterMap Section.name)
  definitions : (definedNames first).Disjoint (definedNames second)

/-- **One text after another.** A text that goes on with another one is read exactly if no top-level
section and no definition of the two have a name in common. Then it has the sections of both, those of
the other one moved down by as many lines as come before it; else it is refused for its syntax. -/
theorem parse_append {first second : String} (parsed : parse first = .ok forest)
    (parsedLater : parse second = .ok later) :
    ((∃ blocks, parse (first ++ "\n" ++ second) = .ok blocks) ↔
        NamesApart first second forest later) ∧
      (NamesApart first second forest later →
        parse (first ++ "\n" ++ second) =
          .ok (forest ++ later.map (Section.moved (lines (first ++ "\n").toList).length))) ∧
      (¬ NamesApart first second forest later →
        ∃ error, Catalog.readSections (first ++ "\n" ++ second) = .error error ∧
          error.isSyntactic = true) := by
  obtain ⟨raws, ended, noLineFeed⟩ := exists_takenAs first.toList
  obtain ⟨more, endedLater, noLineFeedLater⟩ := exists_takenAs second.toList
  have taken : TakenAs first.toList raws := ⟨.inr ended, noLineFeed⟩
  have takenLater : TakenAs second.toList more := ⟨.inr endedLater, noLineFeedLater⟩
  have takenWhole : TakenAs (first ++ "\n" ++ second).toList (raws ++ more) := by
    refine ⟨.inr ?_, List.forall_mem_append.mpr ⟨noLineFeed, noLineFeedLater⟩⟩
    rw [joined_append, ← ended, ← endedLater, String.toList_append, String.toList_append,
      List.append_assoc]
    rfl
  have count : (lines (first ++ "\n").toList).length = raws.length := by
    obtain ⟨own, split, same⟩ := exists_lines_joined noLineFeed []
    rw [List.append_nil, ← ended, lines.eq_1, List.append_nil] at split
    rw [String.toList_append, ← same.length_eq, ← split]
    rfl
  have apartIff : NamesApart first second forest later ↔
      (forest.filterMap Section.name).Disjoint (later.filterMap Section.name) ∧
        (definedIn raws).Disjoint (definedIn more) := by
    rw [← definedNames_eq_definedIn taken, ← definedNames_eq_definedIn takenLater]
    exact ⟨fun apart => ⟨apart.1, apart.2⟩, fun apart => ⟨apart.1, apart.2⟩⟩
  rw [parse_eq_parseLines taken] at parsed
  rw [parse_eq_parseLines takenLater] at parsedLater
  have follows : NamesApart first second forest later →
      parse (first ++ "\n" ++ second) =
        .ok (forest ++ later.map (Section.moved (lines (first ++ "\n").toList).length)) := by
    intro apart
    obtain ⟨sections, defined⟩ := apartIff.mp apart
    rw [parse_eq_parseLines takenWhole, count]
    exact parseLines_append_of_apart parsed parsedLater sections defined
  have onlyIf : (∃ blocks, parse (first ++ "\n" ++ second) = .ok blocks) →
      NamesApart first second forest later := by
    rintro ⟨blocks, parsedWhole⟩
    rw [parse_eq_parseLines takenWhole] at parsedWhole
    exact apartIff.mpr (apart_of_parseLines_append parsed parsedLater parsedWhole)
  exact ⟨⟨onlyIf, fun apart => ⟨_, follows apart⟩⟩, follows,
    fun shared => exists_refused_iff.mpr fun accepted => shared (onlyIf accepted)⟩

/-- Two texts with a definition and a named section each. -/
def mainText : String := "%define size 2\n<zodb main>\n</zodb>"

def otherText : String := "%define limit 5\n<zodb other>\ncache $limit\n</zodb>"

/-- One of them can follow the other, but not itself. -/
theorem parse_append_texts :
    parse (mainText ++ "\n" ++ otherText) =
        .ok [⟨"zodb", some "main", [], [], 2, 3⟩,
          ⟨"zodb", some "other", [⟨"cache", "5", 6⟩], [], 5, 7⟩] ∧
      ∃ error, Catalog.readSections (mainText ++ "\n" ++ mainText) = .error error ∧
        error.isSyntactic = true := by
  have first : parse mainText = .ok [⟨"zodb", some "main", [], [], 2, 3⟩] :=
    toOption_eq_some_iff.mp (by decide +kernel)
  have second : parse otherText = .ok [⟨"zodb", some "other", [⟨"cache", "5", 3⟩], [], 2, 4⟩] :=
    toOption_eq_some_iff.mp (by decide +kernel)
  have count : (lines (mainText ++ "\n").toList).length = 3 := by decide +kernel
  have names : definedNames mainText = ["size"] := by decide +kernel
  have otherNames : definedNames otherText = ["limit"] := by decide +kernel
  have apart : NamesApart mainText otherText [⟨"zodb", some "main", [], [], 2, 3⟩]
      [⟨"zodb", some "other", [⟨"cache", "5", 3⟩], [], 2, 4⟩] := by
    refine ⟨List.singleton_disjoint.mpr (by decide), ?_⟩
    rw [names, otherNames]
    exact List.singleton_disjoint.mpr (by decide)
  have joined := (parse_append first second).2.1 apart
  rw [count] at joined
  exact ⟨joined, (parse_append first first).2.2 fun apart =>
    apart.sections (List.mem_singleton_self "main") (List.mem_singleton_self "main")⟩

end StoreTopology
