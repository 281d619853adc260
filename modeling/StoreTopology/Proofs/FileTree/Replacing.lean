/-
**Files at the ends of paths.**

* `LeadsTo`: a path leads to an entry of a directory, which may hold a file;
* `readFile_eq_ok_iff`: what is read is the file at the entry that a path leads to;
* `LeadsTo.beside`: a temporary file is in the same directory, under another name;
* `replaceFile_eq_ok_iff`, `replaceFile_eq_error_iff`: the steps of a replacement;
* `readFile_of_replaceFile`: a file that was replaced has the new contents;
* `readFile_of_replaceFile_error`: a file that could not be replaced has its old contents.
-/

import StoreTopology.Proofs.FileTree.Walking
import StoreTopology.Storage.File

namespace StoreTopology

/-! ### The temporary path -/

namespace Path

/-- What follows a text without a slash belongs to its last part. -/
theorem splitSlashes_append {tail : List Char} (noSlash : '/' ∉ tail) (text : List Char) :
    ∃ parts last, splitSlashes text = parts ++ [last] ∧
      splitSlashes (text ++ tail) = parts ++ [last ++ tail] ∧
      (last = [] → text ≠ [] → text.getLast? = some '/') := by
  induction text with
  | nil =>
    refine ⟨[], [], rfl, ?_, fun _ notEmpty => absurd rfl notEmpty⟩
    induction tail with
    | nil => rfl
    | cons c rest ih =>
      have notHere : c ≠ '/' := fun same => noSlash (same ▸ List.mem_cons_self)
      have step := ih fun later => noSlash (List.mem_cons_of_mem c later)
      rw [List.nil_append] at step ⊢
      rw [splitSlashes, if_neg notHere, step]
      rfl
  | cons c rest ih =>
    obtain ⟨parts, last, split, extended, ends⟩ := ih
    rw [List.cons_append]
    by_cases here : c = '/'
    · refine ⟨[] :: parts, last, ?_, ?_, fun empty _ => ?_⟩
      · rw [splitSlashes, if_pos here, split]
        rfl
      · rw [splitSlashes, if_pos here, extended]
        rfl
      · cases rest with
        | nil => rw [here]; rfl
        | cons next others => exact ends empty (List.cons_ne_nil _ _)
    · cases parts with
      | nil =>
        refine ⟨[], c :: last, ?_, ?_, fun empty => absurd empty (List.cons_ne_nil _ _)⟩
        · rw [splitSlashes, if_neg here, split]
          rfl
        · rw [splitSlashes, if_neg here, extended]
          rfl
      | cons part others =>
        refine ⟨(c :: part) :: others, last, ?_, ?_, fun empty _ => ?_⟩
        · rw [splitSlashes, if_neg here, split]
          rfl
        · rw [splitSlashes, if_neg here, extended]
          rfl
        · cases rest with
          | nil => simp [splitSlashes] at split
          | cons next _ => exact ends empty (List.cons_ne_nil _ _)

theorem read_eq_ok {text : String} {path : Path} (read : Path.read text = .ok path) :
    text.toList ≠ [] ∧ path = ⟨(splitSlashes text.toList).filterMap stepOf,
      text.toList.getLast? = some '/'⟩ := by
  unfold Path.read at read
  split at read
  · cases read
  · split at read
    · cases read
    · next notEmpty =>
      split at read
      · cases read
      · refine ⟨fun empty => notEmpty ?_, (Except.ok.inj read).symm⟩
        rw [String.toList_eq_nil_iff.mp empty]
        rfl

theorem stepOf_of_long {part : List Char} (long : 2 < part.length) :
    stepOf part = some (.down (.ofList part)) := by
  unfold stepOf
  split
  · simp at long
  · simp at long
  · simp at long
  · rfl

theorem stepOf_ne_none {part : List Char} (present : part ≠ []) : stepOf part ≠ none := by
  unfold stepOf
  split
  · exact absurd rfl present
  · exact Option.some_ne_none _
  · exact Option.some_ne_none _
  · exact Option.some_ne_none _

theorem ofList_of_stepOf {part : List Char} {name : String}
    (step : stepOf part = some (.down name)) : part ≠ [] ∧ name = .ofList part := by
  unfold stepOf at step
  split at step
  · cases step
  · cases step
  · cases step
  · next present _ _ =>
    cases step
    exact ⟨present, rfl⟩

/-- The path of the temporary file ends in another name than the path beside it, if that one ends
in a name. -/
theorem read_temporaryPath {text name : String} {path beside : Path}
    (read : Path.read text = .ok path) (noSlash : path.slash = false)
    (last : path.steps.getLast? = some (.down name))
    (readBeside : Path.read (temporaryPath text) = .ok beside) :
    beside.steps.dropLast = path.steps.dropLast ∧
      beside.steps.getLast? = some (.down (name ++ ".tmp")) := by
  obtain ⟨notEmpty, rfl⟩ := read_eq_ok read
  obtain ⟨_, rfl⟩ := read_eq_ok readBeside
  have noSlashAdded : '/' ∉ ".tmp".toList := by decide
  obtain ⟨parts, part, split, extended, ends⟩ := splitSlashes_append noSlashAdded text.toList
  have present : part ≠ [] := fun empty => by
    rw [ends empty notEmpty] at noSlash
    simp at noSlash
  have appended : (temporaryPath text).toList = text.toList ++ ".tmp".toList :=
    String.toList_append
  rw [split, List.filterMap_append] at last ⊢
  rw [appended, extended, List.filterMap_append]
  cases step : stepOf part with
  | none => exact absurd step (stepOf_ne_none present)
  | some taken =>
    have ending : List.filterMap stepOf [part] = [taken] := by
      rw [List.filterMap_cons, step]
      rfl
    rw [ending] at last ⊢
    simp only [List.getLast?_concat, Option.some.injEq] at last
    subst last
    obtain ⟨_, rfl⟩ := ofList_of_stepOf step
    have long : 2 < (part ++ ".tmp".toList).length := by
      rw [List.length_append]
      exact Nat.lt_add_left _ (by decide)
    have endingBeside : List.filterMap stepOf [part ++ ".tmp".toList] =
        [.down (String.ofList part ++ ".tmp")] := by
      rw [List.filterMap_cons, stepOf_of_long long, String.ofList_append]
      rfl
    rw [endingBeside]
    exact ⟨by rw [List.dropLast_concat, List.dropLast_concat], List.getLast?_concat⟩

end Path

namespace FileTree

variable {tree first second : FileTree} {text : String} {parent : Location} {name : String}
  {contents : ByteArray}

/-! ### Entries that paths lead to -/

/-- A path leads to an entry of a directory, where a file is or could be. -/
def LeadsTo (tree : FileTree) (text : String) (parent : Location) (name : String) : Prop :=
  ∃ path, Path.read text = .ok path ∧ tree.locate path = .ok (.entry parent name false) ∧
    name.utf8ByteSize ≤ nameLimit

theorem locate_entry_iff {path : Path} {slash : Bool} :
    tree.locate path = .ok (.entry parent name slash) ↔
      tree.walk [] path.steps.dropLast = .ok parent ∧
        path.steps.getLast? = some (.down name) ∧ tree.allows parent .search = true ∧
        path.slash = slash := by
  unfold locate
  rw [bind_eq_ok]
  constructor
  · rintro ⟨reached, walked, went⟩
    split at went
    · cases went
    · next step last =>
      obtain ⟨_, allowed, taken⟩ := bind_eq_ok.mp went
      rw [require_eq_ok_iff] at allowed
      cases step with
      | stay => cases taken
      | up => cases taken
      | down _ =>
        cases taken
        exact ⟨walked, last, allowed, rfl⟩
  · rintro ⟨walked, last, allowed, rfl⟩
    refine ⟨parent, walked, ?_⟩
    rw [last]
    exact bind_eq_ok.mpr ⟨(), require_eq_ok_iff.mpr allowed, rfl⟩

theorem locate_directory {path : Path} {location : Location}
    (located : tree.locate path = .ok (.directory location)) : IsReached tree location := by
  unfold locate at located
  obtain ⟨reached, walked, went⟩ := bind_eq_ok.mp located
  have passed : IsReached tree reached := IsReached.top.walk walked
  split at went
  · cases went
    exact passed
  · next step last =>
    obtain ⟨_, _, taken⟩ := bind_eq_ok.mp went
    cases step with
    | stay =>
      cases taken
      exact passed
    | up =>
      cases taken
      exact passed.dropLast
    | down _ => cases taken

namespace LeadsTo

theorem notTop : parent ++ [name] ≠ [] :=
  List.append_ne_nil_of_right_ne_nil _ (List.cons_ne_nil _ _)

theorem unique {otherParent : Location} {otherName : String}
    (leads : tree.LeadsTo text parent name) (again : tree.LeadsTo text otherParent otherName) :
    parent = otherParent ∧ name = otherName := by
  obtain ⟨path, read, located, _⟩ := leads
  obtain ⟨_, readAgain, locatedAgain, _⟩ := again
  rw [read] at readAgain
  cases readAgain
  rw [located] at locatedAgain
  cases locatedAgain
  exact ⟨rfl, rfl⟩

theorem of_sameDirectories (same : SameDirectories first second)
    (leads : first.LeadsTo text parent name) : second.LeadsTo text parent name := by
  obtain ⟨path, read, located, short⟩ := leads
  obtain ⟨walked, last, allowed, slash⟩ := locate_entry_iff.mp located
  rw [same.allows] at allowed
  exact ⟨path, read, locate_entry_iff.mpr ⟨same.walk walked, last, allowed, slash⟩, short⟩

/-- A temporary file is in the directory of the file that it is for, under another name. -/
theorem beside {besideParent : Location} {besideName : String}
    (leads : tree.LeadsTo text parent name)
    (leadsBeside : tree.LeadsTo (temporaryPath text) besideParent besideName) :
    besideParent = parent ∧ besideName = name ++ ".tmp" := by
  obtain ⟨path, read, located, _⟩ := leads
  obtain ⟨pathBeside, readBeside, locatedBeside, _⟩ := leadsBeside
  obtain ⟨walked, last, _, noSlash⟩ := locate_entry_iff.mp located
  obtain ⟨walkedBeside, lastBeside, _, _⟩ := locate_entry_iff.mp locatedBeside
  obtain ⟨sameSteps, otherName⟩ := Path.read_temporaryPath read noSlash last readBeside
  rw [sameSteps, walked] at walkedBeside
  rw [otherName] at lastBeside
  cases walkedBeside
  cases lastBeside
  exact ⟨rfl, rfl⟩

/-- The entry of a temporary file is not that of the file that it is for. -/
theorem beside_ne {besideParent : Location} {besideName : String}
    (leads : tree.LeadsTo text parent name)
    (leadsBeside : tree.LeadsTo (temporaryPath text) besideParent besideName) :
    besideParent ++ [besideName] ≠ parent ++ [name] := by
  obtain ⟨rfl, rfl⟩ := leads.beside leadsBeside
  intro equal
  have sizes := congrArg String.length (List.cons.inj (List.append_cancel_left equal)).1
  rw [String.length_append] at sizes
  exact absurd (Nat.add_eq_left.mp sizes) (by decide)

end LeadsTo

/-! ### Reading -/

/-- A path leads to a file if it leads to the entry of one. -/
theorem resolve_file_iff {path : Path} {location : Location} :
    tree.resolve path = .ok (location, .file contents) ↔
      ∃ parent name, tree.locate path = .ok (.entry parent name false) ∧
        name.utf8ByteSize ≤ nameLimit ∧
        tree.find (parent ++ [name]) = some (.file contents) ∧ location = parent ++ [name] := by
  unfold resolve
  rw [bind_eq_ok]
  constructor
  · rintro ⟨target, located, resolved⟩
    cases target with
    | directory place =>
      obtain ⟨mode, here⟩ := locate_directory located place.length
      rw [List.take_length] at here
      dsimp only at resolved
      rw [here] at resolved
      cases resolved
    | entry parent name slash =>
      obtain ⟨found, looked, went⟩ := bind_eq_ok.mp resolved
      obtain ⟨short, here⟩ := findEntry_eq_ok_iff.mp looked
      cases found with
      | none => cases went
      | some node =>
        cases node with
        | directory mode => cases went
        | file held =>
          cases slash with
          | true => cases went
          | false =>
            cases went
            exact ⟨parent, name, located, short, here, rfl⟩
  · rintro ⟨parent, name, located, short, here, rfl⟩
    refine ⟨_, located, bind_eq_ok.mpr ⟨_, findEntry_eq_ok_iff.mpr ⟨short, here⟩, rfl⟩⟩

/-- What is read is the file at the entry that a path leads to. -/
theorem readFile_eq_ok_iff :
    tree.readFile text = .ok contents ↔
      ∃ parent name, tree.LeadsTo text parent name ∧
        tree.find (parent ++ [name]) = some (.file contents) := by
  unfold readFile status
  constructor
  · intro succeeded
    obtain ⟨node, known, went⟩ := bind_eq_ok.mp succeeded
    obtain ⟨path, read, resolved⟩ := bind_eq_ok.mp known
    obtain ⟨⟨location, found⟩, there, same⟩ := bind_eq_ok.mp resolved
    cases same
    cases node with
    | directory mode => cases went
    | file held =>
      cases went
      obtain ⟨parent, name, located, short, here, _⟩ := resolve_file_iff.mp there
      exact ⟨parent, name, ⟨path, read, located, short⟩, here⟩
  · rintro ⟨parent, name, ⟨path, read, located, short⟩, here⟩
    have resolved := resolve_file_iff.mpr ⟨parent, name, located, short, here, rfl⟩
    exact bind_eq_ok.mpr ⟨_, bind_eq_ok.mpr ⟨path, read, bind_eq_ok.mpr ⟨_, resolved, rfl⟩⟩, rfl⟩

/-- A file that can be read is there. -/
theorem pathExists_of_readFile (there : tree.readFile text = .ok contents) :
    tree.pathExists text = true := by
  obtain ⟨node, known, _⟩ := bind_eq_ok.mp there
  unfold pathExists
  rw [known]
  rfl

/-! ### Writing and renaming -/

/-- A file that was written is at the entry that its path leads to, where no directory was. -/
theorem writeFile_eq_ok {written : FileTree}
    (succeeded : tree.writeFile text contents = .ok written) :
    ∃ parent name, tree.LeadsTo text parent name ∧
      (∀ mode, tree.find (parent ++ [name]) ≠ some (.directory mode)) ∧
      written = tree.put (parent ++ [name]) (.file contents) := by
  unfold writeFile at succeeded
  obtain ⟨path, read, went⟩ := bind_eq_ok.mp succeeded
  obtain ⟨target, located, aimed⟩ := bind_eq_ok.mp went
  cases target with
  | directory place => cases aimed
  | entry parent name slash =>
    cases slash with
    | true => cases aimed
    | false =>
      obtain ⟨found, looked, put⟩ := bind_eq_ok.mp aimed
      obtain ⟨short, here⟩ := findEntry_eq_ok_iff.mp looked
      have leads : tree.LeadsTo text parent name := ⟨path, read, located, short⟩
      refine ⟨parent, name, leads, fun mode directory => ?_, ?_⟩
      · rw [here] at directory
        subst directory
        cases put
      · cases found with
        | none =>
          obtain ⟨_, _, same⟩ := bind_eq_ok.mp put
          exact (Except.ok.inj same).symm
        | some node =>
          cases node with
          | directory mode => cases put
          | file held => exact (Except.ok.inj put).symm

/-- A file that was renamed is at the entry that its new path leads to, where no directory was. -/
theorem renameFile_eq_ok {source : String} {renamed : FileTree}
    (succeeded : tree.renameFile source text = .ok renamed) :
    ∃ from₀ name₀ parent name contents, tree.LeadsTo source from₀ name₀ ∧
      tree.LeadsTo text parent name ∧
      tree.find (from₀ ++ [name₀]) = some (.file contents) ∧
      (∀ mode, tree.find (parent ++ [name]) ≠ some (.directory mode)) ∧
      renamed = (tree.erase (from₀ ++ [name₀])).put (parent ++ [name]) (.file contents) := by
  unfold renameFile at succeeded
  obtain ⟨sourcePath, readSource, succeeded⟩ := bind_eq_ok.mp succeeded
  obtain ⟨targetPath, readTarget, succeeded⟩ := bind_eq_ok.mp succeeded
  obtain ⟨source, locatedSource, succeeded⟩ := bind_eq_ok.mp succeeded
  obtain ⟨target, locatedTarget, succeeded⟩ := bind_eq_ok.mp succeeded
  cases source with
  | directory place => cases succeeded
  | entry from₀ name₀ slash₀ =>
  cases target with
  | directory place => cases succeeded
  | entry parent name slash =>
  obtain ⟨found, looked, succeeded⟩ := bind_eq_ok.mp succeeded
  obtain ⟨shortSource, here⟩ := findEntry_eq_ok_iff.mp looked
  cases found with
  | none => cases succeeded
  | some node =>
  cases node with
  | directory mode => cases succeeded
  | file contents =>
  obtain ⟨replaced, lookedTarget, succeeded⟩ := bind_eq_ok.mp succeeded
  obtain ⟨shortTarget, there⟩ := findEntry_eq_ok_iff.mp lookedTarget
  cases slash₀ with
  | true => cases succeeded
  | false =>
  cases slash with
  | true => cases succeeded
  | false =>
  obtain ⟨_, _, succeeded⟩ := bind_eq_ok.mp succeeded
  obtain ⟨_, _, succeeded⟩ := bind_eq_ok.mp succeeded
  refine ⟨from₀, name₀, parent, name, contents, ⟨sourcePath, readSource, locatedSource,
    shortSource⟩, ⟨targetPath, readTarget, locatedTarget, shortTarget⟩, here,
    fun mode directory => ?_, ?_⟩
  · rw [there] at directory
    subst directory
    cases succeeded
  · split at succeeded
    · cases succeeded
    · exact (Except.ok.inj succeeded).symm

theorem SameDirectories.of_writeFile {written : FileTree}
    (succeeded : tree.writeFile text contents = .ok written) : SameDirectories tree written := by
  obtain ⟨parent, name, _, noDirectory, rfl⟩ := writeFile_eq_ok succeeded
  exact .put_file LeadsTo.notTop contents noDirectory

theorem SameDirectories.of_renameFile {source : String} {renamed : FileTree}
    (succeeded : tree.renameFile source text = .ok renamed) : SameDirectories tree renamed := by
  obtain ⟨from₀, name₀, parent, name, contents, _, _, here, noDirectory, rfl⟩ :=
    renameFile_eq_ok succeeded
  have removed : SameDirectories tree (tree.erase (from₀ ++ [name₀])) :=
    .erase_file LeadsTo.notTop fun mode directory => by
      rw [here] at directory
      cases directory
  refine removed.trans (.put_file LeadsTo.notTop contents fun mode directory => ?_)
  exact noDirectory mode ((removed _ mode).mpr directory)

/-! ### Replacing -/

/-- A replacement succeeds if both of its steps do. -/
theorem replaceFile_eq_ok_iff {after : FileTree} :
    tree.replaceFile text contents = (.ok (), after) ↔ ∃ written,
      tree.writeFile (temporaryPath text) contents = .ok written ∧
        written.renameFile (temporaryPath text) text = .ok after := by
  unfold replaceFile
  cases wrote : tree.writeFile (temporaryPath text) contents with
  | error problem => simp
  | ok written =>
    cases renamed : written.renameFile (temporaryPath text) text with
    | error problem => simp [renamed]
    | ok replaced => simp [renamed]

/-- A replacement fails at one of its two steps. -/
theorem replaceFile_eq_error_iff {after : FileTree} {problem : FileProblem} :
    tree.replaceFile text contents = (.error problem, after) ↔
      (tree.writeFile (temporaryPath text) contents = .error problem ∧ after = tree) ∨
        (tree.writeFile (temporaryPath text) contents = .ok after ∧
          after.renameFile (temporaryPath text) text = .error problem) := by
  unfold replaceFile
  cases wrote : tree.writeFile (temporaryPath text) contents with
  | error other => simp [eq_comm]
  | ok written =>
    dsimp only
    constructor
    · intro ran
      split at ran
      · next renamed =>
        cases ran
        exact .inr ⟨rfl, renamed⟩
      · cases ran
    · rintro (⟨⟨⟩, _⟩ | ⟨⟨⟩, failed⟩)
      rw [failed]

/-- Writing the temporary file leaves the file that it is for as it is. -/
theorem readFile_of_writeFile_beside {written : FileTree} {held : ByteArray}
    (succeeded : tree.writeFile (temporaryPath text) contents = .ok written)
    (before : tree.readFile text = .ok held) : written.readFile text = .ok held := by
  obtain ⟨parent, name, leads, here⟩ := readFile_eq_ok_iff.mp before
  have same : SameDirectories tree written := .of_writeFile succeeded
  obtain ⟨_, _, leadsBeside, _, rfl⟩ := writeFile_eq_ok succeeded
  refine readFile_eq_ok_iff.mpr ⟨_, name, leads.of_sameDirectories same, ?_⟩
  rw [find_put LeadsTo.notTop, if_neg (leads.beside_ne leadsBeside), here]

/-- **A file that was replaced has the new contents.** -/
theorem readFile_of_replaceFile {after : FileTree}
    (succeeded : tree.replaceFile text contents = (.ok (), after)) :
    after.readFile text = .ok contents := by
  obtain ⟨written, wrote, renamed⟩ := replaceFile_eq_ok_iff.mp succeeded
  have same : SameDirectories written after := .of_renameFile renamed
  obtain ⟨from₀, name₀, parent, name, moved, leadsBeside, leads, here, _, rfl⟩ :=
    renameFile_eq_ok renamed
  have sameWritten : SameDirectories tree written := .of_writeFile wrote
  obtain ⟨_, _, leadsWritten, _, rfl⟩ := writeFile_eq_ok wrote
  obtain ⟨rfl, rfl⟩ := leadsBeside.unique (leadsWritten.of_sameDirectories sameWritten)
  rw [find_put LeadsTo.notTop, if_pos rfl] at here
  cases here
  refine readFile_eq_ok_iff.mpr ⟨parent, name, leads.of_sameDirectories same, ?_⟩
  rw [find_put LeadsTo.notTop, if_pos rfl]

/-- **A file that could not be replaced has its old contents.** -/
theorem readFile_of_replaceFile_error {after : FileTree} {held : ByteArray} {problem : FileProblem}
    (failed : tree.replaceFile text contents = (.error problem, after))
    (before : tree.readFile text = .ok held) : after.readFile text = .ok held := by
  rcases replaceFile_eq_error_iff.mp failed with ⟨_, rfl⟩ | ⟨wrote, _⟩
  · exact before
  · exact readFile_of_writeFile_beside wrote before

end FileTree

end StoreTopology
