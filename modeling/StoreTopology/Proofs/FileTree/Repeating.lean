/-
**What was done to files and directories is found done.**

* `HoldsDirectory`: a directory was made at a path and given permission bits;
* `HoldsDirectory.again`, `HoldsDirectory.refused`: to make it again changes nothing, and succeeds if
  its path still leads somewhere;
* `HoldsDirectory.reached`: which it does if the permission bits let the directory be searched;
* `replaceFile_again`: to replace a file by what it was replaced with changes nothing.
-/

import StoreTopology.Proofs.FileTree.Sparing
import StoreTopology.Proofs.FileTree.Staying

namespace StoreTopology.FileTree

variable {tree first second : FileTree} {text : String} {path : Path}

/-! ### Changes that change nothing -/

/-- To put what is there changes nothing. -/
theorem put_of_find {location : Location} {node : FileNode} (notTop : location ≠ [])
    (found : tree.find location = some node) : tree.put location node = tree := by
  rw [find, if_neg notTop] at found
  have nodes : tree.nodes.insert location node = tree.nodes := by
    apply SortedMap.ext_get?
    intro key
    rw [SortedMap.get?_insert]
    by_cases same : location = key
    · rw [if_pos same, ← same, found]
    · rw [if_neg same]
  unfold put
  rw [nodes]

/-- To put something where nothing is, and to erase it, changes nothing. -/
theorem erase_put_of_find {location : Location} (notTop : location ≠ [])
    (free : tree.find location = none) (node : FileNode) :
    (tree.put location node).erase location = tree := by
  rw [find, if_neg notTop] at free
  have nodes : (tree.nodes.insert location node).erase location = tree.nodes := by
    apply SortedMap.ext_get?
    intro key
    rw [SortedMap.get?_erase, SortedMap.get?_insert]
    by_cases same : location = key
    · rw [if_pos same, ← same, free]
    · rw [if_neg same, if_neg same]
  unfold put erase
  dsimp only
  rw [nodes]

/-! ### Making a directory again -/

/-- A path led to a directory when it was made; then the directory was given permission bits, and
all other directories have stayed as they were. -/
structure HoldsDirectory (made tree : FileTree) (text : String) (path : Path) (mode : Nat) :
    Prop where
  read : Path.read text = .ok path
  resolved : ∃ held, made.resolve path = .ok (path.target, .directory held)
  found : tree.find path.target = some (.directory (mode &&& 0o7777))
  stay : DirectoriesStay made tree
  /-- If the permission bits grant it, directories can be searched as before. -/
  searched : Access.search.isGrantedBy mode = true → ¬ Withdraws made tree

theorem HoldsDirectory.of_same {made : FileTree} {mode : Nat}
    (holds : HoldsDirectory made first text path mode) (same : SameDirectories first second) :
    HoldsDirectory made second text path mode where
  read := holds.read
  resolved := holds.resolved
  found := (same _ _).mp holds.found
  stay := holds.stay.trans (.of_same same)
  searched := fun granted ⟨location, before, after⟩ =>
    holds.searched granted ⟨location, before, (same.allows _ _).trans after⟩

theorem pathExists_iff (read : Path.read text = .ok path) :
    tree.pathExists text = true ↔ ∃ location node, tree.resolve path = .ok (location, node) := by
  unfold pathExists status
  rw [read]
  show (tree.resolve path >>= _).isOk = true ↔ _
  cases tree.resolve path with
  | error problem => simp [Except.isOk, Except.toBool, bind, Except.bind]
  | ok found =>
    obtain ⟨location, node⟩ := found
    exact ⟨fun _ => ⟨location, node, rfl⟩, fun _ => rfl⟩

/-- A path that can be read asks for its directory and those that it leads through. -/
theorem makeDirectories_of_read (read : Path.read text = .ok path) (mode : Nat) :
    tree.makeDirectories text mode = tree.makeChain mode (path :: path.ancestors) := by
  obtain ⟨notEmpty, _⟩ := Path.read_eq_ok read
  have isNotEmpty : ¬ text.isEmpty = true := by
    rw [String.isEmpty_iff]
    rintro rfl
    exact notEmpty rfl
  unfold makeDirectories
  rw [if_neg isNotEmpty, read]

/-- A directory that is there is made already. -/
theorem makeChain_of_resolve {location : Location} {held : Nat}
    (resolved : tree.resolve path = .ok (location, .directory held)) (mode : Nat)
    (ancestors : List Path) : tree.makeChain mode (path :: ancestors) = (.ok (), tree) := by
  have leads : tree.leadsToDirectory path = true := by
    unfold leadsToDirectory
    rw [resolved]
  have present : tree.makeDirectory path mode = .error .alreadyExists := by
    unfold resolve at resolved
    obtain ⟨target, located, went⟩ := bind_eq_ok.mp resolved
    unfold makeDirectory
    rw [located]
    cases target with
    | directory place => rfl
    | entry parent name slash =>
      obtain ⟨found, looked, went⟩ := bind_eq_ok.mp went
      show (tree.findEntry parent name >>= _) = _
      rw [looked]
      cases found with
      | none => cases went
      | some node => rfl
  rw [makeChain, present]
  dsimp only
  rw [if_pos leads]

/-- A directory that cannot be reached cannot be made. -/
theorem makeChain_of_refused (refused : tree.locate path = .error .permissionDenied) (mode : Nat)
    (ancestors : List Path) :
    tree.makeChain mode (path :: ancestors) = (.error .permissionDenied, tree) := by
  have notMade : tree.makeDirectory path mode = .error .permissionDenied := by
    unfold makeDirectory
    rw [refused]
    rfl
  have notThere : tree.leadsToDirectory path = false := by
    unfold leadsToDirectory resolve
    rw [refused]
    rfl
  rw [makeChain, notMade]
  dsimp only
  rw [notThere]
  rfl

theorem directory_of_makeDirectory {mode : Nat} {made : FileTree}
    (succeeded : tree.makeDirectory path mode = .ok made) :
    ∃ held, made.find path.target = some (.directory held) := by
  unfold makeDirectory at succeeded
  obtain ⟨target, located, went⟩ := bind_eq_ok.mp succeeded
  cases target with
  | directory place => cases went
  | entry parent name slash =>
    obtain ⟨found, _, went⟩ := bind_eq_ok.mp went
    cases found with
    | some node => cases went
    | none =>
      obtain ⟨_, _, isMade⟩ := bind_eq_ok.mp went
      rw [target_of_entry located, ← Except.ok.inj isMade, find_put LeadsTo.notTop, if_pos rfl]
      exact ⟨_, rfl⟩

theorem directory_of_leadsToDirectory (leads : tree.leadsToDirectory path = true) :
    ∃ held, tree.find path.target = some (.directory held) := by
  unfold leadsToDirectory at leads
  split at leads
  · next location held resolved =>
    obtain ⟨rfl, found⟩ := target_of_resolve resolved
    exact ⟨held, found⟩
  · cases leads

/-- What was made at the end of a chain is a directory. -/
theorem directory_of_makeChain {mode : Nat} {ancestors : List Path} {made : FileTree}
    (succeeded : tree.makeChain mode (path :: ancestors) = (.ok (), made)) :
    ∃ held, made.find path.target = some (.directory held) := by
  rw [makeChain] at succeeded
  split at succeeded
  · next isMade =>
    cases succeeded
    exact directory_of_makeDirectory isMade
  · split at succeeded
    · cases succeeded
    · split at succeeded
      · next isMade =>
        cases succeeded
        exact directory_of_makeDirectory isMade
      · split at succeeded
        · next leads =>
          cases succeeded
          exact directory_of_leadsToDirectory leads
        · cases succeeded
  · split at succeeded
    · next leads =>
      cases succeeded
      exact directory_of_leadsToDirectory leads
    · cases succeeded

/-- The permission bits of the directory that a path resolves to are changed, and nothing else. -/
theorem find_of_setMode {location : Location} {held mode : Nat} {changed : FileTree}
    (read : Path.read text = .ok path)
    (resolved : tree.resolve path = .ok (location, .directory held))
    (succeeded : tree.setMode text mode = .ok changed) (other : Location) :
    changed.find other =
      if location = other then some (.directory (mode &&& 0o7777)) else tree.find other := by
  unfold setMode at succeeded
  rw [read] at succeeded
  change tree.resolve path >>= _ = _ at succeeded
  rw [resolved] at succeeded
  by_cases top : location = []
  · subst top
    cases succeeded
    by_cases same : [] = other
    · rw [if_pos same, find, if_pos same.symm]
    · rw [if_neg same, find, if_neg (Ne.symm same), find, if_neg (Ne.symm same)]
  · obtain ⟨name, rest, rfl⟩ := List.exists_cons_of_ne_nil top
    cases succeeded
    exact find_put top _ other

/-- Making a directory and giving it permission bits leaves it there. -/
theorem holdsDirectory {made changed : FileTree} {mode : Nat}
    (succeeded : tree.makeDirectories text mode = (.ok (), made))
    (given : made.setMode text mode = .ok changed) :
    ∃ path, HoldsDirectory made changed text path mode := by
  obtain ⟨path, read, went⟩ := bind_eq_ok.mp given
  obtain ⟨⟨location, node⟩, resolved, _⟩ := bind_eq_ok.mp went
  obtain ⟨rfl, found⟩ := target_of_resolve resolved
  rw [makeDirectories_of_read read] at succeeded
  obtain ⟨held, isDirectory⟩ := directory_of_makeChain succeeded
  cases found.symm.trans isDirectory
  have changes := find_of_setMode read resolved given
  refine ⟨path, read, ⟨held, resolved⟩, (changes _).trans (if_pos rfl), ?_, ?_⟩
  · intro location mode there
    rw [changes]
    by_cases here : path.target = location
    · exact ⟨_, if_pos here⟩
    · exact ⟨mode, (if_neg here).trans there⟩
  · rintro granted ⟨location, before, after⟩
    unfold allows modeAt at before after
    rw [changes] at after
    by_cases here : path.target = location
    · rw [if_pos here] at after
      unfold Access.isGrantedBy at granted after
      dsimp only at after
      rw [Nat.and_assoc] at after
      exact absurd granted (by simpa [Access.bit] using after)
    · rw [if_neg here, before] at after
      cases after

variable {made : FileTree} {mode : Nat}

/-- Permission bits that a directory has may be given to it. -/
theorem setMode_of_resolve (read : Path.read text = .ok path)
    (resolved : tree.resolve path = .ok (path.target, .directory (mode &&& 0o7777)))
    (found : tree.find path.target = some (.directory (mode &&& 0o7777))) :
    tree.setMode text mode = .ok tree := by
  unfold setMode
  rw [read]
  show (tree.resolve path >>= _) = _
  rw [resolved]
  by_cases top : path.target = []
  · rw [top, find, if_pos rfl] at found
    rw [top]
    show Except.ok { tree with topMode := mode &&& 0o7777 } = _
    rw [← FileNode.directory.inj (Option.some.inj found)]
  · have isPut : tree.put path.target (.directory (mode &&& 0o7777)) = tree :=
      put_of_find top found
    obtain ⟨name, rest, isCons⟩ := List.exists_cons_of_ne_nil top
    rw [isCons] at isPut ⊢
    exact congrArg Except.ok isPut

/-- A directory that was made can be made again if its path still leads somewhere, and this changes
nothing. -/
theorem HoldsDirectory.again (holds : HoldsDirectory made tree text path mode)
    (reached : tree.pathExists text = true) :
    tree.makeDirectories text mode = (.ok (), tree) ∧ tree.setMode text mode = .ok tree := by
  obtain ⟨location, node, resolved⟩ := (pathExists_iff holds.read).mp reached
  obtain ⟨rfl, there⟩ := target_of_resolve resolved
  cases holds.found.symm.trans there
  rw [makeDirectories_of_read holds.read]
  exact ⟨makeChain_of_resolve resolved mode path.ancestors,
    setMode_of_resolve holds.read resolved there⟩

/-- The path of a directory that was made still leads there, or is refused on the way. -/
theorem HoldsDirectory.resolve (holds : HoldsDirectory made tree text path mode) :
    tree.pathExists text = true ∨
      tree.locate path = .error .permissionDenied ∧ Withdraws made tree := by
  obtain ⟨held, resolved⟩ := holds.resolved
  exact (holds.stay.resolve resolved).imp_left fun ⟨changed, same⟩ =>
    (pathExists_iff holds.read).mpr ⟨_, _, same⟩

/-- If its path leads nowhere any more, the directory cannot be made again, and the attempt changes
nothing. -/
theorem HoldsDirectory.refused (holds : HoldsDirectory made tree text path mode)
    (unreached : tree.pathExists text = false) :
    tree.makeDirectories text mode = (.error .permissionDenied, tree) := by
  rcases holds.resolve with reached | ⟨refused, _⟩
  · rw [unreached] at reached
    cases reached
  · rw [makeDirectories_of_read holds.read]
    exact makeChain_of_refused refused mode path.ancestors

/-- If the permission bits let the directory be searched, its path still leads there. -/
theorem HoldsDirectory.reached (holds : HoldsDirectory made tree text path mode)
    (granted : Access.search.isGrantedBy mode = true) : tree.pathExists text = true :=
  holds.resolve.resolve_right fun refused => holds.searched granted refused.2

/-! ### Replacing a file again -/

/-- A file is written to an entry that it may be added to. -/
theorem writeFile_of_leadsTo {parent : Location} {name : String}
    (leads : tree.LeadsTo text parent name) (allowed : tree.allows parent .write = true)
    (noDirectory : ∀ mode, tree.find (parent ++ [name]) ≠ some (.directory mode))
    (contents : ByteArray) :
    tree.writeFile text contents = .ok (tree.put (parent ++ [name]) (.file contents)) := by
  obtain ⟨path, read, located, short⟩ := leads
  refine bind_eq_ok.mpr ⟨path, read, bind_eq_ok.mpr ⟨_, located, bind_eq_ok.mpr ⟨_,
    findEntry_eq_ok_iff.mpr ⟨short, rfl⟩, ?_⟩⟩⟩
  cases here : tree.find (parent ++ [name]) with
  | none => exact bind_eq_ok.mpr ⟨(), require_eq_ok_iff.mpr allowed, rfl⟩
  | some node =>
    cases node with
    | directory mode => exact absurd here (noDirectory mode)
    | file held => rfl

/-- A file is renamed to an entry beside it. -/
theorem renameFile_of_leadsTo {source : String} {parent : Location} {name₀ name : String}
    (leadsSource : tree.LeadsTo source parent name₀) (leads : tree.LeadsTo text parent name)
    {contents : ByteArray} (here : tree.find (parent ++ [name₀]) = some (.file contents))
    (allowed : tree.allows parent .write = true)
    (noDirectory : ∀ mode, tree.find (parent ++ [name]) ≠ some (.directory mode)) :
    tree.renameFile source text =
      .ok ((tree.erase (parent ++ [name₀])).put (parent ++ [name]) (.file contents)) := by
  obtain ⟨sourcePath, readSource, locatedSource, shortSource⟩ := leadsSource
  obtain ⟨path, read, located, short⟩ := leads
  have required : tree.require parent .write = .ok () := require_eq_ok_iff.mpr allowed
  unfold renameFile
  refine bind_eq_ok.mpr ⟨_, readSource, bind_eq_ok.mpr ⟨_, read, bind_eq_ok.mpr ⟨_,
    locatedSource, bind_eq_ok.mpr ⟨_, located, bind_eq_ok.mpr ⟨_,
      findEntry_eq_ok_iff.mpr ⟨shortSource, here⟩, bind_eq_ok.mpr ⟨_,
        findEntry_eq_ok_iff.mpr ⟨short, rfl⟩, bind_eq_ok.mpr ⟨(), required,
          bind_eq_ok.mpr ⟨(), required, ?_⟩⟩⟩⟩⟩⟩⟩⟩
  split
  · next mode there => exact absurd there (noDirectory mode)
  · rfl

/-- A file was renamed to an entry of a directory that may be written to. -/
theorem allows_of_renameFile {source : String} {renamed : FileTree} {parent : Location}
    {name : String} (succeeded : tree.renameFile source text = .ok renamed)
    (leads : tree.LeadsTo text parent name) : tree.allows parent .write = true := by
  obtain ⟨path, read, located, _⟩ := leads
  unfold renameFile at succeeded
  obtain ⟨sourcePath, _, succeeded⟩ := bind_eq_ok.mp succeeded
  rw [read] at succeeded
  change tree.locate sourcePath >>= _ = _ at succeeded
  obtain ⟨source, _, succeeded⟩ := bind_eq_ok.mp succeeded
  rw [located] at succeeded
  cases source with
  | directory place => cases succeeded
  | entry from₀ name₀ slash₀ =>
    change tree.findEntry from₀ name₀ >>= _ = _ at succeeded
    obtain ⟨found, _, succeeded⟩ := bind_eq_ok.mp succeeded
    cases found with
    | none => cases succeeded
    | some node =>
      cases node with
      | directory mode => cases succeeded
      | file contents =>
        obtain ⟨_, _, succeeded⟩ := bind_eq_ok.mp succeeded
        cases slash₀ with
        | true => cases succeeded
        | false =>
          obtain ⟨_, _, succeeded⟩ := bind_eq_ok.mp succeeded
          obtain ⟨_, allowed, _⟩ := bind_eq_ok.mp succeeded
          exact require_eq_ok_iff.mp allowed

/-- A replacement leaves nothing beside the file, which holds the contents then, in a directory that
may be written to. -/
theorem of_replaceFile {after : FileTree} {contents : ByteArray}
    (succeeded : tree.replaceFile text contents = (.ok (), after)) :
    ∃ parent name, after.LeadsTo text parent name ∧
      after.LeadsTo (temporaryPath text) parent (name ++ ".tmp") ∧
      after.allows parent .write = true ∧
      after.find (parent ++ [name ++ ".tmp"]) = none ∧
      after.find (parent ++ [name]) = some (.file contents) := by
  unfold replaceFile at succeeded
  split at succeeded
  · cases succeeded
  · next written wrote =>
    have sameWritten : SameDirectories tree written := .of_writeFile wrote
    obtain ⟨_, _, leadsWritten, _, isWritten⟩ := writeFile_eq_ok wrote
    split at succeeded
    · cases succeeded
    · next replaced renamed =>
      cases succeeded
      have sameAfter : SameDirectories written after := .of_renameFile renamed
      obtain ⟨_, _, parent, name, moved, leadsBeside, leads, here, _, rfl⟩ :=
        renameFile_eq_ok renamed
      obtain ⟨rfl, rfl⟩ := leadsBeside.unique (leadsWritten.of_sameDirectories sameWritten)
      have allowed := allows_of_renameFile renamed leads
      have differ := leads.beside_ne leadsBeside
      obtain ⟨rfl, rfl⟩ := leads.beside leadsBeside
      rw [isWritten, find_put LeadsTo.notTop, if_pos rfl] at here
      cases here
      refine ⟨_, name, leads.of_sameDirectories sameAfter,
        leadsBeside.of_sameDirectories sameAfter, sameAfter.allows _ _ ▸ allowed, ?_, ?_⟩
      · rw [find_put LeadsTo.notTop, if_neg differ.symm, find_erase LeadsTo.notTop, if_pos rfl]
      · rw [find_put LeadsTo.notTop, if_pos rfl]

/-- **To replace a file by what it was replaced with changes nothing.** -/
theorem replaceFile_again {after : FileTree} {contents : ByteArray}
    (succeeded : tree.replaceFile text contents = (.ok (), after)) :
    after.replaceFile text contents = (.ok (), after) := by
  obtain ⟨parent, name, leads, leadsBeside, allowed, free, here⟩ := of_replaceFile succeeded
  have differ := leads.beside_ne leadsBeside
  have wrote := writeFile_of_leadsTo leadsBeside allowed (by simp [free]) contents
  have same : SameDirectories after _ := .of_writeFile wrote
  have renamed := renameFile_of_leadsTo (leadsBeside.of_sameDirectories same)
    (leads.of_sameDirectories same) (by rw [find_put LeadsTo.notTop, if_pos rfl])
    (same.allows _ _ ▸ allowed)
    (by simp [find_put LeadsTo.notTop, here])
  unfold replaceFile
  rw [wrote]
  dsimp only
  rw [renamed, erase_put_of_find LeadsTo.notTop free, put_of_find LeadsTo.notTop here]

end StoreTopology.FileTree
