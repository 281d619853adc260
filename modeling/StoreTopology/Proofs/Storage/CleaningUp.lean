/-
**What cleaning up removes.**

* `FileRemoval`, `DirectoryRemoval`: what comes of a removal that tolerates that there is nothing;
* `Owns`: the locations of the files and directories that a file storage may have created;
* `RemovesOwn`: some of them were removed, and nothing else on the site changed;
* `CleanedUp`: they are gone;
* `cleanUp_removesOwn`: cleaning up removes nothing else, succeeds only if they are gone, and can be
  repeated.
-/

import StoreTopology.Proofs.FileTree.Removing
import StoreTopology.Proofs.Storage.ReadOnly

namespace StoreTopology.Storage

open FileTree

variable {settings : FileSettings} {storage : Storage} {files before between after : FileTree}
  {text : String} {outcome : Except FileProblem Unit} {location : Location} {site : Site}

/-! ### One removal -/

theorem ifPresent_of_notFound {f : FileTree → Except FileProblem Unit × FileTree}
    (missing : f files = (.error .notFound, after)) : ifPresent f files = (.ok (), after) := by
  unfold ifPresent
  rw [missing]

theorem ifPresent_of_other {f : FileTree → Except FileProblem Unit × FileTree}
    (ran : f files = (outcome, after)) (other : outcome ≠ .error .notFound) :
    ifPresent f files = (outcome, after) := by
  unfold ifPresent
  rw [ran]
  split
  · next isMissing =>
    cases isMissing
    exact absurd rfl other
  · rfl

/-- What comes of the removal of a file, which need not be there. -/
inductive FileRemoval (text : String) (files : FileTree) :
    Except FileProblem Unit × FileTree → Prop
  | removed {parent : Location} {name : String} {contents : ByteArray}
      (leads : files.LeadsTo text parent name)
      (here : files.find (parent ++ [name]) = some (.file contents)) :
      FileRemoval text files (.ok (), files.erase (parent ++ [name]))
  | missing (nowhere : files.status text = .error .notFound) :
      FileRemoval text files (.ok (), files)
  | failed (problem : FileProblem) : FileRemoval text files (.error problem, files)

theorem fileRemoval (text : String) (files : FileTree) :
    FileRemoval text files (ifPresent (removal text) files) := by
  cases removed : files.removeFile text with
  | ok after =>
    have ran : removal text files = (.ok (), after) := by rw [removal, removed]
    obtain ⟨parent, name, contents, leads, here, rfl⟩ := removeFile_eq_ok removed
    rw [ifPresent_of_other ran nofun]
    exact .removed leads here
  | error problem =>
    have ran : removal text files = (.error problem, files) := by rw [removal, removed]
    by_cases isMissing : problem = .notFound
    · subst isMissing
      rw [ifPresent_of_notFound ran]
      exact .missing (removeFile_eq_notFound_iff.mp removed)
    · rw [ifPresent_of_other ran fun same => isMissing (Except.error.inj same)]
      exact .failed problem

/-- What comes of the removal of a directory, which need not be there. -/
inductive DirectoryRemoval (text : String) (files : FileTree) :
    Except FileProblem Unit × FileTree → Prop
  | removed {path : Path} {place : Location} {after : FileTree} (read : Path.read text = .ok path)
      (leads : files.LeadsToDirectory text place) (removes : Removes (place <+: ·) files after)
      (nowhere : after.LeadsNowhere path)
      (areGone : ∀ location, IsBelow place location → after.find location = none)
      (isGone : after.find place = none ↔ ¬ path.Passes (IsBelow place)) :
      DirectoryRemoval text files (.ok (), after)
  | missing (nowhere : files.status text = .error .notFound) :
      DirectoryRemoval text files (.ok (), files)
  | failed (problem : FileProblem) : DirectoryRemoval text files (.error problem, files)
  | stopped {place : Location} {after : FileTree} (problem : FileProblem)
      (leads : files.LeadsToDirectory text place) (removes : Removes (IsBelow place) files after) :
      DirectoryRemoval text files (.error problem, after)

theorem directoryRemoval (text : String) (files : FileTree) :
    DirectoryRemoval text files (ifPresent (fun files => files.removeAll text) files) := by
  cases ran : files.removeAll text with
  | mk outcome after =>
    cases outcome with
    | ok _ =>
      obtain ⟨path, place, read, leads, removes, nowhere, areGone, isGone⟩ := removeAll_eq_ok ran
      have done : ifPresent (fun files => files.removeAll text) files = (.ok (), after) :=
        ifPresent_of_other ran nofun
      rw [done]
      exact .removed read leads removes nowhere areGone isGone
    | error problem =>
      rcases removeAll_eq_error ran with ⟨rfl, whenMissing⟩ | ⟨other, place, leads, removes⟩
      · by_cases isMissing : problem = .notFound
        · rw [ifPresent_of_notFound (isMissing ▸ ran)]
          exact .missing (whenMissing isMissing)
        · rw [ifPresent_of_other ran fun same => isMissing (Except.error.inj same)]
          exact .failed problem
      · rw [ifPresent_of_other ran fun same => other (Except.error.inj same)]
        exact .stopped problem leads removes

/-! ### What a file storage owns -/

/-- The paths of the two files of a file storage. -/
def ownFiles (settings : FileSettings) : List String :=
  [settings.path, temporaryPath settings.path]

/-- The locations at which the files and directories of a file storage are: those of its two files,
that of the blob directory, and all that is below the blob directory. -/
inductive Owns (settings : FileSettings) (files : FileTree) : Location → Prop
  | file {text : String} {parent : Location} {name : String} (isOwn : text ∈ ownFiles settings)
      (leads : files.LeadsTo text parent name) : Owns settings files (parent ++ [name])
  | blobs {text : String} {place location : Location} (given : settings.blobDirectory = some text)
      (leads : files.LeadsToDirectory text place) (within : place <+: location) :
      Owns settings files location

/-- What is owned after a removal was owned before. -/
theorem Owns.of_removes {owned : Location → Prop} (removes : Removes owned before after)
    (owns : Owns settings after location) : Owns settings before location := by
  cases owns with
  | file isOwn leads => exact .file isOwn (leads.of_removes removes)
  | blobs given leads within => exact .blobs given (leads.of_removes removes) within

theorem FileRemoval.removes {result : Except FileProblem Unit × FileTree}
    (isOwn : text ∈ ownFiles settings) (removal : FileRemoval text files result) :
    Removes (Owns settings files) files result.2 := by
  cases removal with
  | removed leads here => exact .erase (.file isOwn leads) LeadsTo.notTop
  | missing nowhere => exact .refl files
  | failed problem => exact .refl files

theorem DirectoryRemoval.removes {result : Except FileProblem Unit × FileTree}
    (given : settings.blobDirectory = some text) (removal : DirectoryRemoval text files result) :
    Removes (Owns settings files) files result.2 := by
  cases removal with
  | removed read leads removes => exact removes.mono fun _ => .blobs given leads
  | missing nowhere => exact .refl files
  | failed problem => exact .refl files
  | stopped problem leads removes => exact removes.mono fun _ below => .blobs given leads below.1

/-- Some of what a file storage owns was removed, and nothing else on the site changed. -/
def RemovesOwn (settings : FileSettings) (before after : Site) : Prop :=
  ∃ files, after = { before with files } ∧ Removes (Owns settings before.files) before.files files

instance : Std.Refl (RemovesOwn settings) := ⟨fun site => ⟨site.files, rfl, .refl _⟩⟩

instance : Trans (RemovesOwn settings) (RemovesOwn settings) (RemovesOwn settings) where
  trans := by
    rintro site _ _ ⟨between, rfl, first⟩ ⟨after, rfl, second⟩
    exact ⟨after, rfl, first.trans (second.mono fun _ => Owns.of_removes first)⟩

theorem within_removal {f : FileTree → Except FileProblem Unit × FileTree}
    (removes : ∀ files, Removes (Owns settings files) files (f files).2) :
    Action.Within (RemovesOwn settings) (Action.onFiles f) :=
  fun site => ⟨(f site.files).2, rfl, removes site.files⟩

/-- Cleaning up removes only what the storage owns, whether it succeeds or fails. -/
theorem within_cleanUp (lies : storage.LiesOver settings) :
    Action.Within (RemovesOwn settings) storage.cleanUp := by
  induction lies with
  | file cell =>
    have removesFile (text : String) (isOwn : text ∈ ownFiles settings) :
        Action.Within (RemovesOwn settings) (Action.onFiles (ifPresent (removal text))) :=
      within_removal fun files => (fileRemoval text files).removes isOwn
    refine .bind (removesFile _ (by simp [ownFiles])) fun _ =>
      .bind (removesFile _ (by simp [ownFiles])) fun _ => ?_
    split
    · next text given =>
      exact within_removal fun files => (directoryRemoval text files).removes given
    · exact .pure ()
  | demo name changes _ ih => exact ih

/-! ### What is left -/

/-- The files and directories of a file storage are gone. A blob directory stays, without entries,
if its path leads through what was below it; then the path leads nowhere all the same. -/
structure CleanedUp (settings : FileSettings) (before after : FileTree) : Prop where
  noFile : ∀ text ∈ ownFiles settings, after.status text = .error .notFound
  noEntry : ∀ text ∈ ownFiles settings, ∀ parent name, before.LeadsTo text parent name →
    after.find (parent ++ [name]) = none
  noDirectory : ∀ text, settings.blobDirectory = some text → after.status text = .error .notFound
  noBlobs : ∀ text, settings.blobDirectory = some text → ∀ place,
    before.LeadsToDirectory text place → ∀ location, IsBelow place location →
      after.find location = none
  directory : ∀ text, settings.blobDirectory = some text → ∀ path place,
    Path.read text = .ok path → before.LeadsToDirectory text place →
      (after.find place = none ↔ ¬ path.Passes (IsBelow place))

theorem FileRemoval.sameDirectories {result : Except FileProblem Unit × FileTree}
    (removal : FileRemoval text files result) : SameDirectories files result.2 := by
  cases removal with
  | removed leads here =>
    exact .erase_file LeadsTo.notTop fun mode isDirectory => by cases here.symm.trans isDirectory
  | missing nowhere => exact .refl files
  | failed problem => exact .refl files

/-- After a removal that succeeds the path leads nowhere, and nothing is at its entry. -/
theorem FileRemoval.gone (removal : FileRemoval text files (.ok (), after)) :
    after.status text = .error .notFound ∧
      ∀ parent name, files.LeadsTo text parent name → after.find (parent ++ [name]) = none := by
  have same := removal.sameDirectories
  cases removal with
  | removed leads here =>
    have stillLeads := leads.of_sameDirectories same
    refine ⟨stillLeads.status_eq_notFound_iff.mpr (find_erase_self LeadsTo.notTop),
      fun _ _ again => ?_⟩
    obtain ⟨rfl, rfl⟩ := leads.unique again
    exact find_erase_self LeadsTo.notTop
  | missing nowhere => exact ⟨nowhere, fun _ _ leads => leads.status_eq_notFound_iff.mp nowhere⟩

/-- After a removal that succeeds the path leads nowhere, and nothing is below the directory. -/
theorem DirectoryRemoval.gone (removal : DirectoryRemoval text files (.ok (), after)) :
    after.status text = .error .notFound ∧
      ∀ place, files.LeadsToDirectory text place →
        (∀ location, IsBelow place location → after.find location = none) ∧
        ∀ path, Path.read text = .ok path →
          (after.find place = none ↔ ¬ path.Passes (IsBelow place)) := by
  cases removal with
  | removed read leads _ nowhere areGone isGone =>
    refine ⟨status_eq_notFound_iff.mpr (.inr ⟨_, read, nowhere⟩), fun _ again => ?_⟩
    obtain rfl := leads.unique again
    refine ⟨areGone, fun _ readAgain => ?_⟩
    cases read.symm.trans readAgain
    exact isGone
  | missing nowhere => exact ⟨nowhere, fun _ leads => absurd nowhere leads.status_ne_notFound⟩

/-- Two files are removed from a tree, and then the blob directory, if there is one. -/
theorem cleanedUp_of_removals (first : FileRemoval settings.path files (.ok (), before))
    (second : FileRemoval (temporaryPath settings.path) before (.ok (), between))
    (third : ∀ text, settings.blobDirectory = some text →
      DirectoryRemoval text between (.ok (), after))
    (last : settings.blobDirectory = none → after = between) :
    CleanedUp settings files after := by
  have inTheEnd : Removes (Owns settings between) between after := by
    cases given : settings.blobDirectory with
    | none =>
      rw [last given]
      exact .refl between
    | some text => exact (third text given).removes given
  have next : Removes (Owns settings before) before between := second.removes (by simp [ownFiles])
  have afterFirst : Removes (Owns settings before) before after :=
    next.trans (inTheEnd.mono fun _ => Owns.of_removes next)
  have leadsBefore {text : String} {parent : Location} {name : String}
      (leads : files.LeadsTo text parent name) : before.LeadsTo text parent name :=
    leads.of_sameDirectories first.sameDirectories
  have same : SameDirectories files between := first.sameDirectories.trans second.sameDirectories
  obtain ⟨noData, noDataEntry⟩ := first.gone
  obtain ⟨noTemporary, noTemporaryEntry⟩ := second.gone
  constructor
  case noFile =>
    exact List.forall_mem_cons.mpr ⟨afterFirst.status_of_notFound noData,
      List.forall_mem_singleton.mpr (inTheEnd.status_of_notFound noTemporary)⟩
  case noEntry =>
    exact List.forall_mem_cons.mpr
      ⟨fun parent name leads => afterFirst.find_of_none (noDataEntry parent name leads),
        List.forall_mem_singleton.mpr fun parent name leads =>
          inTheEnd.find_of_none (noTemporaryEntry parent name (leadsBefore leads))⟩
  case noDirectory => exact fun text given => (third text given).gone.1
  case noBlobs =>
    exact fun text given place leads =>
      ((third text given).gone.2 place (leads.of_sameDirectories same)).1
  case directory =>
    exact fun text given path place read leads =>
      ((third text given).gone.2 place (leads.of_sameDirectories same)).2 path read

theorem cleanedUp_of_cleanUp {after : Site} (lies : storage.LiesOver settings)
    (cleaned : storage.cleanUp site = (.ok (), after)) :
    CleanedUp settings site.files after.files := by
  induction lies with
  | file cell =>
    obtain ⟨_, first, removedData, cleaned⟩ := Action.bind_eq_ok_iff.mp cleaned
    obtain ⟨_, second, removedTemporary, cleaned⟩ := Action.bind_eq_ok_iff.mp cleaned
    have data := fileRemoval settings.path site.files
    have temporary := fileRemoval (temporaryPath settings.path) first.files
    rw [Action.onFiles_eq_ok removedData] at data
    rw [Action.onFiles_eq_ok removedTemporary] at temporary
    refine cleanedUp_of_removals data temporary (fun text given => ?_) fun given => ?_
    · rw [given] at cleaned
      have blobs := directoryRemoval text second.files
      rwa [Action.onFiles_eq_ok cleaned] at blobs
    · rw [given] at cleaned
      cases cleaned
      rfl
  | demo name changes _ ih => exact ih cleaned

/-- Where nothing is left, cleaning up succeeds and changes nothing. -/
theorem cleanUp_of_cleanedUp (lies : storage.LiesOver settings)
    (gone : CleanedUp settings before site.files) : storage.cleanUp site = (.ok (), site) := by
  induction lies with
  | file cell =>
    have removesNothing (text : String) (isOwn : text ∈ ownFiles settings) :
        Action.onFiles (ifPresent (removal text)) site = (.ok (), site) :=
      Action.onFiles_of_ok (ifPresent_of_notFound
        (by rw [removal, removeFile_eq_notFound_iff.mpr (gone.noFile text isOwn)]))
    rw [cleanUp, Action.bind_of_ok (removesNothing _ (by simp [ownFiles])),
      Action.bind_of_ok (removesNothing _ (by simp [ownFiles]))]
    cases given : settings.blobDirectory with
    | none => rfl
    | some text =>
      exact Action.onFiles_of_ok
        (ifPresent_of_notFound (removeAll_of_status (gone.noDirectory text given)))
  | demo name changes _ ih => exact ih

/-- **Cleaning up removes exactly what a file storage owns, and can be repeated**, directly or under
any number of demo storages. Whether it succeeds or fails, only files and directories of the storage
are removed, and nothing else on the site changes. If it succeeds, they are gone: the paths of the
data file, the temporary file and the blob directory lead nowhere any more, nothing is left below
the blob directory, and cleaning up again succeeds and changes nothing. -/
theorem cleanUp_removesOwn (lies : storage.LiesOver settings) (site : Site) :
    ∃ outcome files, storage.cleanUp site = (outcome, { site with files }) ∧
      Removes (Owns settings site.files) site.files files ∧
      (outcome = .ok () → CleanedUp settings site.files files ∧
        storage.cleanUp { site with files } = (.ok (), { site with files })) := by
  obtain ⟨files, isAfter, removes⟩ := within_cleanUp lies site
  refine ⟨(storage.cleanUp site).1, files, Prod.ext rfl isAfter, removes, fun succeeded => ?_⟩
  have gone := cleanedUp_of_cleanUp lies (Prod.ext succeeded isAfter)
  exact ⟨gone, cleanUp_of_cleanedUp lies gone⟩

/-- A site with a blob directory that holds the data file, its temporary file and a blob. -/
def blobSite : Site :=
  { files := (((((FileTree.empty.put ["blobs"] (.directory 0o755)).put ["blobs", "data"]
      (.file "".toUTF8)).put ["blobs", "data.tmp"] (.file "".toUTF8)).put ["blobs", "parts"]
      (.directory 0o755)).put ["blobs", "parts", "1"] (.file "".toUTF8)).put ["notes"]
      (.file "".toUTF8) }

/-- A blob directory that holds the data file. -/
def nestedSettings : FileSettings := { path := "blobs/data", blobDirectory := some "blobs" }

/-- A blob directory that is named through one of its own directories. -/
def indirectSettings : FileSettings :=
  { path := "notes", blobDirectory := some "blobs/parts/.." }

/-- A blob directory is removed after the data file that is in it. One that is named through one of
its own directories is emptied and stays, and its path leads nowhere. -/
theorem cleanUp_removesOwn_nested :
    (∃ files, cleanUp (.demo "changes" (.file nestedSettings ⟨0⟩) ⟨1⟩) blobSite =
        (.ok (), { blobSite with files }) ∧
      files.status "blobs/data" = .error .notFound ∧ files.find ["blobs", "parts", "1"] = none ∧
      files.find ["blobs"] = none) ∧
    ∃ files, cleanUp (.file indirectSettings ⟨0⟩) blobSite = (.ok (), { blobSite with files }) ∧
      files.status "blobs/parts/.." = .error .notFound ∧
      files.find ["blobs", "parts", "1"] = none ∧
      files.find ["blobs"] = blobSite.files.find ["blobs"] := by
  constructor
  · have succeeds : (cleanUp (.demo "changes" (.file nestedSettings ⟨0⟩) ⟨1⟩) blobSite).1 =
        .ok () :=
      toOption_eq_some_iff.mp (by decide +kernel)
    have read : Path.read "blobs" = .ok ⟨[.down "blobs"], false⟩ :=
      toOption_eq_some_iff.mp (by decide +kernel)
    have lies : LiesOver nestedSettings (.demo "changes" (.file nestedSettings ⟨0⟩) ⟨1⟩) :=
      .demo _ _ (.file _)
    obtain ⟨outcome, files, ran, _, whenDone⟩ := cleanUp_removesOwn lies blobSite
    rw [ran] at succeeds
    obtain ⟨gone, _⟩ := whenDone succeeds
    have leads : blobSite.files.LeadsToDirectory "blobs" ["blobs"] := ⟨_, 0o755, read, rfl⟩
    have apart : ¬ Path.Passes ⟨[.down "blobs"], false⟩ (IsBelow ["blobs"]) := by
      rintro ⟨count, isPrefix, differs⟩
      cases count with
      | zero => exact absurd isPrefix (by decide)
      | succ count => exact differs (by rw [List.take_succ_cons, List.take_nil]; rfl)
    exact ⟨files, succeeds ▸ ran, gone.noFile _ List.mem_cons_self,
      gone.noBlobs _ rfl _ leads _ ⟨⟨["parts", "1"], rfl⟩, by decide⟩,
      (gone.directory _ rfl _ _ read leads).mpr apart⟩
  · have succeeds : (cleanUp (.file indirectSettings ⟨0⟩) blobSite).1 = .ok () :=
      toOption_eq_some_iff.mp (by decide +kernel)
    have read : Path.read "blobs/parts/.." =
        .ok ⟨[.down "blobs", .down "parts", .up], false⟩ :=
      toOption_eq_some_iff.mp (by decide +kernel)
    have lies : LiesOver indirectSettings (.file indirectSettings ⟨0⟩) := .file _
    obtain ⟨outcome, files, ran, removes, whenDone⟩ := cleanUp_removesOwn lies blobSite
    rw [ran] at succeeds
    obtain ⟨gone, _⟩ := whenDone succeeds
    have leads : blobSite.files.LeadsToDirectory "blobs/parts/.." ["blobs"] :=
      ⟨_, 0o755, read, rfl⟩
    have passes : Path.Passes ⟨[.down "blobs", .down "parts", .up], false⟩ (IsBelow ["blobs"]) :=
      ⟨2, ⟨["parts"], rfl⟩, by decide⟩
    have stays (isGone : files.find ["blobs"] = none) : False :=
      (gone.directory _ rfl _ _ read leads).mp isGone passes
    exact ⟨files, succeeds ▸ ran, gone.noDirectory _ rfl,
      gone.noBlobs _ rfl _ leads _ ⟨⟨["parts", "1"], rfl⟩, by decide⟩,
      (removes.find ["blobs"]).resolve_right fun ⟨_, isGone⟩ => stays isGone⟩

end StoreTopology.Storage
