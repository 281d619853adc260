/-
**Data files.**

A file storage keeps its records in one file, as the members of a JSON object. Every write goes to a
temporary file beside the data file, which then takes its place, so that the data file never
holds a part of a write.

* `FileTree.replaceFile`: the two steps of a write;
* `readRecords`: the records of a data file;
* `openFile`: the storage of a data file, which is created if it is missing.
-/

import StoreTopology.Json.Reader
import StoreTopology.Site

namespace StoreTopology

/-- The path of the temporary file beside a data file. -/
def temporaryPath (path : String) : String := path ++ ".tmp"

/-- Write a temporary file and let it take the place of the data file. -/
def FileTree.replaceFile (tree : FileTree) (path : String) (contents : ByteArray) :
    Except FileProblem Unit × FileTree :=
  match tree.writeFile (temporaryPath path) contents with
  | .error problem => (.error problem, tree)
  | .ok written =>
    match written.renameFile (temporaryPath path) path with
    | .error problem => (.error problem, written)
    | .ok replaced => (.ok (), replaced)

/-- The bytes of a data file with the given records. -/
def Records.encode (records : Records) : ByteArray := records.toJson.pretty.toUTF8

/-- Space, tab, line feed, form feed and carriage return. -/
def isBlankFileByte (byte : UInt8) : Bool :=
  byte = 0x20 || byte = 0x09 || byte = 0x0a || byte = 0x0c || byte = 0x0d

/-- The records that the bytes of a data file hold: none if all bytes are blank, else the members of
an object. -/
def decodeRecords (storage : String) (contents : ByteArray) : Except StoreError Records :=
  let bytes := contents.data.toList
  if bytes.all isBlankFileByte then .ok .empty
  else match Json.read bytes with
    | .error error => .error (.unreadable error)
    | .ok (.object members) => .ok (.ofMembers members)
    | .ok other => .error (.corrupt storage (.notObject other))

/-- The records of a data file. -/
def readRecords (path : String) (files : FileTree) : Except StoreError Records :=
  match files.readFile path with
  | .error problem => .error (.files problem)
  | .ok contents => decodeRecords path contents

namespace Storage

/-- Read the records of a data file. -/
def loadFile (path : String) : Action StoreError Records := do
  .log .debug ("Reading " ++ path ++ "...")
  let site ← Action.site
  .ofExcept (readRecords path site.files)

/-- Start a data file without records. -/
def createFile (path : String) : Action StoreError Records := do
  .log .debug ("Creating " ++ path ++ "...")
  .onFiles fun files => files.replaceFile path (Records.encode .empty)
  return .empty

/-- The storage of a data file. A missing file is created, unless the storage is read-only; a file
that is there is read, unless the settings ask to start anew. -/
def openFile (settings : FileSettings) : Action StoreError Storage := do
  let site ← Action.site
  let present := site.files.pathExists settings.path
  let records ←
    if settings.readOnly then
      if present then loadFile settings.path else throw (.readOnly settings.path)
    else if settings.create || !present then createFile settings.path
    else loadFile settings.path
  let cell ← Action.create fun site => site.addCell records
  return .file settings cell

end Storage

end StoreTopology
