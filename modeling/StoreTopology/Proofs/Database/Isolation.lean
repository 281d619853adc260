/-
**Connections see what was committed, and their own pending writes.**

* `Interleaving`: the connections of one database write, commit and abort in any order, while nobody
  else uses its storage;
* `Move.lastSet`, `Move.lastCommitted`: what a client wrote and what was made visible last, told
  from the moves alone;
* `Interleaving.isolated`: what is pending and what is stored are told from the moves at every
  moment;
* `Interleaving.heldBy_of_openFile`: so are the contents of the data file, if there is one;
* `Interleaving.readsCommitted`: so are the answers of all connections, and commits happen as a
  whole or not at all.
-/

import StoreTopology.Proofs.Database.Committing

namespace StoreTopology

open StoreTopology.Action

/-! ### Moves -/

/-- What a client of a database did, clients being numbered in the order of their connections. -/
inductive Move where
  | connected
  | set (client : Nat) (key : String) (record : Record)
  | committed (client : Nat)
  | refused (client : Nat) (error : StoreError)
  | aborted (client : Nat)

/-! What follows is told from the moves alone, the last of which comes first. -/

namespace Move

/-- What a client set last under a key, since the last time that it committed or aborted. -/
def lastSet (client : Nat) (key : String) : List Move → Option Record
  | [] => none
  | set other changed record :: past =>
    if other = client ∧ changed = key then some record else lastSet client key past
  | committed other :: past => if other = client then none else lastSet client key past
  | aborted other :: past => if other = client then none else lastSet client key past
  | connected :: past => lastSet client key past
  | refused _ _ :: past => lastSet client key past

/-- What was made visible last under a key, by the commit of any client. -/
def lastCommitted (key : String) : List Move → Option Record
  | [] => none
  | committed client :: past => (lastSet client key past).or (lastCommitted key past)
  | set _ _ _ :: past => lastCommitted key past
  | aborted _ :: past => lastCommitted key past
  | connected :: past => lastCommitted key past
  | refused _ _ :: past => lastCommitted key past

/-- All that a client set since the last time that it committed or aborted. -/
def pending (client : Nat) : List Move → Records
  | [] => .empty
  | set other key record :: past =>
    if other = client then (pending client past).insert key record else pending client past
  | committed other :: past => if other = client then .empty else pending client past
  | aborted other :: past => if other = client then .empty else pending client past
  | connected :: past => pending client past
  | refused _ _ :: past => pending client past

/-- The first records, with what was committed laid over them in turn. -/
def stored (first : Records) : List Move → Records
  | [] => first
  | committed client :: past => (stored first past).overlay (pending client past)
  | set _ _ _ :: past => stored first past
  | aborted _ :: past => stored first past
  | connected :: past => stored first past
  | refused _ _ :: past => stored first past

theorem get?_pending (client : Nat) (key : String) (past : List Move) :
    (pending client past).get? key = lastSet client key past := by
  induction past with
  | nil => rfl
  | cons move past ih =>
    cases move with
    | connected => exact ih
    | refused _ _ => exact ih
    | set other changed record =>
      rw [pending, lastSet]
      by_cases same : other = client
      · rw [if_pos same, SortedMap.get?_insert, ih]
        simp [same]
      · rw [if_neg same, if_neg fun both => same both.1, ih]
    | committed other =>
      rw [pending, lastSet]
      split
      · rfl
      · exact ih
    | aborted other =>
      rw [pending, lastSet]
      split
      · rfl
      · exact ih

theorem get?_stored (first : Records) (key : String) (past : List Move) :
    (stored first past).get? key = (lastCommitted key past).or (first.get? key) := by
  induction past with
  | nil => rfl
  | cons move past ih =>
    cases move with
    | committed client =>
      rw [stored, lastCommitted, SortedMap.get?_overlay, get?_pending, ih, Option.or_assoc]
    | connected | set _ _ _ | refused _ _ | aborted _ => exact ih

/-- What was made visible was set by a client whose commit succeeded after it. -/
theorem exists_committed {key : String} {record : Record} {past : List Move}
    (visible : lastCommitted key past = some record) :
    ∃ client later earlier, past = later ++ committed client :: earlier ∧
      lastSet client key earlier = some record := by
  induction past with
  | nil => cases visible
  | cons move past ih =>
    have before : lastCommitted key past = some record → ∃ client later earlier,
        move :: past = later ++ committed client :: earlier ∧
          lastSet client key earlier = some record := by
      intro visible
      obtain ⟨client, later, earlier, rfl, isSet⟩ := ih visible
      exact ⟨client, move :: later, earlier, rfl, isSet⟩
    cases move with
    | committed client =>
      rw [lastCommitted, Option.or_eq_some_iff] at visible
      rcases visible with isSet | ⟨_, visible⟩
      · exact ⟨client, [], past, rfl, isSet⟩
      · exact before visible
    | connected | set _ _ _ | refused _ _ | aborted _ => exact before visible

end Move

/-! ### Interleavings -/

/-- The clients of one database connect, write, commit and abort in any order, from an initial site
on. In between anything may happen that leaves its storage alone. A commit that fails returns no
connection, so that its client goes on with the one that it has; a client that is dropped makes no
more moves. On record are the moves, the last one first, and the connections of all clients. -/
inductive Interleaving (database : Database) (initial : Site) :
    List Move → List Connection → Site → Prop
  | start : Interleaving database initial [] [] initial
  | connected {past : List Move} {clients : List Connection} {site after : Site}
      {connection : Connection} (before : Interleaving database initial past clients site)
      (connects : database.connect site = (.ok connection, after)) :
      Interleaving database initial (.connected :: past) (clients ++ [connection]) after
  | set {past : List Move} {clients : List Connection} {site : Site} {client : Nat}
      {connection : Connection} (before : Interleaving database initial past clients site)
      (isClient : clients[client]? = some connection) (key : String) (record : Record) :
      Interleaving database initial (.set client key record :: past)
        (clients.set client (connection.set key record)) site
  | committed {past : List Move} {clients : List Connection} {site after : Site} {client : Nat}
      {connection flushed : Connection} (before : Interleaving database initial past clients site)
      (isClient : clients[client]? = some connection)
      (commits : connection.commit site = (.ok flushed, after)) :
      Interleaving database initial (.committed client :: past) (clients.set client flushed) after
  | refused {past : List Move} {clients : List Connection} {site after : Site} {client : Nat}
      {connection : Connection} {error : StoreError}
      (before : Interleaving database initial past clients site)
      (isClient : clients[client]? = some connection)
      (fails : connection.commit site = (.error error, after)) :
      Interleaving database initial (.refused client error :: past) clients after
  | aborted {past : List Move} {clients : List Connection} {site : Site} {client : Nat}
      {connection : Connection} (before : Interleaving database initial past clients site)
      (isClient : clients[client]? = some connection) :
      Interleaving database initial (.aborted client :: past)
        (clients.set client connection.abort) site
  | elsewhere {past : List Move} {clients : List Connection} {site after : Site}
      (before : Interleaving database initial past clients site)
      (untouched : database.storage.Untouched site after) :
      Interleaving database initial past clients after

/-- What is stored and what is pending are told from the moves. -/
structure Isolated (database : Database) (initial : Site) (past : List Move)
    (clients : List Connection) (site : Site) : Prop where
  isOpen : database.storage.IsOpen site
  view : database.storage.view site = Move.stored (database.storage.view initial) past
  onDisk : database.storage.OnDisk initial → database.storage.OnDisk site
  pending : ∀ {client : Nat} {connection : Connection}, clients[client]? = some connection →
    connection = ⟨database, Move.pending client past⟩
  /-- Who has not connected yet has nothing pending. -/
  others : ∀ client, clients.length ≤ client → Move.pending client past = .empty

namespace Isolated

variable {database : Database} {initial site after : Site} {past : List Move} {move : Move}
  {clients : List Connection} {client : Nat} {connection : Connection}

theorem of_untouched (isolated : Isolated database initial past clients site)
    (untouched : database.storage.Untouched site after) :
    Isolated database initial past clients after where
  isOpen := isolated.isOpen.congr untouched.records?
  view := (Storage.view_congr untouched.records?).trans isolated.view
  onDisk := fun first => (isolated.onDisk first).of_untouched untouched
  pending := isolated.pending
  others := isolated.others

/-- A new client has nothing pending. -/
theorem connected (isolated : Isolated database initial past clients site) :
    Isolated database initial (.connected :: past) (clients ++ [⟨database, .empty⟩]) site where
  isOpen := isolated.isOpen
  view := isolated.view
  onDisk := isolated.onDisk
  pending := by
    intro client connection isClient
    rw [List.getElem?_append] at isClient
    split at isClient
    · exact isolated.pending isClient
    · next beyond =>
      have isNew := List.mem_singleton.mp (List.mem_of_getElem? isClient)
      rw [isNew, Move.pending, isolated.others client (Nat.not_lt.mp beyond)]
  others := by
    intro client beyond
    rw [List.length_append] at beyond
    exact isolated.others client (Nat.le_trans (Nat.le_add_right _ _) beyond)

/-- A move of one client, which leaves what the others have pending. -/
theorem moved (isolated : Isolated database initial past clients site) (move : Move)
    (isClient : clients[client]? = some connection) (isOpen : database.storage.IsOpen after)
    (view : database.storage.view after =
      Move.stored (database.storage.view initial) (move :: past))
    (onDisk : database.storage.OnDisk site → database.storage.OnDisk after)
    (others : ∀ other, other ≠ client →
      Move.pending other (move :: past) = Move.pending other past) :
    Isolated database initial (move :: past)
      (clients.set client ⟨database, Move.pending client (move :: past)⟩) after where
  isOpen := isOpen
  view := view
  onDisk := fun first => onDisk (isolated.onDisk first)
  pending := by
    intro other found isOther
    rw [List.getElem?_set] at isOther
    -- The client that moved has what the move leaves pending, every other one what it had.
    by_cases same : client = other
    · subst same
      obtain ⟨inside, _⟩ := List.getElem?_eq_some_iff.mp isClient
      rw [if_pos rfl, if_pos inside] at isOther
      exact (Option.some.inj isOther).symm
    · rw [if_neg same] at isOther
      rw [others other (Ne.symm same)]
      exact isolated.pending isOther
  others := by
    intro other beyond
    rw [List.length_set] at beyond
    obtain ⟨inside, _⟩ := List.getElem?_eq_some_iff.mp isClient
    rw [others other fun same => Nat.not_lt.mpr beyond (same ▸ inside)]
    exact isolated.others other beyond

theorem set (isolated : Isolated database initial past clients site)
    (isClient : clients[client]? = some connection) (key : String) (record : Record) :
    Isolated database initial (.set client key record :: past)
      (clients.set client (connection.set key record)) site := by
  have moved := isolated.moved (.set client key record) isClient isolated.isOpen isolated.view id
    fun other differ => by rw [Move.pending, if_neg (Ne.symm differ)]
  rw [Move.pending, if_pos rfl] at moved
  rw [isolated.pending isClient]
  exact moved

theorem aborted (isolated : Isolated database initial past clients site)
    (isClient : clients[client]? = some connection) :
    Isolated database initial (.aborted client :: past) (clients.set client connection.abort)
      site := by
  have moved := isolated.moved (.aborted client) isClient isolated.isOpen isolated.view id
    fun other differ => by rw [Move.pending, if_neg (Ne.symm differ)]
  rw [Move.pending, if_pos rfl] at moved
  rw [isolated.pending isClient]
  exact moved

/-- A commit that succeeds lays what its client has pending over what is stored. -/
theorem committed (isolated : Isolated database initial past clients site)
    (isClient : clients[client]? = some connection) {flushed : Connection}
    (commits : connection.commit site = (.ok flushed, after)) :
    Isolated database initial (.committed client :: past) (clients.set client flushed) after := by
  cases isolated.pending isClient
  obtain ⟨rfl, isOpen, laid, onDisk⟩ := Connection.commit_eq_ok isolated.isOpen commits
  have view : database.storage.view after =
      Move.stored (database.storage.view initial) (.committed client :: past) := by
    rw [Move.stored, ← isolated.view]
    exact laid
  have moved := isolated.moved (.committed client) isClient isOpen view onDisk
    fun other differ => by rw [Move.pending, if_neg (Ne.symm differ)]
  rw [Move.pending, if_pos rfl] at moved
  exact moved

/-- A commit that fails changes neither what is stored nor what is pending. -/
theorem refused (isolated : Isolated database initial past clients site)
    (isClient : clients[client]? = some connection) {error : StoreError}
    (fails : connection.commit site = (.error error, after)) :
    Isolated database initial (.refused client error :: past) clients after := by
  cases isolated.pending isClient
  obtain ⟨_, sameRecords, onDisk⟩ := Connection.commit_eq_error isolated.isOpen fails
  exact ⟨isolated.isOpen.congr fun cell _ => sameRecords cell,
    (Storage.view_congr fun cell _ => sameRecords cell).trans isolated.view,
    fun first => onDisk (isolated.onDisk first), isolated.pending, isolated.others⟩

end Isolated

/-- **What is stored and what is pending are told from the moves at every moment.** -/
theorem Interleaving.isolated {database : Database} {initial site : Site} {past : List Move}
    {clients : List Connection} (isOpen : database.storage.IsOpen initial)
    (run : Interleaving database initial past clients site) :
    Isolated database initial past clients site := by
  induction run with
  | start => exact ⟨isOpen, rfl, id, fun isClient => (nomatch isClient), fun _ _ => rfl⟩
  | connected _ connects ih =>
    obtain ⟨rfl, cells, files⟩ := Database.connect_eq_ok connects
    exact ih.connected.of_untouched (.of_same cells files)
  | set _ isClient key record ih => exact ih.set isClient key record
  | committed _ isClient commits ih => exact ih.committed isClient commits
  | refused _ isClient fails ih => exact ih.refused isClient fails
  | aborted _ isClient ih => exact ih.aborted isClient
  | elsewhere _ untouched ih => exact ih.of_untouched untouched

/-- The data file of a storage that was opened holds what was committed, at every moment. -/
theorem Interleaving.heldBy_of_openFile {database : Database} {settings : FileSettings}
    {before opened initial site : Site} {past : List Move} {clients : List Connection}
    (opens : Storage.openFile settings before = (.ok database.storage, opened))
    (untouched : database.storage.Untouched opened initial)
    (run : Interleaving database initial past clients site) :
    ∃ contents, site.files.readFile settings.path = .ok contents ∧
      HeldBy settings.path contents (Move.stored (database.storage.view initial) past) := by
  have isolated := run.isolated ((Storage.isOpen_openFile opens).congr untouched.records?)
  have onDisk := isolated.onDisk ((Storage.onDisk_openFile opens).of_untouched untouched)
  have hasFile : database.storage.dataFile? = some settings.path := by
    obtain ⟨cell, _, isFile, _⟩ := Storage.openFile_eq_ok opens
    rw [isFile]
    rfl
  rw [← isolated.view]
  exact onDisk _ hasFile

/-! ### What connections see -/

/-- Connections see what was committed and their own pending writes, and a commit happens as a whole
or not at all. -/
structure ReadsCommitted (database : Database) (initial : Site) (past : List Move)
    (clients : List Connection) (site : Site) : Prop where
  /-- The first records are stored, with what was committed laid over them in turn. -/
  stored : database.storage.view site = Move.stored (database.storage.view initial) past
  /-- If the data file held what was stored at first, it does so now. -/
  onDisk : database.storage.OnDisk initial → database.storage.OnDisk site
  /-- A client sees what it set last, else what was committed last, else what was stored first. -/
  get? : ∀ {client : Nat} {connection : Connection}, clients[client]? = some connection →
    ∀ key, connection.get? site key = .ok ((Move.lastSet client key past).or
      ((Move.lastCommitted key past).or ((database.storage.view initial).get? key)))
  /-- What a client sees was set by itself, was set and then committed by any client, or was stored
  at first. -/
  source : ∀ {client : Nat} {connection : Connection} {key : String} {record : Record},
    clients[client]? = some connection → connection.get? site key = .ok (some record) →
      Move.lastSet client key past = some record ∨
        (∃ writer later earlier, past = later ++ .committed writer :: earlier ∧
          Move.lastSet writer key earlier = some record) ∨
        (database.storage.view initial).get? key = some record
  root : ∀ {client : Nat} {connection : Connection}, clients[client]? = some connection →
    ∃ records, connection.root site = .ok records ∧
      ∀ key, connection.get? site key = .ok (records.get? key)
  /-- A commit that succeeds makes all that its client set visible, changes nothing else, and
  leaves nothing pending. -/
  commits : ∀ {client : Nat} {connection flushed : Connection} {after : Site},
    clients[client]? = some connection → connection.commit site = (.ok flushed, after) →
      flushed.hasPending = false ∧ ∀ key, database.storage.load? after key =
        .ok ((Move.lastSet client key past).or ((database.storage.view site).get? key))
  /-- A commit that fails because the storage refuses it changes no answer of any client. -/
  fails : ∀ {client : Nat} {connection : Connection} {error : StoreError} {after : Site},
    clients[client]? = some connection → connection.commit site = (.error error, after) →
      database.storage.Refuses site connection.pending error ∧
        database.storage.view after = database.storage.view site ∧
        ∀ other ∈ clients, ∀ key, other.get? after key = other.get? site key

/-- **The connections of a database see what was committed last, and their own pending writes**,
however their moves are interleaved. -/
theorem Interleaving.readsCommitted {database : Database} {initial site : Site} {past : List Move}
    {clients : List Connection} (isOpen : database.storage.IsOpen initial)
    (run : Interleaving database initial past clients site) :
    ReadsCommitted database initial past clients site := by
  have isolated := run.isolated isOpen
  have answers : ∀ {client : Nat} {connection : Connection},
      clients[client]? = some connection → ∀ key, connection.get? site key =
        .ok ((Move.lastSet client key past).or ((database.storage.view site).get? key)) := by
    intro client connection isClient key
    cases isolated.pending isClient
    rw [Connection.get?_eq isolated.isOpen, Move.get?_pending]
  refine ⟨isolated.view, isolated.onDisk, fun isClient key => ?_, fun isClient seen => ?_,
    fun isClient => ?_, fun isClient commits => ?_, fun isClient fails => ?_⟩
  · rw [answers isClient, isolated.view, Move.get?_stored]
  · rw [answers isClient, isolated.view, Move.get?_stored] at seen
    rcases Option.or_eq_some_iff.mp (Except.ok.inj seen) with isSet | ⟨_, seen⟩
    · exact .inl isSet
    · rcases Option.or_eq_some_iff.mp seen with visible | ⟨_, first⟩
      · exact .inr (.inl (Move.exists_committed visible))
      · exact .inr (.inr first)
  · have answer := answers isClient
    cases isolated.pending isClient
    refine ⟨_, Connection.root_eq isolated.isOpen, fun key => ?_⟩
    rw [answer key, SortedMap.get?_overlay, Move.get?_pending]
  · cases isolated.pending isClient
    obtain ⟨rfl, isOpenAfter, laid, _⟩ := Connection.commit_eq_ok isolated.isOpen commits
    refine ⟨rfl, fun key => ?_⟩
    rw [isOpenAfter.load?_eq]
    show Except.ok ((database.storage.view _).get? key) = _
    rw [laid, SortedMap.get?_overlay, Move.get?_pending]
  · have after := isolated.refused isClient fails
    cases isolated.pending isClient
    obtain ⟨refuses, _, _⟩ := Connection.commit_eq_error isolated.isOpen fails
    refine ⟨refuses, after.view.trans isolated.view.symm, fun other present key => ?_⟩
    obtain ⟨index, isOther⟩ := List.mem_iff_getElem?.mp present
    cases isolated.pending isOther
    rw [Connection.get?_eq after.isOpen, Connection.get?_eq isolated.isOpen]
    show Except.ok (_ : Option Record) = .ok _
    rw [after.view, isolated.view]
    rfl

/-- A demo storage over a new data file. -/
def layeredStorage : Storage := .demo "layer" (.file { path := "data" } ⟨0⟩) ⟨1⟩

/-- A site with a database over such a storage. -/
def layeredSite : Site :=
  (Database.create layeredStorage {} ⟨0⟩
    (Storage.newDemo (some "layer") (.file { path := "data" } ⟨0⟩) FileRun.newFileSite
      : Except StoreError Storage × Site).2 : Except StoreError Database × Site).2

def layeredDatabase : Database := ⟨⟨0⟩, layeredStorage, {}, ⟨0⟩⟩

/-- Of two clients the second does not see what the first set until it is committed. -/
theorem Interleaving.readsCommitted_layered :
    ∃ first second written shown,
      Interleaving layeredDatabase layeredSite
        [.set 0 "list" (.ofJson .null), .connected, .connected] [first, second] written ∧
      second.get? written "list" = .ok none ∧
      Interleaving layeredDatabase layeredSite
        [.committed 0, .set 0 "list" (.ofJson .null), .connected, .connected]
        [first.abort, second] shown ∧
      second.get? shown "list" = .ok (some (.ofJson .null)) := by
  have opens : Storage.openFile { path := "data" } {} =
    (.ok (.file { path := "data" } ⟨0⟩), FileRun.newFileSite) := rfl
  have layers : (Storage.newDemo (some "layer") (.file { path := "data" } ⟨0⟩) :
      Action StoreError Storage) FileRun.newFileSite = (.ok layeredStorage, _) := rfl
  have isOpen : layeredDatabase.storage.IsOpen layeredSite :=
    (Storage.isOpen_newDemo (Storage.isOpen_openFile opens) layers).1.congr fun _ _ => rfl
  have both : Interleaving layeredDatabase layeredSite [.connected, .connected]
      [⟨layeredDatabase, .empty⟩, ⟨layeredDatabase, .empty⟩] _ :=
    .connected (.connected .start rfl) rfl
  have set : Interleaving layeredDatabase layeredSite
      [.set 0 "list" (.ofJson .null), .connected, .connected] [_, ⟨layeredDatabase, .empty⟩] _ :=
    .set both rfl "list" (.ofJson .null)
  have committed : Interleaving layeredDatabase layeredSite
      [.committed 0, .set 0 "list" (.ofJson .null), .connected, .connected]
      [_, ⟨layeredDatabase, .empty⟩] _ :=
    .committed set rfl rfl
  have second : ∀ {connection : Connection},
      [connection, ⟨layeredDatabase, .empty⟩][1]? = some ⟨layeredDatabase, .empty⟩ := rfl
  exact ⟨_, _, _, _, set, (readsCommitted isOpen set).get? second "list", committed,
    (readsCommitted isOpen committed).get? second "list"⟩

end StoreTopology
