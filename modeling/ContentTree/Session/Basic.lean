import ContentTree.Number.Binary64
import ContentTree.Provider.Walk
import ContentTree.Storage.Change
/-!
Sessions: a file system that changes, a clock that is moved, and providers over them. Listings and
walks can be opened and read item by item; they stay with the provider they were opened on, also
when another one has been opened since.
-/

set_option autoImplicit false
set_option relaxedAutoImplicit false

namespace ContentTree

open ContentTree.Storage

/-- A listing or a walk that is read item by item. -/
inductive Cursor where
  | listing (paths : List String)
  | walking (limit? : Option Int) (walk : Walk)

/-- An item of a cursor: a child, or a visit. -/
inductive Item where
  | child (resource : Resource)
  | visit (visit : Visit)

namespace Cursor

/-- The next item, if there is one, and the cursor afterwards. -/
def next (mapping : Mapping) : Cursor → Lookup (Except LookupError (Option Item) × Cursor)
  | listing paths => do
    match ← mapping.nextChild paths with
    | some (child, rest) => return (.ok (some (.child child)), .listing rest)
    | none => return (.ok none, .listing [])
  | walking limit? walk => do
    let (visit, walk) ← walk.step mapping limit?
    return (visit.map (·.map .visit), .walking limit? walk)

end Cursor

/-- A file system, a time, and what was opened over them. -/
structure Session where
  disk : Disk
  time : Rat
  writes : Nat
  providers : List Provider
  cursors : List (String × Nat × Cursor)

namespace Session

/-- The time at which every session starts. -/
def startTime : Rat := 1000

/-- The session with an empty file system and no provider. -/
def fresh : Session := ⟨.empty, startTime, 0, [], []⟩

/-- Moves the clock, which counts in binary64 numbers. -/
def tick (session : Session) (seconds : Rat) : Session :=
  let time := session.time + seconds
  { session with time := ((Number.Binary64.ofRat time).toRat?).getD time }

/-- Opens a provider, which is the current one from now on. -/
def openProvider (session : Session) (settings : Provider.Settings) :
    Except Filter.FilterError Session := do
  let provider ← Provider.openAt session.disk session.time settings
  return { session with providers := session.providers ++ [provider] }

/-- The index of the current provider. -/
def current (session : Session) : Nat := session.providers.length - 1

/-- The current provider. -/
def provider? (session : Session) : Option Provider := session.providers[session.current]?

/-- Changes the current provider. -/
def modifyProvider (session : Session) (change : Provider → Provider) : Session :=
  { session with providers := session.providers.modify session.current change }

/-- Runs a lookup of the provider with an index. -/
def runAt {α : Type} (session : Session) (index : Nat) (lookup : Mapping → Lookup α) :
    Option α × Session :=
  match session.providers[index]? with
  | none => (none, session)
  | some provider =>
    let (value, provider) := provider.run session.disk session.time (lookup provider.mapping)
    (some value, { session with providers := session.providers.set index provider })

/-- Runs a lookup of the current provider. -/
def run {α : Type} (session : Session) (lookup : Mapping → Lookup α) : Option α × Session :=
  session.runAt session.current lookup

/-- Keeps a cursor of the current provider under a name. -/
def keep (session : Session) (name : String) (cursor : Cursor) : Session :=
  { session with cursors := Table.put name (session.current, cursor) session.cursors }

/-- The next item of the cursor under a name. Without such a cursor there is none. -/
def next (session : Session) (name : String) : Except LookupError (Option Item) × Session :=
  match session.cursors.lookup name with
  | none => (.ok none, session)
  | some (index, cursor) =>
    match session.runAt index fun mapping => cursor.next mapping with
    | (some (item, cursor), session) =>
      (item, { session with cursors := Table.put name (index, cursor) session.cursors })
    | (none, session) => (.ok none, session)

/-- The time of change of a file written without one. -/
def nextStamp (session : Session) : Rat := startTime + session.writes + 1

/-- Writes a file. Folders have times of change from a clock of the file system. -/
def write (session : Session) (path : String) (bytes : List UInt8) (stamp? : Option Rat)
    (clock : Rat) : Except StorageError Session := do
  let disk ← session.disk.write path bytes (stamp?.getD session.nextStamp) clock
  return { session with disk, writes := session.writes + 1 }

/-- Makes another change of the file system. -/
def change (session : Session) (change : Disk → Except StorageError Disk) :
    Except StorageError Session := do
  return { session with disk := ← change session.disk }

end Session

end ContentTree
