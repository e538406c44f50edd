import ContentTree.Cache.Pair
import ContentTree.Json.Reader
import ContentTree.Json.Writer
import ContentTree.Settings.Basic
import ContentTree.Storage.Change
import ContentTree.Text.Utf8
/-!
The settings file. It lies in the home folder: in the folder for configuration files if there is
one, otherwise in a folder of its own. A file that is missing, is no JSON text or holds no proper
sections stands for the defaults. A path on the way that is too long to be looked up is an error.
Saving empties the file first and then writes the text piece by piece, so data that cannot be
written leave a file that stops before them, or an empty one if there is no room to go through them.
Reading has its limit too: settings in which too many containers stand in each other are an error.
-/

set_option autoImplicit false
set_option relaxedAutoImplicit false

namespace ContentTree.Settings

open ContentTree.Storage ContentTree.Text

/-- How many containers may stand in each other: in a text that is read, and in data that are
written. Writing takes no less of the room for each of them than reading does. -/
structure Room where
  read : Nat
  write : Nat
  write_le_read : write ≤ read

/-- The room that there usually is. -/
def usualRoom : Room := ⟨992, 496, by decide⟩

/-- Whether something stands at a path. A path that is too long to be looked up is an error. -/
def stands (path : String) : Lookup (Except StorageError Bool) := do
  if ← Lookup.isTooLong path then return .error ⟨.nameTooLong, [path]⟩
  else return .ok (← Lookup.kind path).isSome

/-- The folder of the settings file below a home folder. -/
def folder (home : String) : Lookup (Except StorageError String) := do
  let general := FilePath.below home ".config"
  return (← stands general).map fun isThere =>
    if isThere then FilePath.below general "vaultfs" else FilePath.below home ".vaultfs"

/-- The path of the settings file in its folder. -/
def fileIn (folder : String) : String := folder ++ "/config.json"

/-- The path of the settings file. -/
def file (home : String) : Lookup (Except StorageError String) := do
  return (← folder home).map fileIn

/-- Why the settings cannot be had: a path cannot be looked up, or the file that is there cannot be
read as settings. -/
inductive LoadError where
  | storage (error : StorageError)
  | undecodable (fault : Utf8.Fault)
  | integerTooLong (digits : Nat)
  | nestedTooDeep (container : String)
  | noObject (kind : String)
  deriving DecidableEq, Repr

/-- The hexadecimal form of a byte. -/
def byteText (byte : UInt8) : String := "0x" ++ String.ofList (Json.hexDigits 2 byte.toNat)

/-- The wording of undecodable bytes. -/
def undecodableText (fault : Utf8.Fault) : String :=
  let place :=
    if fault.count = 1 then
      "byte " ++ byteText fault.byte ++ " in position " ++ toString fault.position
    else
      "bytes in position " ++ toString fault.position ++ "-" ++
        toString (fault.position + fault.count - 1)
  "'utf-8' codec can't decode " ++ place ++ ": " ++ fault.reason.message

/-- The wording of an error. -/
def LoadError.message : LoadError → String
  | .storage error => error.message
  | .undecodable fault => undecodableText fault
  | .integerTooLong digits =>
    "Exceeds the limit (4300 digits) for integer string conversion: value has " ++
      toString digits ++ " digits; use sys.set_int_max_str_digits() to increase the limit"
  | .nestedTooDeep container =>
    "maximum recursion depth exceeded while decoding a JSON " ++ container ++
      " from a unicode string"
  | .noObject kind => (Fault.noObject kind).message

/-- The settings in the text of a file. -/
def ofText (room : Room) (text : String) : Except LoadError Settings :=
  match Json.read room.read text with
  | .error (.integerTooLong digits) => .error (.integerTooLong digits)
  | .error (.nestedTooDeep container) => .error (.nestedTooDeep container)
  | .error .malformed => .ok {}
  | .ok value =>
    match ofJson value with
    | .ok settings => .ok settings
    | .error (.noObject kind) => .error (.noObject kind)
    | .error _ => .ok {}

/-- The settings in the bytes of a file. -/
def ofBytes (room : Room) (bytes : List UInt8) : Except LoadError Settings :=
  match Utf8.decode bytes with
  | .ok text => ofText room text
  | .error fault => .error (.undecodable fault)

/-- The settings in the settings file, or the defaults. -/
def load (room : Room) (home : String) : Lookup (Except LoadError Settings) := do
  match ← file home with
  | .error error => return .error (.storage error)
  | .ok file =>
    match ← stands file with
    | .error error => return .error (.storage error)
    | .ok false => return .ok {}
    | .ok true =>
      match ← Lookup.bytes file with
      | .error _ => return .ok {}
      | .ok bytes => return ofBytes room bytes

/-- Why settings are not saved. -/
inductive SaveError where
  | storage (error : StorageError)
  | unwritable (fault : Json.WriteFault)
  | nestedTooDeep
  deriving DecidableEq, Repr

/-- The wording of an error. -/
def SaveError.message : SaveError → String
  | .storage error => error.message
  | .unwritable fault => fault.message
  | .nestedTooDeep => "maximum recursion depth exceeded"

/-- What is written of data, and why that is not all of it. Data in which more containers stand in
each other than there is room for are not written at all. -/
def written (room : Room) (data : Json.Datum) : String × Option SaveError :=
  if room.write < data.depth then ("", some .nestedTooDeep)
  else ((data.indented 2).1, (data.indented 2).2.map .unwritable)

/-- Saves data as the settings. The file system is changed also by a failure in the middle. -/
def saveData (room : Room) (data : Json.Datum) (home : String) (disk : Disk) (time : Rat) :
    Disk × Option SaveError :=
  match (folder home).on disk with
  | .error error => (disk, some (.storage error))
  | .ok folder =>
    match disk.makeFolder folder time with
    | .error error => (disk, some (.storage error))
    | .ok disk =>
      match disk.overwrite (fileIn folder) (Utf8.encode (written room data).1) time time with
      | .error error => (disk, some (.storage error))
      | .ok disk => (disk, (written room data).2)

/-- Saves settings. -/
def save (room : Room) (settings : Settings) (home : String) (disk : Disk) (time : Rat) :
    Disk × Option SaveError :=
  saveData room (.ofValue settings.toJson) home disk time

end ContentTree.Settings
