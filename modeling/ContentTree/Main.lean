import ContentTree.CommandLine.Run
/-!
The program. The questions of a run are answered from the real file system; what the run prints goes
to standard output, and a fault that it has no words for to standard error.
-/

set_option autoImplicit false
set_option relaxedAutoImplicit false

namespace ContentTree.CommandLine

open ContentTree.Storage

/-- What an access gives, unless it fails. -/
def attempt {α : Type} (access : IO α) : IO (Option α) := do
  match ← access.toBaseIO with
  | .ok value => return some value
  | .error _ => return none

/-- The cause behind a failed access. -/
def causeOf : IO.Error → Cause
  | .noFileOrDirectory .. => .missing
  | .inappropriateType .. => .notFolder
  | _ => .invalid

/-- What an access to a path gives, or why it fails. -/
def refusable {α : Type} (path : String) (access : IO α) : IO (Except StorageError α) := do
  match ← access.toBaseIO with
  | .ok value => return .ok value
  | .error fault => return .error ⟨causeOf fault, [path]⟩

/-- What the real file system says of a path. -/
def metadataOf (path : String) : IO IO.FS.Metadata := do (← IO.FS.realPath path).metadata

/-- What stands at a path of the real file system. -/
def realKind (path : String) : IO (Option Kind) := do
  match ← attempt (metadataOf path) with
  | none => return none
  | some found =>
    match found.type with
    | .file => return some .file
    | .dir => return some .folder
    | _ => return none

/-- The names in a folder of the real file system, in the order of their characters. -/
def realNames (folder : String) : IO (List String) := do
  let entries ← attempt do (← IO.FS.realPath folder).readDir
  return sortNames ((entries.getD #[]).toList.map (·.fileName))

/-- The bytes of a file of the real file system. -/
def realBytes (file : String) : IO (List UInt8) := do return (← IO.FS.readBinFile file).toList

/-- The answer of the real file system to a question. -/
def realAnswer : (question : Question) → IO question.Answer
  | .kind path => realKind path
  | .content file => do return (← attempt (realBytes file)).bind Descriptor.Element.ofBytes?
  | .names folder => realNames folder
  | .bytes file => refusable file (realBytes file)
  | .size file => refusable file do return (← metadataOf file).byteSize.toNat
  | .holder path => do
    let real? ← attempt (IO.FS.realPath path)
    return (real?.bind (·.parent)).map (·.toString)

/-- Runs the command that arguments name on the real file system, and gives its exit code. -/
def runReal (arguments : List String) : IO UInt32 := do
  let home := (← IO.getEnv "HOME").getD "."
  let outcome ← (run .usual home arguments).runM realAnswer
  match outcome.output? with
  | some output => IO.print output
  | none => IO.eprintln "usage: get | ls | tree | config"
  match outcome.fault? with
  | some fault => IO.eprintln fault.message
  | none => pure ()
  return UInt32.ofNat outcome.exit

end ContentTree.CommandLine

/-- The entry point. -/
def main (arguments : List String) : IO UInt32 := ContentTree.CommandLine.runReal arguments
