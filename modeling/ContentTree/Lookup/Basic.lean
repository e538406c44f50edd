import ContentTree.Descriptor.Element
import ContentTree.Storage.Disk
/-!
Lookups as trees of questions about a file system. A lookup is a value or a question with a lookup
for each answer, so that it can be run over the bare file system, over caches that answer in its
place, or in any other way, without a change of the rules that it follows.
-/

set_option autoImplicit false
set_option relaxedAutoImplicit false

namespace ContentTree

open ContentTree.Storage ContentTree.Descriptor

/-- A question about the file system: what stands at a path, which descriptor tree a file holds,
which names a folder has, the bytes and the size of a file, and the folder that holds what a path
leads to. -/
inductive Question where
  | kind (path : String)
  | content (file : String)
  | names (folder : String)
  | bytes (file : String)
  | size (file : String)
  | holder (path : String)
  deriving DecidableEq, Repr

/-- The type of the answers to a question. -/
def Question.Answer : Question → Type
  | .kind _ => Option Kind
  | .content _ => Option Element
  | .names _ => List String
  | .bytes _ => Except StorageError (List UInt8)
  | .size _ => Except StorageError Nat
  | .holder _ => Option String

/-- A value found by asking questions. -/
inductive Lookup (α : Type) where
  | found (value : α)
  | ask (question : Question) (next : question.Answer → Lookup α)

namespace Lookup

variable {α β : Type}

/-- Continues a lookup with its value. -/
def bind (first : Lookup α) (second : α → Lookup β) : Lookup β :=
  match first with
  | found value => second value
  | ask question next => ask question fun answer => (next answer).bind second

instance : Monad Lookup where
  pure := found
  bind := bind

/-- What stands at a path. -/
def kind (path : String) : Lookup (Option Kind) := ask (.kind path) found

/-- The descriptor tree that a file holds. -/
def content (file : String) : Lookup (Option Element) := ask (.content file) found

/-- The names in a folder. -/
def names (folder : String) : Lookup (List String) := ask (.names folder) found

/-- The bytes of a file. -/
def bytes (file : String) : Lookup (Except StorageError (List UInt8)) := ask (.bytes file) found

/-- The size of a file. -/
def size (file : String) : Lookup (Except StorageError Nat) := ask (.size file) found

/-- The folder that holds what a path leads to. -/
def holder (path : String) : Lookup (Option String) := ask (.holder path) found

/-- Whether a path leads to a file. -/
def isFile (path : String) : Lookup Bool := do return (← kind path) == some .file

/-- Whether a path leads to a folder. -/
def isFolder (path : String) : Lookup Bool := do return (← kind path) == some .folder

/-- Whether a path is refused because it, or a name in it, is too long. -/
def isTooLong (path : String) : Lookup Bool := do
  match ← size path with
  | .error error => return error.cause == .nameTooLong
  | .ok _ => return false

/-- Runs a lookup with fixed answers. -/
def run (answer : (question : Question) → question.Answer) : Lookup α → α
  | found value => value
  | ask question next => (next (answer question)).run answer

/-- Runs a lookup with answers that have effects. -/
def runM {m : Type → Type} [Monad m] (answer : (question : Question) → m question.Answer) :
    Lookup α → m α
  | found value => pure value
  | ask question next => answer question >>= fun given => (next given).runM answer

/-- The lookup that gives up at the first refused question. -/
def refusing (refused : Question → Bool) : Lookup α → Lookup (Option α)
  | found value => found (some value)
  | ask question next =>
    if refused question then found none
    else ask question fun given => (next given).refusing refused

end Lookup

end ContentTree
