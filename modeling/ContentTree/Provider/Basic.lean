import ContentTree.Cache.Pair
import ContentTree.Filter.Reader
import ContentTree.Mapping.Listing
/-!
Providers answer questions about the logical tree of a folder. A provider has a mapping, the filter
of which is read once, and caches. Its lookups take any absolute path and normalize it first.
-/

set_option autoImplicit false
set_option relaxedAutoImplicit false

namespace ContentTree

open ContentTree.Text ContentTree.Storage

/-- What a provider is opened with. -/
structure Provider.Settings where
  root : String
  filterFile? : Option String
  timeToLive : Rat
  capacity : Int

/-- Why a lookup of a provider has no answer. -/
inductive LookupError where
  | path (error : Path.PathError)
  | notFound (path : String)
  deriving DecidableEq, Repr

/-- The wording of an error. -/
def LookupError.message : LookupError → String
  | .path fault => fault.message
  | .notFound place => "No resource at '" ++ place ++ "'"

namespace Mapping

/-- The filter that the bytes of a file hold. A file that is missing or holds no filter means none,
except that a pattern that is refused is an error. -/
def filterIn? (compile : Pattern.Compiler) (bytes : Except StorageError (List UInt8)) :
    Except Filter.FilterError (Option Filter.WorkspaceFilter) :=
  match bytes with
  | .error _ => .ok none
  | .ok bytes =>
    match Filter.WorkspaceFilter.read compile bytes with
    | .ok filter => .ok (some filter)
    | .error (.refusedPattern refusal) => .error (.refusedPattern refusal)
    | .error _ => .ok none

/-- The mapping of a folder with the filter that a file holds. A path that is too long to be one is
an error. -/
def openAt (compile : Pattern.Compiler) (root : String) (filterFile? : Option String) :
    Lookup (Except Filter.FilterError Mapping) :=
  match filterFile? with
  | none => pure (.ok ⟨FilePath.tidy root, none⟩)
  | some file => do
    let file := FilePath.tidy file
    if ← Lookup.isTooLong file then return .error .unreadable
    return (filterIn? compile (← Lookup.bytes file)).map fun filter? => ⟨FilePath.tidy root, filter?⟩

/-- A one-line account of a mapping with the file of its filter. -/
def summary (mapping : Mapping) (filterFile? : Option String) : String :=
  let shown := match filterFile? with
    | some file => quoted (FilePath.tidy file)
    | none => "None"
  "FileVaultResourceMapper(provider_root='" ++ mapping.root ++ "', filter_xml=" ++ shown ++ ")"

/-- The resource at the normalized form of a path. -/
def resource? (mapping : Mapping) (path : String) : Lookup (Except LookupError (Option Resource)) :=
  match Path.normalize path with
  | .error error => pure (.error (.path error))
  | .ok path => do return .ok (← mapping.resolve path)

/-- The children of the resource at the normalized form of a path, which has to be there. -/
def listing (mapping : Mapping) (path : String) : Lookup (Except LookupError (List Resource)) :=
  match Path.normalize path with
  | .error error => pure (.error (.path error))
  | .ok path => do
    match ← mapping.resolve path with
    | none => return .error (.notFound path)
    | some _ => return .ok (← mapping.children path)

end Mapping

/-- A mapping with caches. A cache of kinds put in later is used in place of the provider's own. -/
structure Provider where
  mapping : Mapping
  filterFile? : Option String
  kinds : Cache.Kinds
  replacement? : Option Cache.Kinds
  contents : Cache.Contents

namespace Provider

/-- A provider with empty caches. -/
def openAt (disk : Disk) (time : Rat) (settings : Settings) :
    Except Filter.FilterError Provider := do
  let mapping ← (Mapping.openAt Pattern.compile settings.root settings.filterFile?).on disk
  return {
    mapping
    filterFile? := settings.filterFile?
    kinds := .empty settings.timeToLive time
    replacement? := none
    contents := .empty settings.capacity }

/-- The caches in use. -/
def caches (provider : Provider) : Cache.Pair :=
  ⟨provider.replacement?.getD provider.kinds, provider.contents⟩

/-- The provider with other contents of the caches in use. -/
def withCaches (provider : Provider) (caches : Cache.Pair) : Provider :=
  match provider.replacement? with
  | some _ => { provider with replacement? := some caches.kinds, contents := caches.contents }
  | none => { provider with kinds := caches.kinds, contents := caches.contents }

/-- The value of a lookup over the provider's caches, and the provider afterwards. -/
def run {α : Type} (disk : Disk) (time : Rat) (lookup : Lookup α) (provider : Provider) :
    α × Provider :=
  let (value, caches) := Cache.Pair.run disk time lookup provider.caches
  (value, provider.withCaches caches)

/-- Uses another cache of kinds from now on. -/
def replaceKinds (provider : Provider) (kinds : Cache.Kinds) : Provider :=
  { provider with replacement? := some kinds }

/-- Empties the provider's own cache of kinds and its cache of descriptor trees. -/
def refresh (provider : Provider) : Provider :=
  { provider with kinds := provider.kinds.clear, contents := provider.contents.clear }

end Provider

end ContentTree
