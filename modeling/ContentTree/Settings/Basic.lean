import ContentTree.Json.Value
/-!
Settings in two sections, for providers and for the command line. A field holds whatever JSON value
it was given; a field that was not given has its default. A section must be an object with known
fields.
-/

set_option autoImplicit false
set_option relaxedAutoImplicit false

namespace ContentTree

open ContentTree.Number

/-- How providers are opened. -/
structure Settings.ForProviders where
  root : Json.Value := .null
  filterFile : Json.Value := .null
  timeToLive : Json.Value := .float (.ofRatio false 10 1)
  capacity : Json.Value := .int 1000
  deriving Inhabited

/-- How the command line behaves. -/
structure Settings.ForCommands where
  verbose : Json.Value := .bool false
  color : Json.Value := .bool true
  deriving Inhabited

/-- All settings. -/
structure Settings where
  providers : Settings.ForProviders := {}
  commands : Settings.ForCommands := {}
  deriving Inhabited

namespace Settings

/-- Why a value is not read as settings. -/
inductive Fault where
  | noObject (kind : String)
  | noMapping (owner kind : String)
  | unknownField (owner field : String)
  | repeatedField (owner field : String)
  deriving DecidableEq, Repr

/-- The wording of a fault. -/
def Fault.message : Fault → String
  | .noObject kind => "'" ++ kind ++ "' object has no attribute 'get'"
  | .noMapping owner kind =>
    "vaultfs.config." ++ owner ++ "() argument after ** must be a mapping, not " ++ kind
  | .unknownField owner field =>
    owner ++ ".__init__() got an unexpected keyword argument '" ++ field ++ "'"
  | .repeatedField owner field =>
    owner ++ ".__init__() got multiple values for argument '" ++ field ++ "'"

/-- The word for the kind of a value. -/
def kindOf : Json.Value → String
  | .null => "NoneType"
  | .bool _ => "bool"
  | .int _ => "int"
  | .float _ => "float"
  | .str _ => "str"
  | .arr _ => "list"
  | .obj _ => "dict"

/-- Reads the fields of a section from the left. The field `self` is taken already. -/
def readSection {α : Type} (owner : String) (set? : α → String → Json.Value → Option α) :
    α → List (String × Json.Value) → Except Fault α
  | given, [] => .ok given
  | given, (field, value) :: rest =>
    if field = "self" then .error (.repeatedField owner field)
    else
      match set? given field value with
      | some given => readSection owner set? given rest
      | none => .error (.unknownField owner field)

/-- Reads a section from the value of a member, if there is one. -/
def readMember {α : Type} (owner : String) (set? : α → String → Json.Value → Option α)
    (default : α) : Option Json.Value → Except Fault α
  | none => .ok default
  | some (.obj members) => readSection owner set? default members
  | some value => .error (.noMapping owner (kindOf value))

/-- Sets a field of the section for providers. -/
def ForProviders.set? (given : ForProviders) (field : String) (value : Json.Value) :
    Option ForProviders :=
  match field with
  | "provider_root" => some { given with root := value }
  | "filter_xml" => some { given with filterFile := value }
  | "stat_cache_ttl" => some { given with timeToLive := value }
  | "content_cache_size" => some { given with capacity := value }
  | _ => none

/-- Sets a field of the section for the command line. -/
def ForCommands.set? (given : ForCommands) (field : String) (value : Json.Value) :
    Option ForCommands :=
  match field with
  | "verbose" => some { given with verbose := value }
  | "color" => some { given with color := value }
  | _ => none

/-- The settings in a JSON value. -/
def ofJson (value : Json.Value) : Except Fault Settings :=
  match value with
  | .obj members => do
    let providers ← readMember "ProviderConfig" ForProviders.set? {} (members.lookup "provider")
    let commands ← readMember "CLIConfig" ForCommands.set? {} (members.lookup "cli")
    return { providers, commands }
  | value => .error (.noObject (kindOf value))

/-- The settings as a JSON value with all fields. -/
def toJson (settings : Settings) : Json.Value :=
  .obj [
    ("provider", .obj [
      ("provider_root", settings.providers.root),
      ("filter_xml", settings.providers.filterFile),
      ("stat_cache_ttl", settings.providers.timeToLive),
      ("content_cache_size", settings.providers.capacity)]),
    ("cli", .obj [
      ("verbose", settings.commands.verbose),
      ("color", settings.commands.color)])]

end Settings

end ContentTree
