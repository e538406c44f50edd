import ContentTree.CommandLine.Command
import ContentTree.CommandLine.Report
import ContentTree.Settings.File
/-!
Running commands. A run reads the settings first, then does what the command says. It ends with an
exit code and what is printed, or with a fault that the command has no words for. The file system
does not change during a run, so caches would not show in what a run prints; only the settings for
them are looked at. What is shown of markup, what patterns are and how deep settings may be nested
is up to what a run is made with.
-/

set_option autoImplicit false
set_option relaxedAutoImplicit false

namespace ContentTree.CommandLine

open ContentTree.Storage ContentTree.Terminal

/-- A fault that a command has no words for. -/
inductive Fault where
  | settings (error : Settings.LoadError)
  /-- A setting is of the wrong type. -/
  | wrongType
  | filter (error : Filter.FilterError)
  | storage (error : StorageError)
  | report (error : ReportError)
  /-- What is to be printed holds a lone surrogate. -/
  | unencodable

/-- The wording of a fault. -/
def Fault.message : Fault → String
  | .settings cause => cause.message
  | .wrongType => "a setting is of the wrong type"
  | .filter cause => cause.message
  | .storage cause => cause.message
  | .report cause => cause.message
  | .unencodable => "a lone surrogate cannot be printed"

/-- How a run ends. -/
inductive Ending where
  /-- The command did what it should and printed a text. -/
  | done (output : String)
  /-- The command printed why it cannot. -/
  | refused (output : String)
  | fault (fault : Fault)
  /-- The arguments are no command. -/
  | usage

/-- Whether a text can be printed. No lone surrogate has a form in UTF-8. -/
def isEncodable (text : String) : Bool := text.toList.all fun c => !Text.isSurrogate c

/-- An ending once its text is printed. Of a text that cannot be encoded nothing is. -/
def Ending.encoded : Ending → Ending
  | .done output => if isEncodable output then .done output else .fault .unencodable
  | .refused output => if isEncodable output then .refused output else .fault .unencodable
  | ending => ending

/-- What a run leaves: its exit code, what it printed unless the arguments are no command, and the
fault if it ended with one. -/
structure Outcome where
  exit : Nat
  output? : Option String
  fault? : Option Fault

/-- The outcome of a run that printed a text before its ending. -/
def Ending.outcome (before : String) : Ending → Outcome
  | .done output => ⟨0, some (before ++ output), none⟩
  | .refused output => ⟨1, some (before ++ output), none⟩
  | .fault cause => ⟨1, some before, some cause⟩
  | .usage => ⟨2, none, none⟩

/-- The line that says why a command cannot do what it should, as markup. The reason is not
escaped. -/
def errorMarkup (reason : String) : String := "[red]Error: " ++ reason ++ "[/red]"

/-- What a run is made with: the renderer of markup, the compiler of patterns, and the room for
containers in the settings. -/
structure Runtime where
  render : Renderer
  compile : Pattern.Compiler
  room : Settings.Room

/-- What runs are usually made with. -/
def Runtime.usual : Runtime := ⟨plainText isEmptyTuple, Pattern.compile, Settings.usualRoom⟩

/-- The ending that says why a command cannot do what it should. -/
def refusal (render : Renderer) (reason : String) : Ending :=
  match render (errorMarkup reason) with
  | .ok text => .refused (printed text)
  | .error error => .fault (.report (.markup error))

/-- The ending of a command with its report. -/
def reported : Except ReportError String → Ending
  | .ok text => .done text
  | .error error => .fault (.report error)

/-- Whether a setting counts as nothing. -/
def isNothing : Json.Value → Bool
  | .null => true
  | .bool b => !b
  | .int i => i == 0
  | .float x => x.isZero
  | .str s => s == ""
  | .arr items => items.isEmpty
  | .obj members => members.isEmpty

/-- A setting that holds a path, if it holds anything. -/
def pathSetting? : Json.Value → Except Ending (Option String)
  | .str s => .ok (if s = "" then none else some s)
  | value => if isNothing value then .ok none else .error (.fault .wrongType)

/-- Whether a setting can be compared with a number. -/
def isNumber : Json.Value → Bool
  | .bool _ | .int _ | .float _ => true
  | _ => false

/-- The questions that cannot be asked because a setting for a cache is no number. -/
def isRefused (settings : Settings) : Question → Bool
  | .kind _ => !isNumber settings.providers.timeToLive
  | .content _ => !isNumber settings.providers.capacity
  | _ => false

/-- Where the filter lies beside a root folder. -/
def packageFilter : String := "META-INF/vault/filter.xml"

/-- The filter file beside the root folder, if there is one. -/
def defaultFilter? (root : String) : Lookup (Option String) := do
  match ← Lookup.holder root with
  | none => return none
  | some folder =>
    let file := FilePath.below folder packageFilter
    return if (← Lookup.kind file).isSome then some file else none

/-- The root folder: the one that is given, otherwise the one in the settings. -/
def rootOf (render : Renderer) (settings : Settings) (target : Target) :
    Lookup (Except Ending String) :=
  let root? : Except Ending (Option String) := match target.root? with
    | some root => .ok (some root)
    | none => pathSetting? settings.providers.root
  match root? with
  | .error ending => pure (.error ending)
  | .ok none => pure (.error (refusal render "no provider root given and none configured"))
  | .ok (some root) => do
    let root := FilePath.tidy root
    if ← Lookup.isFolder root then return .ok root
    else if ← Lookup.isTooLong root then
      return .error (.fault (.storage ⟨.nameTooLong, [root]⟩))
    else return .error (refusal render ("provider root is not a folder: " ++ root))

/-- The filter file: the one that is given, otherwise the one in the settings, otherwise the one
beside the root folder. -/
def filterOf (settings : Settings) (target : Target) (root : String) :
    Lookup (Except Ending (Option String)) :=
  match target.filterFile? with
  | some file => pure (.ok (some file))
  | none =>
    match pathSetting? settings.providers.filterFile with
    | .error ending => pure (.error ending)
    | .ok (some file) => pure (.ok (some file))
    | .ok none => do return .ok (← defaultFilter? root)

/-- The mapping that a command looks at. -/
def mappingOf (runtime : Runtime) (settings : Settings) (target : Target) :
    Lookup (Except Ending Mapping) := do
  match ← rootOf runtime.render settings target with
  | .error ending => return .error ending
  | .ok root =>
    match ← filterOf settings target root with
    | .error ending => return .error ending
    | .ok filterFile? =>
      return (← Mapping.openAt runtime.compile root filterFile?).mapError fun error =>
        .fault (.filter error)

/-- Runs a lookup on the mapping that a command looks at, and ends with what becomes of its value. -/
def onMapping {α : Type} (runtime : Runtime) (settings : Settings) (target : Target)
    (lookup : Mapping → Lookup (Except LookupError α)) (finish : α → Lookup Ending) :
    Lookup Ending := do
  match ← mappingOf runtime settings target with
  | .error ending => return ending
  | .ok mapping =>
    match ← (lookup mapping).refusing (isRefused settings) with
    | none => return .fault .wrongType
    | some (.error error) => return refusal runtime.render error.message
    | some (.ok value) => finish value

/-- The report on a resource in a format. -/
def detailReport (render : Renderer) (format title : String) (details : Details) : Ending :=
  match format with
  | "json" => .done (jsonReport details)
  | "yaml" => reported (yamlReport details)
  | "table" => reported (tableReport render title details)
  | _ => refusal render ("unknown format '" ++ format ++ "'")

/-- The sizes of the files among some children, up to a remark that cannot be made. -/
def withSizes : List Resource → Lookup (Except Fault (List (Resource × Option Nat)))
  | [] => pure (.ok [])
  | child :: rest => do
    match ← child.size? with
    | .error error => return .error (.storage error)
    | .ok size? =>
      match remark child size? with
      | .error error => return .error (.report error)
      | .ok _ => return (← withSizes rest).map ((child, size?) :: ·)

/-- The most visits of a tree. -/
def walkLimit : Nat := 1000000000000

/-- Runs a command. -/
def Command.run (runtime : Runtime) (settings : Settings) : Command → Lookup Ending
  | .get target format =>
    onMapping runtime settings target (·.resource? target.path) fun resource? => do
      match resource? with
      | none => return refusal runtime.render ("no resource at " ++ target.path)
      | some resource =>
        match ← resource.description with
        | .error error => return .fault (.storage error)
        | .ok details => return detailReport runtime.render format resource.path details
  | .list target =>
    onMapping runtime settings target (·.listing target.path) fun children => do
      match ← withSizes children with
      | .error fault => return .fault fault
      | .ok children => return reported (listReport runtime.render target.path children)
  | .tree target depth? =>
    onMapping runtime settings target (·.walk target.path depth? walkLimit) fun visits =>
      pure (reported (treeReport runtime.render visits))
  | .settings => pure (.done ((Yaml.Value.ofJson settings.toJson).document false ++ "\n"))

/-- A path that is given although no path can hold its characters. -/
def Command.impossiblePath? : Command → Option String
  | .get target _ | .list target | .tree target _ => target.impossiblePath?
  | .settings => none

/-- The line that is printed first in verbose runs. -/
def verboseLine : String := "Verbose mode enabled.\n"

/-- Runs the command that arguments name, with the settings below a home folder. -/
def run (runtime : Runtime) (home : String) (arguments : List String) : Lookup Outcome :=
  match readArguments? leadingOptions false {} none arguments with
  | none => pure (Ending.usage.outcome "")
  | some given =>
    match given.arguments with
    | [] => pure (Ending.usage.outcome "")
    | name :: arguments =>
      if !commandNames.contains name then pure (Ending.usage.outcome "")
      else do
        match ← Settings.load runtime.room home with
        | .error error => return Ending.outcome "" (.fault (.settings error))
        | .ok settings =>
          let verbose := given.has "verbose" || !isNothing settings.commands.verbose
          let before := if verbose then verboseLine else ""
          match Command.read? name arguments with
          | none => return Ending.usage.outcome before
          | some command =>
            match command.impossiblePath? with
            | some path => return Ending.outcome before (.fault (.storage ⟨.nulCharacter, [path]⟩))
            | none => return (← command.run runtime settings).encoded.outcome before

end ContentTree.CommandLine
