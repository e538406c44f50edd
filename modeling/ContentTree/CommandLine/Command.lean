import ContentTree.CommandLine.Options
import ContentTree.Number.Integer
/-!
The commands: showing one resource, listing children, drawing the tree, and showing the settings.
An argument list that names no command, or has unknown options or too many arguments, is no command.
-/

set_option autoImplicit false
set_option relaxedAutoImplicit false

namespace ContentTree.CommandLine

open ContentTree.Number

/-- Where a command looks: a path, and the root folder and filter file if they are given. -/
structure Target where
  path : String
  root? : Option String
  filterFile? : Option String

/-- A root folder or filter file that is given although a path cannot hold its characters. -/
def Target.impossiblePath? (target : Target) : Option String :=
  (target.root?.toList ++ target.filterFile?.toList).find? (·.toList.contains '\x00')

/-- A command with what it was given. -/
inductive Command where
  | get (target : Target) (format : String)
  | list (target : Target)
  | tree (target : Target) (depth? : Option Int)
  | settings

/-- The options in front of the name of a command. -/
def leadingOptions : List OptionSpec := [⟨"verbose", some 'v', false⟩]

/-- The options of all commands that look at a path. -/
def targetOptions : List OptionSpec := [⟨"root", some 'r', true⟩, ⟨"filter", some 'f', true⟩]

/-- The names of the commands. -/
def commandNames : List String := ["get", "ls", "tree", "config"]

/-- The target that is given. -/
def targetOf? (given : Given) : Option Target :=
  let root? := given.value? "root"
  let filterFile? := given.value? "filter"
  match given.arguments with
  | [] => some ⟨"/", root?, filterFile?⟩
  | [path] => some ⟨path, root?, filterFile?⟩
  | _ => none

/-- The command of a name with its arguments. -/
def Command.read? (name : String) (arguments : List String) : Option Command :=
  let read? (extra : List OptionSpec) := readArguments? (targetOptions ++ extra) true {} none arguments
  match name with
  | "get" => do
    let given ← read? [⟨"format", none, true⟩]
    return .get (← targetOf? given) ((given.value? "format").getD "table")
  | "ls" => do return .list (← targetOf? (← read? []))
  | "tree" => do
    let given ← read? [⟨"depth", some 'd', true⟩]
    let target ← targetOf? given
    match given.value? "depth" with
    | none => return .tree target none
    | some text => return .tree target (some (← readInteger? text))
  | "config" => do
    let given ← readArguments? [] true {} none arguments
    if given.arguments.isEmpty then return .settings else none
  | _ => none

end ContentTree.CommandLine
