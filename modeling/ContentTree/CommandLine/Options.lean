/-!
Options and arguments of a command. A long option has its value behind an equals sign or as the
next argument, a short one right behind its letter or as the next argument; short options without
a value may be joined. Two dashes alone end the options. When an option is given again, the last
value counts.
-/

set_option autoImplicit false
set_option relaxedAutoImplicit false

namespace ContentTree.CommandLine

/-- An option of a command. -/
structure OptionSpec where
  name : String
  letter? : Option Char
  takesValue : Bool

/-- What a list of arguments says: options with their values, the last one first, and the other
arguments. -/
structure Given where
  options : List (String × String) := []
  arguments : List String := []

namespace Given

/-- The value that was given last for an option. -/
def value? (given : Given) (name : String) : Option String := given.options.lookup name

/-- Whether an option was given. -/
def has (given : Given) (name : String) : Bool := (given.value? name).isSome

/-- Adds an option. -/
def option (given : Given) (name value : String) : Given :=
  { given with options := (name, value) :: given.options }

/-- Adds an argument. -/
def argument (given : Given) (text : String) : Given :=
  { given with arguments := given.arguments ++ [text] }

end Given

/-- Reads joined short options. The name of an option that takes the next argument comes with
the result. Unknown options are refused. -/
def readLetters? (specs : List OptionSpec) (given : Given) :
    List Char → Option (Given × Option String)
  | [] => some (given, none)
  | letter :: rest =>
    match specs.find? fun spec => spec.letter? == some letter with
    | none => none
    | some spec =>
      if !spec.takesValue then readLetters? specs (given.option spec.name "") rest
      else if rest = [] then some (given, some spec.name)
      else some (given.option spec.name (String.ofList rest), none)

/-- Reads a long option without its dashes. -/
def readLong? (specs : List OptionSpec) (given : Given) (text : List Char) :
    Option (Given × Option String) :=
  let name := text.takeWhile (· != '=')
  let value? := if name.length < text.length then
      some (String.ofList (text.drop (name.length + 1))) else none
  match specs.find? fun spec => spec.name == String.ofList name with
  | none => none
  | some spec =>
    match spec.takesValue, value? with
    | true, some value => some (given.option spec.name value, none)
    | true, none => some (given, some spec.name)
    | false, some _ => none
    | false, none => some (given.option spec.name "", none)

/-- Reads arguments. Options may stand behind other arguments if `mixed` says so; otherwise the
first other argument ends the options. `pending?` is an option that takes the next argument. -/
def readArguments? (specs : List OptionSpec) (mixed : Bool) (given : Given)
    (pending? : Option String) : List String → Option Given
  | [] => if pending?.isSome then none else some given
  | text :: rest =>
    match pending? with
    | some name => readArguments? specs mixed (given.option name text) none rest
    | none =>
      match text.toList with
      | ['-', '-'] => some { given with arguments := given.arguments ++ rest }
      | '-' :: '-' :: long =>
        (readLong? specs given long).bind fun (given, pending?) =>
          readArguments? specs mixed given pending? rest
      | '-' :: letter :: letters =>
        (readLetters? specs given (letter :: letters)).bind fun (given, pending?) =>
          readArguments? specs mixed given pending? rest
      | _ =>
        if mixed then readArguments? specs mixed (given.argument text) none rest
        else some { given with arguments := given.arguments ++ text :: rest }

end ContentTree.CommandLine
