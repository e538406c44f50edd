import ContentTree.Descriptor.Literal
import ContentTree.Json.Writer
import ContentTree.Mapping.Details
import ContentTree.Provider.Walk
import ContentTree.Terminal.Grid
import ContentTree.Terminal.Markup
import ContentTree.Terminal.Outline
import ContentTree.Yaml.Writer
/-!
What commands print: the details of a resource as JSON, as YAML or as a table, a table of children,
and the tree. Texts in tables are markup, except that the names of resources are escaped. What is
shown of markup is up to a renderer.
-/

set_option autoImplicit false
set_option relaxedAutoImplicit false

namespace ContentTree.CommandLine

open ContentTree.Descriptor ContentTree.Terminal

/-- Why a report cannot be made. -/
inductive ReportError where
  | markup (error : MarkupError)
  /-- A value has no YAML form. -/
  | noYaml (value : Number.Decimal)
  /-- A value that is no text stands where a table needs one. -/
  | noText (value : Value)

/-- The wording of an error. -/
def ReportError.message : ReportError → String
  | .markup (.nothingToClose style) => "nothing to close with the tag /" ++ style
  | .markup (.badArgument style) => "the argument of the tag " ++ style ++ " cannot be read"
  | .markup (.badNumber digits) => "invalid literal for int() with base 10: " ++ Text.quoted digits
  | .noYaml value => "the decimal " ++ value.toText ++ " has no YAML form"
  | .noText value => "the value " ++ value.shown ++ " stands where a text is needed"

/-- The details of a resource in the order in which they are reported. -/
abbrev Details := List (String × Detail)

/-- A scalar as JSON. Decimals and dates are texts. -/
def scalarJson : Scalar → Json.Value
  | .text s => .str s
  | .integer i => .int i
  | .float x => .float x
  | .boolean b => .bool b
  | scalar => .str scalar.shown

/-- A value as JSON. -/
def valueJson : Value → Json.Value
  | .single scalar => scalarJson scalar
  | .multiple scalars => .arr (scalars.map scalarJson)

/-- A detail as JSON. -/
def detailJson : Detail → Json.Value
  | .absent => .null
  | .text s => .str s
  | .count n => .int n
  | .value v => valueJson v
  | .properties properties => .obj (properties.map fun property => (property.1, valueJson property.2))

/-- Details as JSON text. -/
def jsonReport (details : Details) : String :=
  (Json.Value.obj (details.map fun detail => (detail.1, detailJson detail.2))).indented 2 ++ "\n"

/-- A scalar as YAML. Decimals have no form. -/
def scalarYaml : Scalar → Except ReportError Yaml.Value
  | .text s => .ok (.str s)
  | .integer i => .ok (.int i)
  | .float x => .ok (.float x)
  | .boolean b => .ok (.bool b)
  | .date t => .ok (.timestamp t)
  | .decimal d => .error (.noYaml d)

/-- A value as YAML. -/
def valueYaml : Value → Except ReportError Yaml.Value
  | .single scalar => scalarYaml scalar
  | .multiple scalars => (scalars.mapM scalarYaml).map .seq

/-- A detail as YAML. -/
def detailYaml : Detail → Except ReportError Yaml.Value
  | .absent => .ok .null
  | .text s => .ok (.str s)
  | .count n => .ok (.int n)
  | .value v => valueYaml v
  | .properties properties =>
    (properties.mapM fun property => (valueYaml property.2).map fun v => (property.1, v)).map .map

/-- Details as YAML text, with an empty line after it. -/
def yamlReport (details : Details) : Except ReportError String := do
  let members ← details.mapM fun detail => (detailYaml detail.2).map fun v => (detail.1, v)
  return (Yaml.Value.map members).document true ++ "\n"

/-- The text that remains of markup in a report. -/
def shownText (render : Renderer) (markup : String) : Except ReportError String :=
  (render markup).mapError .markup

/-- A table of what is shown of markup texts. -/
def shownGrid (render : Renderer) (title : String) (headings : List String)
    (rows : List (List String)) : Except ReportError Grid := do
  let rows ← rows.mapM fun row => row.mapM (shownText render)
  return ⟨← shownText render title, headings, rows⟩

/-- A table of markup texts as it is printed. -/
def gridReport (render : Renderer) (title : String) (headings : List String)
    (rows : List (List String)) : Except ReportError String :=
  (shownGrid render title headings rows).map (·.printed)

/-- The rows of a table for a detail. -/
def detailRows (detail : String × Detail) : List (List String) :=
  match detail.2 with
  | .absent => [[detail.1, ""]]
  | .text s => [[detail.1, s]]
  | .count n => [[detail.1, toString n]]
  | .value v => [[detail.1, v.shown]]
  | .properties properties =>
    properties.map fun property => ["@" ++ property.1, property.2.shown]

/-- Details as a table. -/
def tableReport (render : Renderer) (title : String) (details : Details) :
    Except ReportError String :=
  gridReport render title ["Key", "Value"] (details.flatMap detailRows)

/-- The style of a resource. -/
def styleOf : Resource → String
  | .file .. => "white"
  | .folder .. => "bold blue"
  | .node _ => "green"

/-- What a table of children says of a child beside its name and sort. -/
def remark (child : Resource) (size? : Option Nat) : Except ReportError String :=
  match child with
  | .node view =>
    match Resource.resourceType? view with
    | none => .ok ""
    | some (.single (.text s)) => .ok s
    | some value => if value.isNothing then .ok "" else .error (.noText value)
  | _ => .ok ((size?.map fun size => toString size ++ " bytes").getD "")

/-- The row for a child with the size of its file. -/
def childRow (child : Resource × Option Nat) : Except ReportError (List String) := do
  return [styled (styleOf child.1) child.1.name, child.1.sort, ← remark child.1 child.2]

/-- Children with the sizes of their files as a table. -/
def listReport (render : Renderer) (path : String) (children : List (Resource × Option Nat)) :
    Except ReportError String := do
  if children.isEmpty then return "No children\n"
  gridReport render path ["Name", "Type", "Details"] (← children.mapM childRow)

/-- The visits of a walk as a tree. -/
def treeReport (render : Renderer) (visits : List Visit) : Except ReportError String :=
  match visits with
  | [] => .ok ""
  | first :: rest => do
    let root ← shownText render (styled (styleOf first.resource) first.resource.path)
    let labels ← rest.mapM fun visit =>
      (shownText render (styled (styleOf visit.resource) visit.resource.name)).map fun label =>
        (visit.depth - first.depth, label)
    return (Outline.ofLabels root labels).printed

end ContentTree.CommandLine
