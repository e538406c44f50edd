import ContentTree.Filter.Basic
import ContentTree.Xml.Encoding
/-!
Reading workspace filters from documents. The root element is a `workspaceFilter` in whatever
namespace; its `filter` children and their `include` and `exclude` children are in none. The
first fault in document order is reported. Patterns are compiled by a given compiler.
-/

set_option autoImplicit false
set_option relaxedAutoImplicit false

namespace ContentTree.Filter

open ContentTree.Xml

/-- Why a file is no workspace filter. -/
inductive FilterError where
  /-- The file cannot be read, or its bytes are no text. -/
  | unreadable
  /-- The file is not a well-formed document. -/
  | malformed
  | invalidPattern
  /-- A pattern is not compiled, although it is not said to be none. -/
  | refusedPattern (refusal : Pattern.Refusal)
  | unexpectedRoot (name : String)
  | missingRoot
  | missingPattern (kind : String)
  deriving DecidableEq, Repr

/-- The wording of an error. -/
def FilterError.message : FilterError → String
  | .unreadable => ""
  | .malformed => "Malformed filter file"
  | .invalidPattern => "Invalid filter pattern"
  | .refusedPattern refusal => refusal.message
  | .unexpectedRoot name =>
    "Expected <workspaceFilter> root element in filter.xml, got <" ++ name ++ ">"
  | .missingRoot => "<filter> without root attribute in filter.xml"
  | .missingPattern kind => "<" ++ kind ++ "> without pattern attribute in filter.xml"

/-- The error of a filter for that of a pattern. -/
def FilterError.ofPattern : Pattern.PatternError → FilterError
  | .malformed => .invalidPattern
  | .refused refusal => .refusedPattern refusal

variable (compile : Pattern.Compiler)

/-- The value of an attribute without a namespace. -/
def attribute? (name : String) (attributes : List Attribute) : Option String :=
  (attributes.find? fun a => a.name = ⟨none, name⟩).map (·.value)

/-- The rule that an element of a filter set defines, if it is a rule. -/
def ruleOf? : Node → Except FilterError (Option Rule)
  | .element name _ attributes _ =>
    if name = ⟨none, "include"⟩ ∨ name = ⟨none, "exclude"⟩ then
      match attribute? "pattern" attributes with
      | none => .error (.missingPattern name.base)
      | some pattern =>
        ((Rule.read compile (name.base == "include") pattern).map some).mapError .ofPattern
    else .ok none
  | _ => .ok none

/-- The filter set that a child of the root defines, if it is a filter set. -/
def setOf? : Node → Except FilterError (Option FilterSet)
  | .element name _ attributes content =>
    if name = ⟨none, "filter"⟩ then
      match attribute? "root" attributes with
      | none | some "" => .error .missingRoot
      | some root => do
        let rules ← content.mapM (ruleOf? compile)
        let mode := (attribute? "mode" attributes).getD "replace"
        return some (.ofRoot root mode (rules.filterMap id))
    else .ok none
  | _ => .ok none

/-- The filter that a document defines. -/
def WorkspaceFilter.ofNode : Node → Except FilterError WorkspaceFilter
  | .element name _ _ content =>
    if name.base = "workspaceFilter" then do
      let sets ← content.mapM (setOf? compile)
      return sets.filterMap id
    else .error (.unexpectedRoot name.base)
  | _ => .error .malformed

/-- The filter in a file. -/
def WorkspaceFilter.read (bytes : List UInt8) : Except FilterError WorkspaceFilter :=
  match Xml.read bytes with
  | .ok root => WorkspaceFilter.ofNode compile root
  | .error .undecodable => .error .unreadable
  | .error .malformed => .error .malformed

end ContentTree.Filter
