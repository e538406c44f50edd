import ContentTree.Pattern.Compile
import ContentTree.Text.Quoted
import ContentTree.Text.Segments
/-!
Workspace filters: which paths of a repository belong to a package. A filter set accepts paths at
or below its root; among its rules the last one that matches decides, and without a match the
opposite of the first rule holds. A filter accepts what one of its sets accepts.
-/

set_option autoImplicit false
set_option relaxedAutoImplicit false

namespace ContentTree.Filter

open ContentTree.Text

/-- A rule that includes or excludes the paths it matches. -/
structure Rule where
  includes : Bool
  pattern : String
  matchesPath : String → Bool

/-- The rule with a pattern for whole paths. -/
def Rule.read (compile : Pattern.Compiler) (includes : Bool) (pattern : String) :
    Except Pattern.PatternError Rule :=
  (compile pattern).map fun matchesPath => ⟨includes, pattern, matchesPath⟩

/-- The kind of a rule in words. -/
def Rule.kind (rule : Rule) : String := if rule.includes then "include" else "exclude"

/-- The rules for the paths at and below a root. -/
structure FilterSet where
  root : String
  mode : String
  rules : List Rule

namespace FilterSet

/-- The filter set with a root that may end in slashes. -/
def ofRoot (root mode : String) (rules : List Rule) : FilterSet :=
  let stem := trimEnd (· == '/') root
  ⟨if stem = "" then "/" else stem, mode, rules⟩

/-- Whether a path lies at or below the root. -/
def covers (set : FilterSet) (path : String) : Bool :=
  set.root == "/" || set.root == path || beginsWith (set.root ++ "/") path

/-- What the rules say of a path: each rule that matches overrides the verdict so far. -/
def verdict (path : String) (initial : Bool) (rules : List Rule) : Bool :=
  rules.foldl (fun result rule => if rule.matchesPath path then rule.includes else result) initial

/-- Whether the set accepts a path. -/
def contains (set : FilterSet) (path : String) : Bool :=
  set.covers path &&
    match set.rules with
    | [] => true
    | first :: _ => verdict path (!first.includes) set.rules

/-- A one-line account of a set. -/
def summary (set : FilterSet) : String :=
  let rules := set.rules.map fun r => "FilterRule(" ++ r.kind ++ "=" ++ quoted r.pattern ++ ")"
  "PathFilterSet(root=" ++ quoted set.root ++ ", rules=[" ++ ", ".intercalate rules ++ "])"

end FilterSet

/-- The filter sets of a package. -/
abbrev WorkspaceFilter := List FilterSet

namespace WorkspaceFilter

/-- Whether a set of the filter accepts a path. -/
def contains (filter : WorkspaceFilter) (path : String) : Bool :=
  filter.any (·.contains path)

/-- Whether a path lies at or below a root of the filter. -/
def covers (filter : WorkspaceFilter) (path : String) : Bool :=
  filter.any (·.covers path)

/-- Whether a root of the filter lies below a path. -/
def isAncestor (filter : WorkspaceFilter) (path : String) : Bool :=
  let start := if path = "/" then "/" else path ++ "/"
  filter.any fun set => set.root != path && beginsWith start set.root

end WorkspaceFilter

end ContentTree.Filter
