import ContentTree.Pattern.Match
import ContentTree.Pattern.Reader
/-!
Compiling patterns: a text becomes a test of whole texts, unless it is no pattern. Which texts are
patterns is up to a library. Filters are told with any compiler in its place, and the one that is
defined here is the library's without names of characters.
-/

set_option autoImplicit false
set_option relaxedAutoImplicit false

namespace ContentTree.Pattern

/-- What becomes of the texts of patterns: the test of whole texts, or why there is none. -/
abbrev Compiler := String → Except PatternError (String → Bool)

/-- The room for nested calls that there usually is. -/
def usualRoom : Nat := 980

/-- The usual compiler. -/
def compile : Compiler := fun text => (read usualRoom text).map (·.matchesAll)

end ContentTree.Pattern
