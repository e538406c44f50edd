import ContentTree.Provider.Basic
/-!
Walks through the logical tree, each resource before its children. A walk goes step by step: a step
first lists the children of the resource visited last, unless that lies at the depth limit, and
then visits the resource on top of those that wait.
-/

set_option autoImplicit false
set_option relaxedAutoImplicit false

namespace ContentTree

/-- A resource with its depth below the start of a walk. -/
structure Visit where
  depth : Nat
  resource : Resource

/-- A walk before its first step, or with the resource visited last and those that wait. -/
inductive Walk where
  | fresh (path : String)
  | under (last : Visit) (waiting : List Visit)
  | over

namespace Walk

/-- Whether the children of a resource at a depth are visited. -/
def descends (depth : Nat) : Option Int → Bool
  | some limit => decide ((depth : Int) < limit)
  | none => true

/-- The visits that wait for the children of a resource. -/
def expand (mapping : Mapping) (limit? : Option Int) (visit : Visit) : Lookup (List Visit) :=
  if descends visit.depth limit? then do
    return (← mapping.children visit.resource.path).map fun child => ⟨visit.depth + 1, child⟩
  else pure []

/-- One step: the next visit, if there is one, and the walk afterwards. -/
def step (mapping : Mapping) (limit? : Option Int) :
    Walk → Lookup (Except LookupError (Option Visit) × Walk)
  | fresh path => do
    match ← mapping.resource? path with
    | .error error => return (.error error, Walk.over)
    | .ok none =>
      let path := ((Path.normalize path).toOption).getD path
      return (.error (.notFound path), Walk.over)
    | .ok (some start) => return (.ok (some ⟨0, start⟩), under ⟨0, start⟩ [])
  | under last waiting => do
    match (← expand mapping limit? last) ++ waiting with
    | [] => return (.ok none, Walk.over)
    | visit :: rest => return (.ok (some visit), under visit rest)
  | Walk.over => pure (.ok none, Walk.over)

/-- At most `count` steps. -/
def take (mapping : Mapping) (limit? : Option Int) :
    Nat → Walk → Lookup (Except LookupError (List Visit))
  | 0, _ => pure (.ok [])
  | count + 1, walk => do
    match ← step mapping limit? walk with
    | (.error error, _) => return .error error
    | (.ok none, _) => return .ok []
    | (.ok (some visit), walk) => return (← take mapping limit? count walk).map (visit :: ·)

end Walk

/-- The first visits of the walk from a path. -/
def Mapping.walk (mapping : Mapping) (path : String) (limit? : Option Int) (count : Nat) :
    Lookup (Except LookupError (List Visit)) :=
  Walk.take mapping limit? count (.fresh path)

end ContentTree
