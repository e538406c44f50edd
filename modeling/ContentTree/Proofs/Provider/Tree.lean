import ContentTree.Proofs.Lookup
import ContentTree.Proofs.Terminal.Outline
import ContentTree.Provider.Walk
/-!
The tree of a walk that ends. Whatever is answered when the walk lists children, and the answers need
not agree with each other, its visits are the nodes of one tree in the order in which they stand there.
The children of a node are those that were listed when it was visited last. While the walk goes on,
what waits are the tops of trees not yet visited, and a step puts one of them together.
-/

set_option autoImplicit false
set_option relaxedAutoImplicit false

namespace ContentTree.Walk

open ContentTree.Lookup ContentTree.Terminal ContentTree.Terminal.Outline

variable {mapping : Mapping} {limit? : Option Int} {count : Nat} {last : Visit}
  {waiting visits : List Visit} {replies : List Reply} {path : String}

/-- Whether some replies make children of a visited resource. At the depth limit nothing is asked and
there are no children. -/
def Lists (mapping : Mapping) (limit? : Option Int) (visit : Visit) (replies : List Reply)
    (children : List Resource) : Prop :=
  if descends visit.depth limit? then
    (mapping.children visit.resource.path).Finds replies children
  else replies = [] ∧ children = []

/-- The visit of a node. -/
def visitOf (node : Place × Outline Resource) : Visit := ⟨node.1.length, node.2.label⟩

/-- Whether the children of nodes, one node after the other, are what replies make of them. -/
inductive Listed (mapping : Mapping) (limit? : Option Int) :
    List (Place × Outline Resource) → List Reply → Prop
  | done : Listed mapping limit? [] []
  | next {node : Place × Outline Resource} {rest : List (Place × Outline Resource)}
      {here later : List Reply}
      (lists : Lists mapping limit? (visitOf node) here (node.2.children.map (·.label)))
      (listed : Listed mapping limit? rest later) :
      Listed mapping limit? (node :: rest) (here ++ later)

/-! ### Steps of a walk -/

theorem finds_expand : (expand mapping limit? last).Finds replies visits ↔
    ∃ children, Lists mapping limit? last replies children ∧
      visits = children.map fun child ↦ ⟨last.depth + 1, child⟩ := by
  unfold expand Lists
  split_ifs
  · simp only [finds_bind, finds_pure]
    constructor
    · rintro ⟨here, _, children, rfl, hchildren, rfl, rfl⟩
      exact ⟨children, by rwa [List.append_nil], rfl⟩
    · rintro ⟨children, hchildren, rfl⟩
      exact ⟨replies, [], children, (List.append_nil replies).symm, hchildren, rfl, rfl⟩
  · rw [finds_pure]
    constructor
    · rintro ⟨rfl, rfl⟩
      exact ⟨[], ⟨rfl, rfl⟩, rfl⟩
    · rintro ⟨children, ⟨rfl, rfl⟩, rfl⟩
      exact ⟨rfl, rfl⟩

/-- The walk after a visit lists children first. Then it is over, or it visits what is in front. -/
theorem finds_take_under
    (h : (take mapping limit? (count + 1) (under last waiting)).Finds replies (.ok visits)) :
    ∃ here later children, replies = here ++ later ∧ Lists mapping limit? last here children ∧
      ((children = [] ∧ waiting = [] ∧ later = [] ∧ visits = []) ∨
        ∃ visit rest others, (children.map fun child ↦ ⟨last.depth + 1, child⟩) ++ waiting =
            visit :: rest ∧ visits = visit :: others ∧
          (take mapping limit? count (under visit rest)).Finds later (.ok others)) := by
  rw [take, finds_bind] at h
  obtain ⟨here, later, stepped, rfl, hstep, htake⟩ := h
  rw [step, finds_bind] at hstep
  obtain ⟨here, asked, listed, rfl, hexpand, hstep⟩ := hstep
  obtain ⟨children, hchildren, rfl⟩ := finds_expand.mp hexpand
  refine ⟨here, asked ++ later, children, List.append_assoc here asked later, hchildren, ?_⟩
  cases hfront : (children.map fun child ↦ (⟨last.depth + 1, child⟩ : Visit)) ++ waiting with
  | nil =>
    simp only [hfront, finds_pure] at hstep
    obtain ⟨rfl, rfl⟩ := hstep
    simp only [finds_pure, Except.ok.injEq] at htake
    obtain ⟨rfl, rfl⟩ := htake
    obtain ⟨hnone, rfl⟩ := List.append_eq_nil_iff.mp hfront
    exact .inl ⟨List.map_eq_nil_iff.mp hnone, rfl, rfl, rfl⟩
  | cons visit rest =>
    simp only [hfront, finds_pure] at hstep
    obtain ⟨rfl, rfl⟩ := hstep
    simp only [finds_bind, finds_pure] at htake
    obtain ⟨later, _, taken, rfl, htake, rfl, hvisits⟩ := htake
    rw [List.nil_append, List.append_nil]
    cases taken with
    | error error => cases hvisits
    | ok others =>
      refine .inr ⟨visit, rest, others, rfl, ?_, htake⟩
      injection hvisits

/-! ### Trees beside each other -/

/-- The nodes of trees at places, one tree after the other. -/
def nodesOf (forest : List (Place × Outline Resource)) : List (Place × Outline Resource) :=
  forest.flatMap fun top ↦ top.2.nodes top.1

/-- Trees at the places below a node are what is below it. -/
theorem nodesOf_below (below : List (Place × Outline Resource)) (place : Place) (start : Nat)
    (h : below.map (·.1) = (List.range' start below.length).map fun index ↦ place ++ [index]) :
    nodesOf below = nodesFrom place start (below.map (·.2)) := by
  induction below generalizing start with
  | nil => rfl
  | cons top rest ih =>
    rw [List.length_cons, List.range'_succ, List.map_cons, List.map_cons, List.cons.injEq] at h
    rw [nodesOf, List.flatMap_cons, List.map_cons, nodesFrom, h.1, ← ih (start + 1) h.2]
    rfl

/-- Assumes: a walk that ends, and places as deep as the resource visited last and those that wait.
There are trees at the places with these resources at their tops, and the walk visits their nodes. -/
theorem exists_forest (places : List Place)
    (hwalk : (take mapping limit? count (under last waiting)).Finds replies (.ok visits))
    (hends : visits.length < count)
    (hplaces : places.map (·.length) = (last :: waiting).map (·.depth)) :
    ∃ forest : List (Place × Outline Resource), forest.map (·.1) = places ∧
      forest.map visitOf = last :: waiting ∧ (nodesOf forest).map visitOf = last :: visits ∧
        Listed mapping limit? (nodesOf forest) replies := by
  induction count generalizing last waiting replies visits places with
  | zero => exact absurd hends (Nat.not_lt_zero _)
  | succ count ih =>
    obtain ⟨place, others, rfl⟩ : ∃ place others, places = place :: others := by
      cases places with
      | nil => cases hplaces
      | cons place others => exact ⟨place, others, rfl⟩
    rw [List.map_cons, List.map_cons, List.cons.injEq] at hplaces
    obtain ⟨hplace, hothers⟩ := hplaces
    obtain ⟨here, later, children, rfl, hlists, hover | hvisit⟩ := finds_take_under hwalk
    · obtain ⟨rfl, rfl, rfl, rfl⟩ := hover
      obtain rfl : others = [] := by simpa using hothers
      have hlast : visitOf (place, node last.resource []) = last := by simp [visitOf, hplace]
      have hnodes : nodesOf [(place, node last.resource [])] = [(place, node last.resource [])] := by
        simp [nodesOf, nodes, nodesFrom]
      refine ⟨[(place, node last.resource [])], rfl, ?_, ?_, ?_⟩
      · rw [List.map_singleton, hlast]
      · rw [hnodes, List.map_singleton, hlast]
      · rw [hnodes]
        exact .next (by rw [hlast]; exact hlists) .done
    · obtain ⟨visit, rest, following, hfront, rfl, htake⟩ := hvisit
      -- The children wait at the places below their parent.
      have hdeeper : (((List.range' 0 children.length).map fun index ↦ place ++ [index]) ++
          others).map (·.length) = (visit :: rest).map (·.depth) := by
        rw [← hfront]
        simp [hothers, hplace, Function.comp_def]
      obtain ⟨forest, hat, htops, hnodes, hlisted⟩ :=
        ih _ htake (Nat.lt_of_succ_lt_succ hends) hdeeper
      rw [← hfront] at htops
      obtain ⟨below, beside, rfl, hbelow, hbeside⟩ := List.map_eq_append_iff.mp htops
      have hlength : below.length = children.length := by
        rw [← List.length_map visitOf, hbelow, List.length_map]
      rw [List.map_append] at hat
      obtain ⟨hbelowAt, hbesideAt⟩ := List.append_inj hat (by simp [hlength])
      have hlast : visitOf (place, node last.resource (below.map (·.2))) = last := by
        simp [visitOf, hplace]
      have hlabels : (below.map (·.2)).map (·.label) = children := by
        have hresources := congrArg (List.map (·.resource)) hbelow
        simpa [visitOf, Function.comp_def] using hresources
      have htree : nodesOf ((place, node last.resource (below.map (·.2))) :: beside) =
          (place, node last.resource (below.map (·.2))) :: nodesOf (below ++ beside) := by
        rw [← hlength] at hbelowAt
        rw [nodesOf, List.flatMap_cons, nodes, List.cons_append, nodesOf, List.flatMap_append,
          ← nodesOf_below below place 0 hbelowAt]
        rfl
      refine ⟨(place, node last.resource (below.map (·.2))) :: beside, ?_, ?_, ?_, ?_⟩
      · rw [List.map_cons, hbesideAt]
      · rw [List.map_cons, hlast, hbeside]
      · rw [htree, List.map_cons, hlast, hnodes]
      · rw [htree]
        refine .next ?_ hlisted
        rw [hlast, children_node, hlabels]
        exact hlists

/-! ### The tree of a walk -/

theorem finds_walk (h : (mapping.walk path limit? count).Finds replies (.ok visits))
    (hends : visits.length < count) :
    ∃ start opening listings others fewer, replies = opening ++ listings ∧
      (mapping.resource? path).Finds opening (.ok (some start)) ∧ visits = ⟨0, start⟩ :: others ∧
        count = fewer + 1 ∧ (take mapping limit? fewer (under ⟨0, start⟩ [])).Finds listings
          (.ok others) := by
  obtain ⟨fewer, rfl⟩ := Nat.exists_eq_add_one.mpr (Nat.zero_lt_of_lt hends)
  rw [Mapping.walk, take, finds_bind] at h
  obtain ⟨opened, later, stepped, rfl, hstep, htake⟩ := h
  rw [step, finds_bind] at hstep
  obtain ⟨opening, asked, found, rfl, hopening, hstep⟩ := hstep
  cases found with
  | error error =>
    obtain ⟨rfl, rfl⟩ := finds_pure.mp hstep
    obtain ⟨-, hvisits⟩ := finds_pure.mp htake
    cases hvisits
  | ok start? =>
    cases start? with
    | none =>
      obtain ⟨rfl, rfl⟩ := finds_pure.mp hstep
      obtain ⟨-, hvisits⟩ := finds_pure.mp htake
      cases hvisits
    | some start =>
      obtain ⟨rfl, rfl⟩ := finds_pure.mp hstep
      simp only [finds_bind, finds_pure] at htake
      obtain ⟨listings, _, taken, rfl, htake, rfl, hvisits⟩ := htake
      cases taken with
      | error error => cases hvisits
      | ok others =>
        injection hvisits with hvisits
        refine ⟨start, opening, listings, others, fewer, ?_, hopening, hvisits, rfl, htake⟩
        simp

/-- Assumes: a walk that ends, with any replies. Its visits are the nodes of a tree, and the children
of each node are those that the walk was given for it. -/
theorem exists_tree (hwalk : (mapping.walk path limit? count).Finds replies (.ok visits))
    (hends : visits.length < count) :
    ∃ (tree : Outline Resource) (opening listings : List Reply), replies = opening ++ listings ∧
      (mapping.resource? path).Finds opening (.ok (some tree.label)) ∧
        Listed mapping limit? (tree.nodes []) listings ∧ visits = (tree.nodes []).map visitOf := by
  obtain ⟨start, opening, listings, others, fewer, rfl, hopening, rfl, rfl, htake⟩ :=
    finds_walk hwalk hends
  obtain ⟨forest, hat, htops, hnodes, hlisted⟩ :=
    exists_forest [[]] htake (Nat.lt_of_succ_lt_succ hends) rfl
  obtain ⟨⟨place, tree⟩, rfl, htop⟩ := List.map_eq_singleton_iff.mp htops
  obtain rfl : place = [] := by simpa using hat
  have hnodesOf : nodesOf [([], tree)] = tree.nodes [] := by simp [nodesOf]
  rw [hnodesOf] at hnodes hlisted
  have hlabel : tree.label = start := congrArg Visit.resource htop
  exact ⟨tree, opening, listings, rfl, by rwa [hlabel], hlisted, hnodes.symm⟩

end ContentTree.Walk
