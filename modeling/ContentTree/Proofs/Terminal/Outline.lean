import ContentTree.Terminal.Outline
import Mathlib.Data.List.Basic
import Mathlib.Data.List.Chain
/-!
Outlines put together from their labels. If the labels come as they stand in an outline, each before
those below it, then every label finds a branch, gets the place of its own node, and the outline comes
out. Branches of nodes that are done with are kept, but they are as deep as the next label or deeper,
and so one of them is never found before it is put anew.
-/

set_option autoImplicit false
set_option relaxedAutoImplicit false

namespace ContentTree.Terminal.Outline

variable {α β : Type} {outline found sub : Outline α} {first second : Outline α → Outline α}
  {place branch : Place} {index : Nat}

/-! ### Changes at a place -/

@[simp] theorem label_node (label : α) (children : List (Outline α)) :
    (node label children).label = label := (rfl)

@[simp] theorem children_node (label : α) (children : List (Outline α)) :
    (node label children).children = children := (rfl)

theorem at_append (first second : Place) (outline : Outline α) :
    outline.at? (first ++ second) = (outline.at? first).bind (at? second) := by
  induction first generalizing outline with
  | nil => rfl
  | cons index first ih =>
    rw [List.cons_append, at?, at?]
    cases outline.children[index]? with
    | none => rfl
    | some child => exact ih child

/-- What is at a place below the top is a child of what is at the place above. -/
theorem at_concat {branch : Place} {index : Nat} {outline sub : Outline α} :
    outline.at? (branch ++ [index]) = some sub ↔
      ∃ parent, outline.at? branch = some parent ∧ parent.children[index]? = some sub := by
  have hlast (parent : Outline α) : parent.at? [index] = parent.children[index]? := by
    rw [at?]
    cases parent.children[index]? <;> rfl
  simp only [at_append, Option.bind_eq_some_iff, hlast]

theorem modifyAt_append (change : Outline α → Outline α) (first second : Place)
    (outline : Outline α) :
    outline.modifyAt change (first ++ second) =
      outline.modifyAt (modifyAt change second) first := by
  induction first generalizing outline with
  | nil => rfl
  | cons index first ih =>
    rw [List.cons_append, modifyAt, modifyAt]
    cases outline.children[index]? with
    | none => rfl
    | some child => simp only [ih]

theorem at_modifyAt (change : Outline α → Outline α) (h : outline.at? place = some found) :
    (outline.modifyAt change place).at? place = some (change found) := by
  induction place generalizing outline with
  | nil =>
    rw [at?, Option.some.injEq] at h
    rw [h]
    rfl
  | cons index place ih =>
    rw [at?] at h
    rw [modifyAt]
    cases hchild : outline.children[index]? with
    | none =>
      rw [hchild] at h
      cases h
    | some child =>
      rw [hchild] at h
      obtain ⟨hindex, -⟩ := List.getElem?_eq_some_iff.mp hchild
      simpa [at?, hindex] using ih h

/-- Two changes at a place are one. -/
theorem modifyAt_modifyAt (second first : Outline α → Outline α) (place : Place)
    (outline : Outline α) :
    (outline.modifyAt first place).modifyAt second place =
      outline.modifyAt (second ∘ first) place := by
  induction place generalizing outline with
  | nil => rfl
  | cons index place ih =>
    rw [modifyAt, modifyAt]
    cases hchild : outline.children[index]? with
    | none => simp only [modifyAt, hchild]
    | some child =>
      obtain ⟨hindex, -⟩ := List.getElem?_eq_some_iff.mp hchild
      simp only [modifyAt, hchild, label_node, children_node, List.getElem?_set_self hindex,
        List.set_set, ih]

/-- A change depends only on what it does to the outline at the place. -/
theorem modifyAt_congr (h : outline.at? place = some found) (hchange : first found = second found) :
    outline.modifyAt first place = outline.modifyAt second place := by
  induction place generalizing outline with
  | nil =>
    rw [at?, Option.some.injEq] at h
    rw [modifyAt, modifyAt, h, hchange]
  | cons index place ih =>
    rw [at?] at h
    rw [modifyAt, modifyAt]
    cases hchild : outline.children[index]? with
    | none => rfl
    | some child =>
      rw [hchild] at h
      simp only [ih h]

theorem modifyAt_eq_self (h : outline.at? place = some found) (hchange : first found = found) :
    outline.modifyAt first place = outline := by
  induction place generalizing outline with
  | nil =>
    rw [at?, Option.some.injEq] at h
    rw [modifyAt, h, hchange]
  | cons index place ih =>
    rw [at?] at h
    rw [modifyAt]
    cases hchild : outline.children[index]? with
    | none => rfl
    | some child =>
      rw [hchild] at h
      obtain ⟨hindex, hget⟩ := List.getElem?_eq_some_iff.mp hchild
      cases outline with
      | node label children =>
        simp only [ih h]
        rw [← hget, List.set_getElem_self]
        rfl

theorem hang_nil (outline : Outline α) : outline.hang [] = outline := by
  cases outline with
  | node label children => rw [hang, List.append_nil]; rfl

theorem hang_hang (outline : Outline α) (first second : List (Outline α)) :
    (outline.hang first).hang second = outline.hang (first ++ second) := by
  cases outline with
  | node label children => simp [hang]

/-- What was hung last is at the place after the others. -/
theorem at_hung (h : outline.at? place = some found) (below : Outline α) :
    (outline.modifyAt (hang [below]) place).at? (place ++ [found.children.length]) =
      some below := by
  rw [at_append, at_modifyAt _ h]
  simp [at?, hang]

/-- A change of what was hung last is as good as hanging it changed. -/
theorem modifyAt_hung (h : outline.at? place = some found) (change : Outline α → Outline α)
    (below : Outline α) :
    (outline.modifyAt (hang [below]) place).modifyAt change (place ++ [found.children.length]) =
      outline.modifyAt (hang [change below]) place := by
  rw [modifyAt_append, modifyAt_modifyAt]
  refine modifyAt_congr h ?_
  simp [modifyAt, hang]

theorem label_modifyAt (below : List (Outline α)) (branch : Place) (outline : Outline α) :
    (outline.modifyAt (hang below) branch).label = outline.label := by
  cases branch with
  | nil => rfl
  | cons index branch =>
    rw [modifyAt]
    split
    · rfl
    · rfl

/-- What is at a place keeps its place and its label when something is hung anywhere. -/
theorem exists_at_modifyAt (h : outline.at? place = some found) (below : List (Outline α))
    (branch : Place) :
    ∃ later, (outline.modifyAt (hang below) branch).at? place = some later ∧
      later.label = found.label := by
  induction place generalizing outline branch with
  | nil =>
    rw [at?, Option.some.injEq] at h
    exact ⟨_, rfl, by rw [label_modifyAt, h]⟩
  | cons index place ih =>
    rw [at?] at h
    cases hchild : outline.children[index]? with
    | none =>
      rw [hchild] at h
      cases h
    | some child =>
      rw [hchild] at h
      obtain ⟨hindex, -⟩ := List.getElem?_eq_some_iff.mp hchild
      cases branch with
      | nil =>
        refine ⟨found, ?_, rfl⟩
        rw [modifyAt, hang, at?, children_node, List.getElem?_append_left hindex, hchild]
        exact h
      | cons other branch =>
        rw [modifyAt]
        cases hother : outline.children[other]? with
        | none => exact ⟨found, by rw [at?, hchild]; exact h, rfl⟩
        | some changed =>
          simp only [at?, children_node]
          by_cases hsame : other = index
          · subst hsame
            obtain rfl : child = changed := Option.some.inj (hchild.symm.trans hother)
            rw [List.getElem?_set_self hindex]
            exact ih h branch
          · rw [List.getElem?_set_ne hsame, hchild]
            exact ⟨found, h, rfl⟩

/-! ### The nodes of an outline -/

mutual

/-- The nodes of an outline at a place, with their places, each before those below it. -/
def nodes (place : Place) : Outline α → List (Place × Outline α)
  | node label children => (place, node label children) :: nodesFrom place 0 children

/-- The nodes of outlines below a place, of which the first has a certain index there. -/
def nodesFrom (place : Place) (index : Nat) : List (Outline α) → List (Place × Outline α)
  | [] => []
  | outline :: rest => nodes (place ++ [index]) outline ++ nodesFrom place (index + 1) rest

end

/-- The depth of a node and its label. -/
def entry (node : Place × Outline α) : Nat × α := (node.1.length, node.2.label)

theorem nodes_eq (place : Place) (outline : Outline α) :
    outline.nodes place = (place, outline) :: nodesFrom place 0 outline.children := by
  cases outline with
  | node label children => rw [nodes, children_node]

mutual

theorem at_of_mem_nodes {node : Place × Outline α} (outline : Outline α) {place : Place}
    (h : node ∈ outline.nodes place) :
    ∃ way, node.1 = place ++ way ∧ outline.at? way = some node.2 := by
  cases outline with
  | node label children =>
    rcases List.mem_cons.mp h with rfl | hbelow
    · exact ⟨[], (List.append_nil place).symm, rfl⟩
    · obtain ⟨index, child, way, hplace, hchild, hway⟩ := at_of_mem_nodesFrom children hbelow
      refine ⟨index :: way, by rw [hplace, Nat.zero_add], ?_⟩
      rw [at?, children_node, hchild]
      exact hway

theorem at_of_mem_nodesFrom {node : Place × Outline α} (outlines : List (Outline α)) {place : Place}
    {start : Nat} (h : node ∈ nodesFrom place start outlines) :
    ∃ index child way, node.1 = place ++ (start + index) :: way ∧
      outlines[index]? = some child ∧ child.at? way = some node.2 := by
  cases outlines with
  | nil => cases h
  | cons outline rest =>
    rcases List.mem_append.mp h with hfirst | hrest
    · obtain ⟨way, hplace, hway⟩ := at_of_mem_nodes outline hfirst
      exact ⟨0, outline, way, by simpa using hplace, rfl, hway⟩
    · obtain ⟨index, child, way, hplace, hchild, hway⟩ := at_of_mem_nodesFrom rest hrest
      refine ⟨index + 1, child, way, ?_, hchild, hway⟩
      rw [hplace, Nat.add_right_comm, Nat.add_assoc]

end

/-- Whether a depth can come after another: it is below the first one, and it goes down by one level
at most. -/
def Follows (depth next : Nat) : Prop := 1 ≤ next ∧ next ≤ depth + 1

mutual

theorem isChain_nodes (outline : Outline α) (place : Place) :
    ((outline.nodes place).map (·.1.length)).IsChain Follows := by
  cases outline with
  | node label children =>
    rw [nodes, List.map_cons, List.isChain_cons]
    obtain ⟨hhead, hchain⟩ := isChain_nodesFrom children place 0
    refine ⟨fun depth hdepth ↦ ?_, hchain⟩
    rw [hhead depth hdepth]
    exact ⟨Nat.le_add_left 1 place.length, le_rfl⟩

theorem isChain_nodesFrom (outlines : List (Outline α)) (place : Place) (start : Nat) :
    (∀ depth ∈ ((nodesFrom place start outlines).map (·.1.length)).head?,
      depth = place.length + 1) ∧
    ((nodesFrom place start outlines).map (·.1.length)).IsChain Follows := by
  cases outlines with
  | nil => exact ⟨by simp [nodesFrom], List.isChain_nil⟩
  | cons outline rest =>
    obtain ⟨hhead, hchain⟩ := isChain_nodesFrom rest place (start + 1)
    rw [nodesFrom, List.map_append, List.isChain_append]
    refine ⟨fun depth hdepth ↦ ?_, isChain_nodes outline _, hchain, fun last hlast depth hdepth ↦ ?_⟩
    · rw [nodes_eq, List.map_cons, List.cons_append, List.head?_cons, Option.mem_some_iff] at hdepth
      rw [← hdepth, List.length_append, List.length_singleton]
    · -- What is below the outline before is at least as deep as that outline.
      obtain ⟨node, hnode, rfl⟩ := List.mem_map.mp (List.mem_of_mem_getLast? hlast)
      obtain ⟨way, hplace, -⟩ := at_of_mem_nodes outline hnode
      rw [hhead depth hdepth, hplace]
      exact ⟨Nat.le_add_left 1 place.length, by simp⟩

end

/-! ### Outlines with other labels -/

mutual

/-- An outline with other labels. -/
def map (f : α → β) : Outline α → Outline β
  | node label children => node (f label) (mapAll f children)

/-- Outlines with other labels. -/
def mapAll (f : α → β) : List (Outline α) → List (Outline β)
  | [] => []
  | outline :: rest => map f outline :: mapAll f rest

end

@[simp] theorem label_map (f : α → β) (outline : Outline α) :
    (outline.map f).label = f outline.label := by
  cases outline with
  | node label children => rw [map, label_node, label_node]

theorem mapAll_eq_map (f : α → β) (outlines : List (Outline α)) :
    mapAll f outlines = outlines.map (map f) := by
  induction outlines with
  | nil => rfl
  | cons outline rest ih => rw [mapAll, List.map_cons, ih]

theorem at_map (f : α → β) (place : Place) (outline : Outline α) :
    (outline.map f).at? place = (outline.at? place).map (map f) := by
  induction place generalizing outline with
  | nil => rfl
  | cons index place ih =>
    cases outline with
    | node label children =>
      rw [map, at?, at?, children_node, children_node, mapAll_eq_map, List.getElem?_map]
      cases children[index]? with
      | none => rfl
      | some child => exact ih child

mutual

theorem nodes_map (f : α → β) (outline : Outline α) (place : Place) :
    (outline.map f).nodes place = (outline.nodes place).map fun node ↦ (node.1, node.2.map f) := by
  cases outline with
  | node label children => rw [map, nodes, nodes, nodesFrom_mapAll f children place 0]; rfl

theorem nodesFrom_mapAll (f : α → β) (outlines : List (Outline α)) (place : Place) (start : Nat) :
    nodesFrom place start (mapAll f outlines) =
      (nodesFrom place start outlines).map fun node ↦ (node.1, node.2.map f) := by
  cases outlines with
  | nil => rfl
  | cons outline rest =>
    rw [mapAll, nodesFrom, nodesFrom, List.map_append, nodes_map f outline,
      nodesFrom_mapAll f rest place]

end

/-! ### Drafts -/

namespace Draft

variable {draft middle later : Draft α} {below more : List (Outline α)}

/-- The place that a label of a depth is going to have, after those that hang below its branch. -/
def slot? (draft : Draft α) (depth : Nat) : Option Place :=
  (draft.branch? depth).bind fun branch ↦
    (draft.outline.at? branch).map fun found ↦ branch ++ [found.children.length]

/-- The places that labels get, one after the other. -/
def slots : Draft α → List (Nat × α) → List (Option Place)
  | _, [] => []
  | draft, entry :: rest => draft.slot? entry.1 :: slots (draft.add entry.1 entry.2) rest

theorem addAll_append (draft : Draft α) (first second : List (Nat × α)) :
    draft.addAll (first ++ second) = (draft.addAll first).addAll second :=
  List.foldl_append

/-- The place that a label gets after others. -/
theorem slots_getElem (draft : Draft α) (first second : List (Nat × α)) (entry : Nat × α) :
    (draft.slots (first ++ entry :: second))[first.length]? =
      some ((draft.addAll first).slot? entry.1) := by
  induction first generalizing draft with
  | nil => rfl
  | cons earlier first ih =>
    rw [List.cons_append, slots, List.length_cons, List.getElem?_cons_succ, ih]
    rfl

theorem slots_append (draft : Draft α) (first second : List (Nat × α)) :
    draft.slots (first ++ second) = draft.slots first ++ (draft.addAll first).slots second := by
  induction first generalizing draft with
  | nil => rfl
  | cons entry rest ih =>
    rw [List.cons_append, slots, slots, ih, List.cons_append]
    rfl

theorem exists_at_add (h : draft.outline.at? place = some found) (depth : Nat) (label : α) :
    ∃ later, (draft.add depth label).outline.at? place = some later ∧
      later.label = found.label := by
  unfold add
  split
  · exact ⟨found, h, rfl⟩
  · exact exists_at_modifyAt h _ _

/-- What is in a draft stays where it is, with its label. -/
theorem exists_at_addAll (h : draft.outline.at? place = some found) (labels : List (Nat × α)) :
    ∃ later, (draft.addAll labels).outline.at? place = some later ∧ later.label = found.label := by
  induction labels generalizing draft found with
  | nil => exact ⟨found, h, rfl⟩
  | cons entry rest ih =>
    obtain ⟨next, hnext, hlabel⟩ := exists_at_add h entry.1 entry.2
    obtain ⟨later, hlater, hsame⟩ := ih hnext
    exact ⟨later, hlater, hsame.trans hlabel⟩

theorem lookup_filter_ne {key other : Nat} (hne : other ≠ key) (branches : List (Nat × Place)) :
    (branches.filter (·.1 != key)).lookup other = branches.lookup other := by
  induction branches with
  | nil => rfl
  | cons branch rest ih =>
    obtain ⟨depth, place⟩ := branch
    by_cases hkey : depth = key
    · have hother : (other == depth) = false := by simpa [hkey] using hne
      rw [List.filter_cons_of_neg (by simp [hkey]), ih, List.lookup_cons, hother]
    · rw [List.filter_cons_of_pos (by simp [hkey]), List.lookup_cons, List.lookup_cons, ih]

/-- Whether a place is the branch at its depth and leads to an outline. -/
structure Open (draft : Draft α) (branch : Place) (found : Outline α) : Prop where
  lookup_eq : draft.branches.lookup branch.length = some branch
  at_eq : draft.outline.at? branch = some found

/-- Whether all that was done to a draft is that outlines were hung at a place. Branches that are not
deeper than the place are the same. -/
structure Hung (draft : Draft α) (branch : Place) (below : List (Outline α)) (later : Draft α) :
    Prop where
  outline_eq : later.outline = draft.outline.modifyAt (hang below) branch
  lookup_eq : ∀ depth ≤ branch.length, later.branches.lookup depth = draft.branches.lookup depth

theorem Hung.trans (hfirst : draft.Hung branch below middle) (hsecond : middle.Hung branch more later) :
    draft.Hung branch (below ++ more) later where
  outline_eq := by
    rw [hsecond.outline_eq, hfirst.outline_eq, modifyAt_modifyAt]
    exact congrArg (modifyAt · branch draft.outline) (funext fun outline ↦ hang_hang outline below more)
  lookup_eq depth hdepth := (hsecond.lookup_eq depth hdepth).trans (hfirst.lookup_eq depth hdepth)

theorem Hung.open_later (h : draft.Hung branch below later) (hopen : draft.Open branch found) :
    later.Open branch (found.hang below) where
  lookup_eq := (h.lookup_eq _ le_rfl).trans hopen.lookup_eq
  at_eq := by rw [h.outline_eq, at_modifyAt _ hopen.at_eq]

/-- Below a place nothing is hung. -/
theorem Open.hung_nil (h : draft.Open branch found) : draft.Hung branch [] draft where
  outline_eq := (modifyAt_eq_self h.at_eq (hang_nil found)).symm
  lookup_eq _ _ := rfl

theorem Open.branch_eq (h : draft.Open branch found) :
    draft.branch? (branch.length + 1) = some branch := h.lookup_eq

theorem Open.nextIndex_eq (h : draft.Open branch found) :
    draft.nextIndex branch = found.children.length := by
  rw [nextIndex, h.at_eq]
  rfl

theorem Open.slot_eq (h : draft.Open branch found) :
    draft.slot? (branch.length + 1) = some (branch ++ [found.children.length]) := by
  rw [slot?, h.branch_eq, Option.bind_some, h.at_eq, Option.map_some]

theorem Open.add_eq (h : draft.Open branch found) (label : α) :
    draft.add (branch.length + 1) label =
      { outline := draft.outline.modifyAt (hang [node label []]) branch
        branches := (branch.length + 1, branch ++ [found.children.length]) ::
          draft.branches.filter (·.1 != branch.length + 1) } := by
  simp only [add, h.branch_eq, h.nextIndex_eq]

/-- A label hung at a place. -/
theorem Open.hung_add (h : draft.Open branch found) (label : α) :
    draft.Hung branch [node label []] (draft.add (branch.length + 1) label) where
  outline_eq := by rw [h.add_eq]
  lookup_eq depth hdepth := by
    have hless : (depth == branch.length + 1) = false := beq_false_of_ne (by omega)
    rw [h.add_eq, List.lookup_cons, hless]
    exact lookup_filter_ne (by omega) draft.branches

/-- It is a branch itself. -/
theorem Open.open_add (h : draft.Open branch found) (label : α) :
    (draft.add (branch.length + 1) label).Open (branch ++ [found.children.length])
      (node label []) where
  lookup_eq := by
    rw [h.add_eq, List.length_append, List.length_singleton]
    exact List.lookup_cons_self
  at_eq := by
    rw [h.add_eq]
    exact at_hung h.at_eq _

/-- What is hung below a label that was hung last belongs to what is hung. -/
theorem Hung.hung_below (hfirst : draft.Hung branch [sub] middle) (hopen : draft.Open branch found)
    (hsecond : middle.Hung (branch ++ [found.children.length]) below later) :
    draft.Hung branch [sub.hang below] later where
  outline_eq := by rw [hsecond.outline_eq, hfirst.outline_eq, modifyAt_hung hopen.at_eq]
  lookup_eq depth hdepth := by
    rw [hsecond.lookup_eq depth (by simp; omega), hfirst.lookup_eq depth hdepth]

mutual

/-- The labels of an outline are hung as the outline, each at the place of its node. -/
theorem Open.hung_nodes (outline : Outline α) {draft : Draft α} {branch : Place} {found : Outline α}
    (h : draft.Open branch found) :
    draft.Hung branch [outline]
        (draft.addAll ((outline.nodes (branch ++ [found.children.length])).map entry)) ∧
      draft.slots ((outline.nodes (branch ++ [found.children.length])).map entry) =
        (outline.nodes (branch ++ [found.children.length])).map fun node ↦ some node.1 := by
  cases outline with
  | node label children =>
    have hentry : entry (branch ++ [found.children.length], node label children) =
        (branch.length + 1, label) := by simp [entry]
    obtain ⟨hbelow, hslots⟩ := (h.open_add label).hung_nodesFrom children
    rw [nodes, List.map_cons, List.map_cons, hentry, slots, h.slot_eq]
    exact ⟨(h.hung_add label).hung_below h hbelow, congrArg _ hslots⟩

/-- The labels of outlines are hung as the outlines, each at the place of its node. -/
theorem Open.hung_nodesFrom (outlines : List (Outline α)) {draft : Draft α} {branch : Place}
    {found : Outline α} (h : draft.Open branch found) :
    draft.Hung branch outlines
        (draft.addAll ((nodesFrom branch found.children.length outlines).map entry)) ∧
      draft.slots ((nodesFrom branch found.children.length outlines).map entry) =
        (nodesFrom branch found.children.length outlines).map fun node ↦ some node.1 := by
  cases outlines with
  | nil => exact ⟨h.hung_nil, rfl⟩
  | cons outline rest =>
    obtain ⟨hfirst, hfirstSlots⟩ := h.hung_nodes outline
    have hlength : (found.hang [outline]).children.length = found.children.length + 1 := by
      simp [hang]
    obtain ⟨hrest, hrestSlots⟩ := (hfirst.open_later h).hung_nodesFrom rest
    rw [hlength] at hrest hrestSlots
    rw [nodesFrom, List.map_append, addAll_append, slots_append, List.map_append, hfirstSlots,
      hrestSlots]
    exact ⟨hfirst.trans hrest, rfl⟩

end

theorem open_start (label : α) : (start label).Open [] (node label []) := ⟨rfl, rfl⟩

end Draft

/-- The labels below the first, as they stand in an outline, are put together to the outline. Each is
hung at the place of its node. -/
theorem ofLabels_nodes (outline : Outline α) :
    ofLabels outline.label ((outline.nodes []).tail.map entry) = outline ∧
      (Draft.start outline.label).slots ((outline.nodes []).tail.map entry) =
        (outline.nodes []).tail.map fun node ↦ some node.1 := by
  cases outline with
  | node label children =>
    obtain ⟨hung, hslots⟩ := (Draft.open_start label).hung_nodesFrom children
    exact ⟨hung.outline_eq, hslots⟩

end ContentTree.Terminal.Outline
