import ContentTree.Proofs.CommandLine.Report
import ContentTree.Proofs.Provider.Preorder
import ContentTree.Proofs.Provider.Tree
/-!
The tree of a walk as it is reported. The report is put together from the visits by their depths alone.
It is the tree that the walk has found nevertheless: the depths are those of nodes in their order, so
that each label is hung below the node of the resource whose children were listed when it came up.
-/

set_option autoImplicit false
set_option relaxedAutoImplicit false

namespace ContentTree.CommandLine

open ContentTree.Lookup (Reply)
open ContentTree.Terminal ContentTree.Terminal.Outline ContentTree.Walk

variable {mapping : Mapping} {limit? : Option Int} {count : Nat} {path : String}
  {visits : List Visit} {replies : List Reply} {render : Renderer} {isLiteral : String → Bool}

/-! ### Labels -/

/-- The label of a resource with a text. -/
def shownLabel (render : Renderer) (resource : Resource) (text : String) : String :=
  ((shownText render (styled (styleOf resource) text)).toOption).getD ""

theorem shownText_label (hlawful : IsLawful render) (resource : Resource) (text : String) :
    shownText render (styled (styleOf resource) text) = .ok (shownLabel render resource text) := by
  obtain ⟨label, hlabel⟩ := isOk_iff.mp (isOk_shownText.mpr (hlawful.label resource text))
  rw [shownLabel, hlabel]
  rfl

/-- The label of a resource at a place in the tree. The first one has its path, others their names. -/
def labelAt (render : Renderer) (place : Place) (resource : Resource) : String :=
  if place.isEmpty then shownLabel render resource resource.path
  else shownLabel render resource resource.name

/-- The label of a visit below the first, with its depth. -/
def entryOf (render : Renderer) (visit : Visit) : Nat × String :=
  (visit.depth, shownLabel render visit.resource visit.resource.name)

/-- The tree of a first resource and visits after it, while it is put together. -/
def treeDraft (render : Renderer) (start : Resource) (visits : List Visit) : Draft String :=
  (Draft.start (shownLabel render start start.path)).addAll (visits.map (entryOf render))

/-- A tree of resources as an outline of their labels. -/
def drawn (render : Renderer) (tree : Outline Resource) : Outline String :=
  node (labelAt render [] tree.label)
    (mapAll (fun resource ↦ shownLabel render resource resource.name) tree.children)

theorem treeReport_eq (hlawful : IsLawful render) (start : Resource) (visits : List Visit) :
    treeReport render (⟨0, start⟩ :: visits) =
      .ok (treeDraft render start visits).outline.printed := by
  have hlabels : (visits.mapM fun visit : Visit ↦
      (shownText render (styled (styleOf visit.resource) visit.resource.name)).map fun label ↦
        (visit.depth - 0, label)) = .ok (visits.map (entryOf render)) := by
    simp only [shownText_label hlawful, Except.map, Nat.sub_zero]
    exact List.mapM_pure
  rw [treeReport, shownText_label hlawful]
  simp only [hlabels, bind, Except.bind, pure, Except.pure]
  rfl

theorem at_drawn {tree sub : Outline Resource} {place : Place} (h : tree.at? place = some sub) :
    ∃ found, (drawn render tree).at? place = some found ∧
      found.label = labelAt render place sub.label := by
  cases place with
  | nil =>
    rw [at?, Option.some.injEq] at h
    exact ⟨drawn render tree, rfl, by rw [h, drawn, label_node]⟩
  | cons index place =>
    refine ⟨sub.map fun resource ↦ shownLabel render resource resource.name, ?_, ?_⟩
    · -- Below the top the labels are those of any outline with other labels.
      have hbelow := at_map (fun resource : Resource ↦ shownLabel render resource resource.name)
        (index :: place) tree
      rw [h, Option.map_some] at hbelow
      rw [← hbelow]
      cases tree with
      | node label children => rw [drawn, Outline.map, at?, at?, children_node, children_node]; rfl
    · rw [label_map]
      rfl

/-- The labels below the first are those of the visits of the tree. -/
theorem tail_nodes_drawn (tree : Outline Resource) :
    (((drawn render tree).nodes []).tail).map entry =
        (((tree.nodes []).tail).map visitOf).map (entryOf render) ∧
      ((drawn render tree).nodes []).tail.map (fun node ↦ some node.1) =
        (tree.nodes []).tail.map fun node ↦ some node.1 := by
  rw [nodes_eq, nodes_eq, List.tail_cons, List.tail_cons, drawn, children_node, nodesFrom_mapAll]
  simp only [List.map_map]
  refine ⟨List.map_congr_left fun node _ ↦ ?_, rfl⟩
  simp [entry, entryOf, visitOf]

/-! ### The tree of a walk -/

/-- Assumes: visits that are the nodes of a tree. The report is that tree. -/
theorem treeDraft_outline (tree : Outline Resource) :
    (treeDraft render tree.label ((tree.nodes []).tail.map visitOf)).outline =
      drawn render tree := by
  rw [treeDraft, ← (tail_nodes_drawn tree).1]
  exact (ofLabels_nodes (drawn render tree)).1

/-- What the draft of some visits has at a place keeps its label until the tree is complete. -/
theorem label_of_treeDraft {tree parent : Outline Resource} {earlier later : List Visit}
    {branch : Place} {found : Outline String}
    (h : (tree.nodes []).tail.map visitOf = earlier ++ later)
    (hfound : (treeDraft render tree.label earlier).outline.at? branch = some found)
    (hparent : tree.at? branch = some parent) :
    found.label = labelAt render branch parent.label := by
  obtain ⟨full, hfull, hkept⟩ := Draft.exists_at_addAll hfound (later.map (entryOf render))
  have houtline := @treeDraft_outline render tree
  rw [treeDraft, h, List.map_append, Draft.addAll_append] at houtline
  obtain ⟨shown, hshown, hlabel⟩ := @at_drawn render _ _ _ hparent
  rw [treeDraft, houtline, hshown, Option.some.injEq] at hfull
  rw [← hkept, ← hfull, hlabel]

/-- Each visit after the first finds a branch in the draft of the visits before it. That is the place
of a resource, and the visit is the next one of its children. -/
theorem exists_branch (tree : Outline Resource) {earlier later : List Visit} {current : Visit}
    (h : (tree.nodes []).tail.map visitOf = earlier ++ current :: later) :
    ∃ branch found parent sub,
      (treeDraft render tree.label earlier).branch? current.depth = some branch ∧
      (treeDraft render tree.label earlier).outline.at? branch = some found ∧
      tree.at? branch = some parent ∧ found.label = labelAt render branch parent.label ∧
      parent.children[found.children.length]? = some sub ∧
      current = visitOf (branch ++ [found.children.length], sub) ∧
      (tree.nodes [])[earlier.length + 1]? = some (branch ++ [found.children.length], sub) := by
  obtain ⟨hlabels, hplaces⟩ := @tail_nodes_drawn render tree
  obtain ⟨-, hslots⟩ := ofLabels_nodes (drawn render tree)
  have htop : (drawn render tree).label = shownLabel render tree.label tree.label.path := rfl
  rw [hlabels, hplaces, h, htop, List.map_append, List.map_cons] at hslots
  have hslot := Draft.slots_getElem (Draft.start (shownLabel render tree.label tree.label.path))
    (earlier.map (entryOf render)) (later.map (entryOf render)) (entryOf render current)
  rw [hslots, List.length_map, List.getElem?_map] at hslot
  obtain ⟨node, hnode, hplace⟩ := Option.map_eq_some_iff.mp hslot
  obtain ⟨branch, hbranch, hfound⟩ := Option.bind_eq_some_iff.mp hplace.symm
  obtain ⟨found, hfound, hslotPlace⟩ := Option.map_eq_some_iff.mp hfound
  have hcurrent : visitOf node = current := by
    have hget : ((tree.nodes []).tail.map visitOf)[earlier.length]? = some current := by simp [h]
    rwa [List.getElem?_map, hnode, Option.map_some, Option.some.injEq] at hget
  have hmem : node ∈ tree.nodes [] := List.mem_of_mem_tail (List.mem_of_getElem? hnode)
  obtain ⟨way, hway, hat⟩ := at_of_mem_nodes tree hmem
  rw [List.nil_append] at hway
  rw [← hway, ← hslotPlace] at hat
  obtain ⟨parent, hparent, hchild⟩ := at_concat.mp hat
  have hpair : node = (branch ++ [found.children.length], node.2) := by rw [hslotPlace]
  have hlabel := label_of_treeDraft h hfound hparent
  refine ⟨branch, found, parent, node.2, hbranch, hfound, hparent, hlabel, hchild, ?_, ?_⟩
  · rw [← hpair, hcurrent]
  · rw [← hpair, ← hnode, List.getElem?_tail]

/-- Assumes: a walk that ends, whatever it was answered. Its visits are those of a tree with the
children that were listed. The depths begin with zero, and each next one is at least one and goes down
by one level at most. A visit after the first finds a branch among those of the visits before it, and
this is the node of the resource among whose listed children it came up, at the place after those that
came up before. The outline put together from all visits is the tree with its labels, and the report
is its print. -/
theorem treeReport_follows_walk
    (hwalk : (mapping.walk path limit? count).Finds replies (.ok visits))
    (hends : visits.length < count) :
    ∃ (tree : Outline Resource) (opening listings : List Reply), replies = opening ++ listings ∧
      (mapping.resource? path).Finds opening (.ok (some tree.label)) ∧
      Listed mapping limit? (tree.nodes []) listings ∧
      visits = (tree.nodes []).map visitOf ∧
      (visits.map (·.depth)).head? = some 0 ∧ (visits.map (·.depth)).IsChain Follows ∧
      (∀ earlier current later, visits = ⟨0, tree.label⟩ :: (earlier ++ current :: later) →
        ∃ branch found parent sub,
          (treeDraft (plainText isLiteral) tree.label earlier).branch? current.depth = some branch ∧
          (treeDraft (plainText isLiteral) tree.label earlier).outline.at? branch = some found ∧
          tree.at? branch = some parent ∧
          found.label = labelAt (plainText isLiteral) branch parent.label ∧
          parent.children[found.children.length]? = some sub ∧
          current = visitOf (branch ++ [found.children.length], sub) ∧
          (tree.nodes [])[earlier.length + 1]? =
            some (branch ++ [found.children.length], sub)) ∧
      (treeDraft (plainText isLiteral) tree.label visits.tail).outline =
        drawn (plainText isLiteral) tree ∧
      treeReport (plainText isLiteral) visits = .ok (drawn (plainText isLiteral) tree).printed := by
  obtain ⟨tree, opening, listings, rfl, hopening, hlisted, rfl⟩ := exists_tree hwalk hends
  have hfirst : (tree.nodes []).map visitOf =
      ⟨0, tree.label⟩ :: (tree.nodes []).tail.map visitOf := by
    rw [nodes_eq, List.map_cons, List.tail_cons]
    rfl
  have hdepths : ((tree.nodes []).map visitOf).map (·.depth) =
      (tree.nodes []).map (·.1.length) := by
    rw [List.map_map]
    rfl
  refine ⟨tree, opening, listings, rfl, hopening, hlisted, rfl, ?_, ?_, ?_, ?_, ?_⟩
  · rw [hfirst]
    rfl
  · rw [hdepths]
    exact isChain_nodes tree []
  · intro earlier current later hsplit
    rw [hfirst, List.cons.injEq] at hsplit
    exact exists_branch tree hsplit.2
  · rw [hfirst, List.tail_cons, treeDraft_outline]
  · rw [hfirst, treeReport_eq (isLawful_plainText isLiteral), treeDraft_outline]

/-- The walk through a folder with a folder that holds a file. The file is hung below that folder. -/
theorem fileInFolder_drawn :
    ∃ (replies : List Reply) (tree : Outline Resource),
      ((Mapping.mk "jcr_root" none).walk "/" none 4).Finds replies (.ok fileInFolderVisits) ∧
      fileInFolderVisits.length < 4 ∧ tree.label = .folder "/" "jcr_root" ∧
      (∃ branch found,
        (treeDraft (plainText isEmptyTuple) tree.label [⟨1, .folder "/a" "jcr_root/a"⟩]).branch? 2 =
          some branch ∧
        (treeDraft (plainText isEmptyTuple) tree.label
          [⟨1, .folder "/a" "jcr_root/a"⟩]).outline.at? branch = some found) ∧
      (treeDraft (plainText isEmptyTuple) tree.label fileInFolderVisits.tail).outline =
        drawn (plainText isEmptyTuple) tree ∧
      treeReport (plainText isEmptyTuple) fileInFolderVisits =
        .ok (drawn (plainText isEmptyTuple) tree).printed := by
  obtain ⟨replies, hreplies⟩ := Lookup.finds_on fileInFolder
    ((Mapping.mk "jcr_root" none).walk "/" none 4)
  rw [endsWith_fileInFolder 4 (by decide)] at hreplies
  obtain ⟨tree, -, -, -, -, -, hvisits, -, -, hbranches, houtline, hreport⟩ :=
    treeReport_follows_walk hreplies (by decide)
  rw [nodes_eq, List.map_cons, fileInFolderVisits, List.cons.injEq] at hvisits
  have hlabel : tree.label = .folder "/" "jcr_root" := (congrArg Visit.resource hvisits.1).symm
  obtain ⟨branch, found, -, -, hbranch, hfound, -⟩ :=
    hbranches [⟨1, .folder "/a" "jcr_root/a"⟩] ⟨2, .file "/a/b.txt" "jcr_root/a/b.txt"⟩ []
      (by rw [hlabel]; rfl)
  exact ⟨replies, tree, hreplies, by decide, hlabel, ⟨branch, found, hbranch, hfound⟩, houtline,
    hreport⟩

end ContentTree.CommandLine
