import ContentTree.Proofs.Mapping.Ancestors
/-!
In which order descriptors are looked through. From a path the way goes up name by name, and at each
path the sidecar comes before the descriptor next to it; the names left behind lead to the node
inside the descriptor. The first descriptor on the way that defines the node is the one found, and
the view of it keeps the path that was asked for.
-/

set_option autoImplicit false
set_option relaxedAutoImplicit false

namespace ContentTree

open ContentTree.Text ContentTree.Path ContentTree.Storage
open ContentTree.Descriptor ContentTree.Descriptor.Element

variable {names front : List String} {name : String} {steps : Nat} {rest? : Option String}

/-! ### The way up -/

/-- The paths of the initial parts of some names, the longest first. -/
def Path.wayUp (names : List String) : List String :=
  (List.range (names.length + 1)).reverse.map fun count ↦ ofNames (names.take count)

theorem Path.wayUp_nil : wayUp [] = [ofNames []] := rfl

theorem Path.wayUp_concat (front : List String) (name : String) :
    wayUp (front ++ [name]) = ofNames (front ++ [name]) :: wayUp front := by
  have hfront : ∀ count ∈ (List.range (front.length + 1)).reverse,
      ofNames ((front ++ [name]).take count) = ofNames (front.take count) := by
    intro count hcount
    rw [List.take_append_of_le_length]
    simpa [Nat.lt_succ_iff] using hcount
  rw [wayUp, List.length_append, List.length_singleton, List.range_succ, List.reverse_append,
    List.reverse_singleton, List.singleton_append, List.map_cons, List.map_congr_left hfront,
    List.take_of_length_le (by simp)]
  rfl

/-- Assumes: enough steps. The way up from a normalized path ends at the root. -/
theorem Path.climb_eq_wayUp (hnames : ∀ name ∈ names, IsName name) (hsteps : names.length ≤ steps) :
    climb steps (ofNames names) = wayUp names := by
  induction names using List.reverseRecOn generalizing steps with
  | nil => cases steps <;> simp [climb, wayUp, parent?]
  | append_singleton front name ih =>
    rw [List.length_append, List.length_singleton] at hsteps
    obtain ⟨fewer, rfl⟩ := Nat.exists_eq_add_of_lt hsteps
    rw [climb, parent_ofNames_concat hnames, wayUp_concat]
    simp only
    rw [ih (List.forall_mem_append.mp hnames).1 (by omega)]

namespace Mapping

variable {mapping : Mapping} {disk : Disk} {path : String} {subPath? : Option String}

/-- The descriptors of the path of some names: the sidecar in its folder, and next to it the file of
its name with the ending, except for the root and beside a metadata folder of that file. -/
def ownDescriptors (mapping : Mapping) (disk : Disk) (names : List String) : List String :=
  let diskPath := ofNames (names.map Name.toPlatform)
  let sidecar := mapping.diskFile (join diskPath sidecarName)
  let sameName := mapping.diskFile (diskPath ++ descriptorEnding)
  if names = [] ∨ disk.kind? (sameName ++ metadataEnding) = some .folder then [sidecar]
  else [sidecar, sameName]

/-- The relative path of some names with another relative path after them, unless that is of
nothing. -/
def relative? (names : List String) (rest? : Option String) : Option String :=
  if names ++ rest?.toList = [] then none else some (joinSegments (names ++ rest?.toList))

/-- What the descriptors on the way up from the path of some names show of the node under a relative
path, the nearest first. The names that are left behind lead to the node. -/
def candidates (mapping : Mapping) (disk : Disk) (names : List String) (rest? : Option String) :
    List View :=
  (List.range (names.length + 1)).reverse.flatMap fun count ↦
    (ownDescriptors mapping disk (names.take count)).map fun file ↦
      { file
        path := ofNames (names.take count)
        subPath? := relative? (names.drop count) rest?
        node? := (Cache.readTree? disk file).bind
          (·.descend? (names.drop count ++ namesIn (rest?.getD ""))) }

/-! ### Descriptors of one path -/

theorem toPlatformPath_ofNames (hnames : ∀ name ∈ names, IsName name) :
    Name.toPlatformPath (ofNames names) = ofNames (names.map Name.toPlatform) := by
  by_cases hnil : names = []
  · subst hnil
    decide
  · rw [Name.toPlatformPath, segments_ofNames hnames hnil, List.map_cons,
      Name.toPlatform_eq_empty.mpr rfl, ofNames]
    obtain ⟨first, others, rfl⟩ := List.exists_cons_of_ne_nil hnil
    rw [List.map_cons, joinSegments_cons_cons, String.empty_append]

theorem on_descriptorFiles (hnames : ∀ name ∈ names, IsName name) :
    (mapping.descriptorFiles (ofNames names)).on disk = ownDescriptors mapping disk names := by
  have hroot : ofNames names = "/" ↔ names = [] :=
    ⟨fun h ↦ ofNames_injective hnames (by simp) (h.trans ofNames_nil.symm), fun h ↦ by simp [h]⟩
  have hsidecar : ∀ folder : String,
      mapping.diskFile (trimEnd (· == '/') folder ++ "/" ++ sidecarName) =
        mapping.diskFile (join folder sidecarName) := fun folder ↦
    diskFile_congr (by rw [namesIn_append_slash, namesIn_trimEnd, namesIn_join])
  simp only [descriptorFiles, ownDescriptors, Lookup.on_ite, Lookup.on_bind, Lookup.on_pure,
    on_hasMetadata, beq_iff_eq, hroot, toPlatformPath_ofNames hnames, hsidecar]
  by_cases hnil : names = []
  · rw [if_pos hnil, if_pos (.inl hnil)]
  · simp only [hnil, if_false, false_or]

/-- What a file shows as a descriptor of a path. -/
def shown (disk : Disk) (path : String) (subPath? : Option String) (file : String) : View :=
  ⟨file, path, subPath?, View.locate (Cache.readTree? disk file) subPath?⟩

/-- Of the descriptors of one path the first that is a file and defines the node is found. -/
theorem on_firstDefined (path : String) (subPath? : Option String) (files : List String) :
    (firstDefined path subPath? files).on disk =
      (files.map (shown disk path subPath?)).find?
        fun view ↦ disk.kind? view.file = some .file ∧ view.isDefined = true := by
  induction files with
  | nil => rfl
  | cons file rest ih =>
    simp only [firstDefined, Lookup.on_bind, Lookup.on_isFile, Lookup.on_ite, Lookup.on_load,
      Lookup.on_pure, beq_iff_eq, List.map_cons, List.find?_cons, ih, shown]
    split_ifs with hfile hdefined
    · simp [hfile, hdefined]
    · simp [hdefined]
    · simp [hfile]

/-! ### Relative paths -/

theorem namesIn_relative (hnames : ∀ name ∈ names, IsName name) (rest? : Option String) :
    namesIn ((relative? names rest?).getD "") = names ++ namesIn (rest?.getD "") := by
  have hjoined : namesIn (joinSegments names) = names := by
    rw [← namesIn_slash_append, ← ofNames, namesIn_ofNames hnames]
  unfold relative?
  split
  · next hnil =>
    obtain ⟨rfl, hrest⟩ := List.append_eq_nil_iff.mp hnil
    cases rest? <;> simp_all
  · next hpieces =>
    rw [Option.getD_some]
    cases rest? with
    | none => simpa using hjoined
    | some rest =>
      by_cases hnil : names = []
      · simp [hnil]
      · rw [Option.toList_some, joinSegments_append hnil (by simp), joinSegments_singleton,
          namesIn_append_slash, hjoined, Option.getD_some]

/-- Names in front of a relative path may be put there one after the other. -/
theorem relative_concat (back : List String) (name : String) (rest? : Option String) :
    relative? (back ++ [name]) rest? = relative? back (relative? [name] rest?) := by
  have hpieces : [name] ++ rest?.toList ≠ [] := by simp
  have hjoin : joinSegments (back ++ [name] ++ rest?.toList) =
      joinSegments (back ++ [joinSegments ([name] ++ rest?.toList)]) := by
    by_cases hnil : back = []
    · simp [hnil]
    · rw [List.append_assoc, joinSegments_append hnil hpieces, joinSegments_append hnil (by simp),
        joinSegments_singleton]
  rw [relative?, relative?, relative?, if_neg (by simp), if_neg hpieces, if_neg (by simp), hjoin,
    Option.toList_some]

theorem relative_nil (hrest : rest? ≠ some "") : relative? [] rest? = rest? := by
  cases rest? <;> simp [relative?]

/-- A step up from a path with a relative path takes the last name to the front of it. -/
theorem deepen_concat (hnames : ∀ other ∈ front ++ [name], IsName other) (hrest : rest? ≠ some "") :
    deepen (ofNames (front ++ [name])) rest? = relative? [name] rest? := by
  rw [deepen, lastSegment_ofNames_concat hnames]
  cases rest? with
  | none => simp [View.properSubPath?, relative?]
  | some rest =>
    have hne : rest ≠ "" := fun heq ↦ hrest (by rw [heq])
    simp [properSubPath_of_ne hne, relative?, joinSegments_cons_cons]

/-! ### Descriptors on the way up -/

theorem candidates_eq (hnames : ∀ name ∈ names, IsName name) (rest? : Option String) :
    candidates mapping disk names rest? =
      (List.range (names.length + 1)).reverse.flatMap fun count ↦
        (ownDescriptors mapping disk (names.take count)).map
          (shown disk (ofNames (names.take count)) (relative? (names.drop count) rest?)) := by
  have hback : ∀ count, ∀ name ∈ names.drop count, IsName name := fun count name hname ↦
    hnames name (List.mem_of_mem_drop hname)
  unfold candidates shown
  simp only [locate_eq, namesIn_relative (hback _)]

theorem candidates_nil (rest? : Option String) :
    candidates mapping disk [] rest? =
      (ownDescriptors mapping disk []).map (shown disk (ofNames []) (relative? [] rest?)) := by
  rw [candidates_eq (by simp)]
  simp

theorem candidates_concat (hnames : ∀ other ∈ front ++ [name], IsName other)
    (rest? : Option String) :
    candidates mapping disk (front ++ [name]) rest? =
      (ownDescriptors mapping disk (front ++ [name])).map
          (shown disk (ofNames (front ++ [name])) (relative? [] rest?)) ++
        candidates mapping disk front (relative? [name] rest?) := by
  have hfront : ∀ count ∈ (List.range (front.length + 1)).reverse,
      (front ++ [name]).take count = front.take count ∧
        (front ++ [name]).drop count = front.drop count ++ [name] := by
    intro count hcount
    have hle : count ≤ front.length := by simpa [Nat.lt_succ_iff] using hcount
    exact ⟨List.take_append_of_le_length hle, List.drop_append_of_le_length hle⟩
  rw [candidates_eq hnames, candidates_eq (List.forall_mem_append.mp hnames).1,
    List.length_append, List.length_singleton, List.range_succ, List.reverse_append,
    List.reverse_singleton, List.singleton_append, List.flatMap_cons,
    List.take_of_length_le (by simp), List.drop_of_length_le (by simp)]
  congr 1
  refine List.flatMap_congr fun count hcount ↦ ?_
  rw [(hfront count hcount).1, (hfront count hcount).2, relative_concat]

theorem on_nearest_cons (path : String) (above : List String) (subPath? : Option String) :
    (mapping.nearest (path :: above) subPath?).on disk =
      ((firstDefined path subPath? ((mapping.descriptorFiles path).on disk)).on disk).or
        ((mapping.nearest above (deepen path subPath?)).on disk) := by
  simp only [nearest, Lookup.on_bind]
  cases (firstDefined path subPath? ((mapping.descriptorFiles path).on disk)).on disk <;> rfl

/-- Along the way up the first of the candidates that is a file and defines the node is found. -/
theorem on_nearest (hnames : ∀ name ∈ names, IsName name) (hrest : rest? ≠ some "") :
    (mapping.nearest (wayUp names) rest?).on disk =
      (candidates mapping disk names rest?).find?
        fun view ↦ disk.kind? view.file = some .file ∧ view.isDefined = true := by
  induction names using List.reverseRecOn generalizing rest? with
  | nil =>
    rw [wayUp_nil, on_nearest_cons, on_descriptorFiles hnames, on_firstDefined, candidates_nil,
      relative_nil hrest]
    exact Option.or_none
  | append_singleton front name ih =>
    have hname : ∀ other ∈ [name], IsName other := (List.forall_mem_append.mp hnames).2
    have hdeep : relative? [name] rest? ≠ some "" := by
      intro heq
      have hnames := namesIn_relative hname rest?
      rw [heq, Option.getD_some, namesIn_empty] at hnames
      cases hnames
    rw [wayUp_concat, on_nearest_cons, on_descriptorFiles hnames, on_firstDefined,
      candidates_concat hnames, List.find?_append, relative_nil hrest, deepen_concat hnames hrest,
      ih (List.forall_mem_append.mp hnames).1 hdeep]

/-! ### Views -/

/-- Assumes: a normalized path, and a relative path that is not empty if there is one. -/
theorem resourcePath_of_view (hpath : normalize path = .ok path) (hsubPath : subPath? ≠ some "")
    {view : View} (h : (mapping.view? path subPath?).on disk = some view) :
    view.resourcePath = subPath?.elim path (join path) := by
  obtain ⟨names, hnames, hofNames⟩ := normalize_eq_self_iff.mp hpath
  obtain ⟨above, rest?, hclimbs, file, -, -, rfl, -⟩ := view_eq_some h
  rw [resourcePath_eq_under, hclimbs.under_eq hnames hofNames]
  cases subPath? with
  | none => rfl
  | some subPath => exact under_of_ne path fun heq ↦ hsubPath (by rw [heq])

/-- Assumes: a normalized path, and a relative path that is not empty if there is one. The way up
from the path ends; the first of the candidates on it that is a file and defines the node is found;
the view has the path that was asked for, and so has the resource at the path. -/
theorem view_eq_find_candidates (mapping : Mapping) (disk : Disk)
    (hpath : normalize path = .ok path) (hsubPath : subPath? ≠ some "") :
    (∀ steps, (segments path).length ≤ steps → climb steps path = lineage path) ∧
      (mapping.view? path subPath?).on disk =
        (candidates mapping disk (namesIn path) subPath?).find?
          (fun view ↦ disk.kind? view.file = some .file ∧ view.isDefined = true) ∧
      (∀ view, (mapping.view? path subPath?).on disk = some view →
        view.resourcePath = subPath?.elim path (join path)) ∧
      ∀ resource, (mapping.resolve path).on disk = some resource → resource.path = path := by
  obtain ⟨names, hnames, rfl⟩ := normalize_eq_self_iff.mp hpath
  have hlength : names.length ≤ (segments (ofNames names)).length := by
    by_cases hnil : names = []
    · simp [hnil]
    · rw [segments_ofNames hnames hnil]
      exact Nat.le_succ _
  have hlineage : lineage (ofNames names) = wayUp names := climb_eq_wayUp hnames hlength
  refine ⟨fun steps hsteps ↦ ?_, ?_, fun view hview ↦ resourcePath_of_view hpath hsubPath hview,
    fun resource hresource ↦ path_of_resolve hpath hresource⟩
  · rw [hlineage, climb_eq_wayUp hnames (hlength.trans hsteps)]
  · rw [view?, isContained_ofNames hnames, Bool.not_true, if_neg Bool.false_ne_true, hlineage,
      on_nearest hnames hsubPath, namesIn_ofNames hnames]

/-- A descriptor next to a path that lacks a node, and above it a sidecar that has the node. -/
def nearerLacksNode : Disk :=
  .folder [("jcr_root", .folder [
    (".content.xml", .file (Utf8.encode "<r><a><b><c x='1'/></b></a></r>") 0),
    ("a.xml", .file (Utf8.encode "<r><d x='1'/></r>") 0)] 0)] 0

/-- The nearer descriptor does not define the node, so the farther one is found. -/
theorem farther_candidate_found :
    normalize "/a/b" = .ok "/a/b" ∧ some "c" ≠ some "" ∧
      (candidates (Mapping.mk "jcr_root" none) nearerLacksNode ["a", "b"] (some "c")).map
          (fun view ↦ (view.file, view.subPath?)) =
        [("jcr_root/a/b/.content.xml", some "c"), ("jcr_root/a/b.xml", some "c"),
          ("jcr_root/a/.content.xml", some "b/c"), ("jcr_root/a.xml", some "b/c"),
          ("jcr_root/.content.xml", some "a/b/c")] ∧
      ((candidates (Mapping.mk "jcr_root" none) nearerLacksNode ["a", "b"] (some "c")).find?
        fun view ↦ nearerLacksNode.kind? view.file = some .file ∧ view.isDefined = true).map
          View.file = some "jcr_root/.content.xml" := by
  have hpath : normalize "/a/b" = .ok "/a/b" := by rfl
  have hsubPath : some "c" ≠ some "" := by decide
  obtain ⟨-, hfind, -⟩ :=
    view_eq_find_candidates (Mapping.mk "jcr_root" none) nearerLacksNode hpath hsubPath
  have hnames : namesIn "/a/b" = ["a", "b"] := by decide
  rw [hnames] at hfind
  refine ⟨hpath, hsubPath, by decide +kernel, ?_⟩
  rw [← hfind]
  decide +kernel

end Mapping

end ContentTree
