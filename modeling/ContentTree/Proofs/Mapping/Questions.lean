import ContentTree.Mapping.Details
import ContentTree.Mapping.Listing
import ContentTree.Proofs.Mapping.Backing
/-!
What looking for resources asks of the file system. Whatever the answers before were, the questions
are about files below the root of the mapping, and the trees that are asked for are those of files
with the ending of descriptors. Only what stands at a path is also asked where the path goes up one
step at its very end: a name like `...dir` is that of a metadata folder, and is `..` without its
ending.
-/

set_option autoImplicit false
set_option relaxedAutoImplicit false

namespace ContentTree

open ContentTree.Text ContentTree.Path ContentTree.Storage ContentTree.Storage.FilePath
open ContentTree.Descriptor ContentTree.Descriptor.Element

/-- Whether a question for a tree is about a file with the ending of descriptors. Other questions
are about anything. -/
def Question.IsOrdinary : Question → Prop
  | .content file => finishesWith Mapping.descriptorEnding file = true
  | _ => True

/-- Whether a lookup only asks for trees of files with the ending of descriptors. -/
def Lookup.IsOrdinary {α : Type} (lookup : Lookup α) : Prop :=
  lookup.Asks Question.IsOrdinary fun _ ↦ True

namespace Mapping

/-- Whether a file is one below the root of a mapping, reached without a step up. -/
def IsBelow (mapping : Mapping) (file : String) : Prop :=
  ∃ diskPath, file = mapping.diskFile diskPath ∧ ".." ∉ namesIn diskPath

/-- Whether a file below the root has the ending of descriptors. -/
def MayDescribe (mapping : Mapping) (file : String) : Prop :=
  ∃ diskPath, file = mapping.diskFile diskPath ∧ ".." ∉ namesIn diskPath ∧
    finishesWith descriptorEnding diskPath = true

/-- The questions that lookups of a mapping ask. -/
inductive Permits (mapping : Mapping) : Question → Prop
  | kind {diskPath : String} (below : ".." ∉ (namesIn diskPath).dropLast) :
      Permits mapping (.kind (mapping.diskFile diskPath))
  | metadata {file : String} (below : mapping.MayDescribe file) :
      Permits mapping (.kind (file ++ metadataEnding))
  | content {file : String} (below : mapping.MayDescribe file) : Permits mapping (.content file)
  | names {folder : String} (below : mapping.IsBelow folder) : Permits mapping (.names folder)
  | bytes {file : String} (below : mapping.IsBelow file) : Permits mapping (.bytes file)
  | size {file : String} (below : mapping.IsBelow file) : Permits mapping (.size file)

variable {mapping : Mapping} {path file diskPath parent ending : String} {resource : Resource}
  {α : Type} {result : α → Prop}

/-! ### Files below the root -/

theorem MayDescribe.isBelow (h : mapping.MayDescribe file) : mapping.IsBelow file := by
  obtain ⟨diskPath, hfile, hbelow, -⟩ := h
  exact ⟨diskPath, hfile, hbelow⟩

theorem MayDescribe.finishesWith (h : mapping.MayDescribe file) :
    finishesWith descriptorEnding file = true := by
  obtain ⟨diskPath, rfl, -, hending⟩ := h
  exact finishesWith_below (by decide) (by decide) (finishesWith_trimStart (by decide) hending)

theorem Permits.kind_of_isBelow (h : mapping.IsBelow file) : mapping.Permits (.kind file) := by
  obtain ⟨diskPath, rfl, hbelow⟩ := h
  exact .kind fun hmem ↦ hbelow (List.dropLast_subset _ hmem)

/-- Trees are only asked of files with the ending of descriptors. -/
theorem Permits.isOrdinary {question : Question} (h : mapping.Permits question) :
    question.IsOrdinary := by
  cases h with
  | content below => exact below.finishesWith
  | kind | metadata | names | bytes | size => trivial

theorem isOrdinary_of_asks {lookup : Lookup α} (h : lookup.Asks mapping.Permits result) :
    lookup.IsOrdinary :=
  h.weaken (fun _ ↦ Permits.isOrdinary) fun _ _ ↦ trivial

theorem dots_notMem_namesIn (h : isContained path = true) : ".." ∉ namesIn path :=
  fun hmem ↦ (isContained_iff.mp h ".." hmem).2.2.1 rfl

theorem dots_notMem_toPlatformPath (h : isContained path = true) :
    ".." ∉ namesIn (Name.toPlatformPath path) := by
  rw [namesIn_toPlatformPath]
  intro hmem
  obtain ⟨name, hname, hdots⟩ := List.mem_map.mp hmem
  exact (isName_toPlatform (isContained_iff.mp h name hname)).2.2.1 hdots

/-- Assumes: an ending without a slash, of three characters or more. With it the last name of a path
is no dot or two. -/
theorem isContained_append (hending : Slashless ending) (hlength : 3 ≤ ending.length)
    (h : isContained path = true) : isContained (path ++ ending) = true := by
  obtain ⟨pieces, last, hpieces, happend⟩ := segments_append path hending
  have hlast : last ∈ segments path := by simp [hpieces]
  have hname : IsName (last ++ ending) :=
    isName_append (slashless_of_mem_segments hlast) hending hlength
  rw [isContained, hpieces, List.all_append, Bool.and_eq_true] at h
  rw [isContained, happend, List.all_append, h.1]
  simp [hname.2.1, hname.2.2.1]

theorem isBelow_fileFor (h : isContained path = true) : mapping.IsBelow (mapping.fileFor path) :=
  ⟨Name.toPlatformPath path, rfl, dots_notMem_toPlatformPath h⟩

theorem mayDescribe_fileFor (h : isContained path = true)
    (hending : finishesWith descriptorEnding path = true) :
    mapping.MayDescribe (mapping.fileFor path) := by
  refine ⟨Name.toPlatformPath path, rfl, dots_notMem_toPlatformPath h, ?_⟩
  obtain ⟨front, rfl⟩ := finishesWith_iff.mp hending
  rw [Name.toPlatformPath_append (by decide) (by decide)]
  exact finishesWith_append _ _

/-- Assumes: an ending without a slash. Without it only the last name of a path is another one. -/
theorem dots_notMem_dropLast (hending : Slashless ending)
    (h : isContained (path ++ ending) = true) :
    ".." ∉ (namesIn (Name.toPlatformPath path)).dropLast := by
  obtain ⟨pieces, last, hpieces, happend⟩ := segments_append path hending
  have hfront : ".." ∉ pieces := by
    intro hmem
    refine dots_notMem_namesIn h (List.mem_filter.mpr ⟨?_, by decide⟩)
    rw [happend]
    exact List.mem_append_left _ hmem
  rw [namesIn_toPlatformPath, ← List.map_dropLast]
  intro hmem
  obtain ⟨name, hname, hdots⟩ := List.mem_map.mp hmem
  have hname : name ∈ pieces := by
    rw [namesIn, hpieces, List.filter_append] at hname
    by_cases hlast : last = ""
    · rw [List.filter_cons_of_neg (by simpa using hlast), List.filter_nil, List.append_nil] at hname
      exact List.mem_of_mem_filter (List.dropLast_subset _ hname)
    · rw [List.filter_cons_of_pos (by simpa using hlast), List.filter_nil,
        List.dropLast_concat] at hname
      exact List.mem_of_mem_filter hname
  exact hfront ((Name.toPlatform_eq_ending (by decide)).mp hdots ▸ hname)

/-! ### Visibility -/

theorem asks_isMetadata (h : isContained path = true) :
    (mapping.isMetadata path).Asks mapping.Permits fun _ ↦ True := by
  unfold isMetadata
  split_ifs with _ hplain
  · exact .pure trivial
  · exact .pure trivial
  · simp only [Bool.or_eq_true, Bool.not_eq_true', not_or, Bool.not_eq_false] at hplain
    obtain ⟨front, rfl⟩ := finishesWith_iff.mp hplain.1
    rw [dropEnd_append]
    exact .bind (.ask (.kind (dots_notMem_dropLast (by decide) h)) fun _ ↦ .found trivial)
      fun _ _ ↦ .pure trivial

theorem asks_isVisible (path : String) :
    (mapping.isVisible path).Asks mapping.Permits fun _ ↦ True := by
  unfold isVisible
  split_ifs with hhidden
  · exact .pure trivial
  · simp only [Bool.or_eq_true, Bool.not_eq_true', not_or, Bool.not_eq_false] at hhidden
    refine .bind (asks_isMetadata hhidden.1) fun metadata _ ↦ ?_
    split_ifs
    · exact .pure trivial
    · exact .pure trivial

/-! ### Entries on disk -/

theorem asks_isFile (h : mapping.IsBelow file) :
    (Lookup.isFile file).Asks mapping.Permits fun _ ↦ True :=
  .bind (.ask (.kind_of_isBelow h) fun _ ↦ .found trivial) fun _ _ ↦ .pure trivial

theorem asks_hasMetadata (h : mapping.MayDescribe file) :
    (hasMetadata file).Asks mapping.Permits fun _ ↦ True :=
  .bind (.ask (.metadata h) fun _ ↦ .found trivial) fun _ _ ↦ .pure trivial

theorem asks_load (path : String) (subPath? : Option String) (h : mapping.MayDescribe file) :
    (View.load file path subPath?).Asks mapping.Permits fun view ↦ view.file = file :=
  .bind (.ask (.content h) fun _ ↦ .found trivial) fun _ _ ↦ .pure rfl

/-- The entry on disk for a path is below the root. -/
theorem asks_onDisk (path : String) : (mapping.onDisk? path).Asks mapping.Permits
    fun found? ↦ ∀ found ∈ found?, mapping.IsBelow found.1 := by
  unfold onDisk?
  split_ifs with hhidden
  · exact .pure (by simp)
  · simp only [Bool.or_eq_true, Bool.not_eq_true', not_or, Bool.not_eq_false] at hhidden
    have hbelow : mapping.IsBelow (mapping.fileFor path) := isBelow_fileFor hhidden.1
    refine .bind (.ask (.kind_of_isBelow hbelow) fun _ ↦ .found trivial) fun found _ ↦ ?_
    cases found with
    | none => exact .pure (by simp)
    | some kind =>
      by_cases hplain : (!finishesWith descriptorEnding path || kind != .file) = true
      · simp only [hplain, if_true]
        exact .pure (by simpa using hbelow)
      · simp only [hplain]
        simp only [Bool.or_eq_true, Bool.not_eq_true', not_or, Bool.not_eq_false] at hplain
        have hdescribes : mapping.MayDescribe (mapping.fileFor path) :=
          mayDescribe_fileFor hhidden.1 hplain.1
        refine .bind (asks_hasMetadata hdescribes) fun metadata _ ↦ ?_
        split_ifs
        · exact .pure (by simpa using hbelow)
        · refine .bind (.bind (asks_load _ none hdescribes) fun _ _ ↦ .pure trivial)
            fun (holds : Bool) (_ : True) ↦ ?_
          split_ifs
          · exact .pure (by simp)
          · exact .pure (by simpa using hbelow)

/-! ### Descriptors -/

/-- The files that may describe a path are below the root and have the ending of descriptors. -/
theorem asks_descriptorFiles (h : isContained path = true) :
    (mapping.descriptorFiles path).Asks mapping.Permits
      fun files ↦ ∀ file ∈ files, mapping.MayDescribe file := by
  have hsidecar : mapping.MayDescribe (mapping.diskFile
      (trimEnd (· == '/') (Name.toPlatformPath path) ++ "/" ++ sidecarName)) := by
    refine ⟨_, rfl, ?_, ?_⟩
    · rw [namesIn_append_slash, namesIn_trimEnd, List.mem_append, not_or]
      exact ⟨dots_notMem_toPlatformPath h, by decide⟩
    · rw [finishesWith_append_slash _ (by decide)]
      decide
  have hsameName : mapping.MayDescribe (mapping.diskFile
      (Name.toPlatformPath path ++ descriptorEnding)) := by
    refine ⟨_, rfl, ?_, finishesWith_append _ _⟩
    rw [← Name.toPlatformPath_append (by decide) (by decide)]
    exact dots_notMem_toPlatformPath (isContained_append (by decide) (by decide) h)
  unfold descriptorFiles
  split_ifs
  · exact .pure (List.forall_mem_singleton.mpr hsidecar)
  · refine .bind (asks_hasMetadata hsameName) fun metadata _ ↦ ?_
    split_ifs
    · exact .pure (List.forall_mem_singleton.mpr hsidecar)
    · exact .pure (List.forall_mem_cons.mpr ⟨hsidecar, List.forall_mem_singleton.mpr hsameName⟩)

theorem asks_firstDefined (path : String) (subPath? : Option String) {files : List String}
    (h : ∀ file ∈ files, mapping.MayDescribe file) :
    (firstDefined path subPath? files).Asks mapping.Permits
      fun view? ↦ ∀ view ∈ view?, mapping.IsBelow view.file := by
  induction files with
  | nil => exact .pure (by simp)
  | cons file rest ih =>
    obtain ⟨hfile, hrest⟩ := List.forall_mem_cons.mp h
    unfold firstDefined
    refine .bind (asks_isFile hfile.isBelow) fun isFile _ ↦ ?_
    split_ifs
    · refine .bind (asks_load path subPath? hfile) fun view hview ↦ ?_
      split_ifs
      · exact .pure (by simpa [hview] using hfile.isBelow)
      · exact ih hrest
    · exact ih hrest

theorem asks_nearest {paths : List String} (h : ∀ path ∈ paths, isContained path = true)
    (subPath? : Option String) : (mapping.nearest paths subPath?).Asks mapping.Permits
      fun view? ↦ ∀ view ∈ view?, mapping.IsBelow view.file := by
  induction paths generalizing subPath? with
  | nil => exact .pure (by simp)
  | cons path above ih =>
    obtain ⟨hpath, habove⟩ := List.forall_mem_cons.mp h
    unfold nearest
    refine .bind (asks_descriptorFiles hpath) fun files hfiles ↦
      .bind (asks_firstDefined path subPath? hfiles) fun found hfound ↦ ?_
    cases found with
    | some view => exact .pure hfound
    | none => exact ih habove (deepen path subPath?)

theorem isContained_climb (h : isContained path = true) (steps : Nat) :
    ∀ above ∈ climb steps path, isContained above = true := by
  induction steps generalizing path with
  | zero => exact List.forall_mem_singleton.mpr h
  | succ steps ih =>
    unfold climb
    cases hparent : parent? path with
    | none => exact List.forall_mem_singleton.mpr h
    | some above => exact List.forall_mem_cons.mpr ⟨h, ih (isContained_parent h hparent)⟩

/-- The descriptor of a node is below the root. -/
theorem asks_view (path : String) (subPath? : Option String) :
    (mapping.view? path subPath?).Asks mapping.Permits
      fun view? ↦ ∀ view ∈ view?, mapping.IsBelow view.file := by
  unfold view?
  split_ifs with hcontained
  · exact .pure (by simp)
  · rw [Bool.not_eq_true', Bool.not_eq_false] at hcontained
    exact asks_nearest (isContained_climb hcontained _) subPath?

/-! ### Resources -/

/-- What backs a resource is below the root. -/
theorem asks_resolve (path : String) : (mapping.resolve path).Asks mapping.Permits
    fun found? ↦ ∀ resource ∈ found?, mapping.IsBelow resource.backingFile := by
  unfold resolve
  refine .bind (asks_isVisible path) fun visible _ ↦ ?_
  split_ifs
  · exact .pure (by simp)
  · refine .bind (asks_onDisk path) fun found hfound ↦ ?_
    split
    · next file =>
      refine .pure fun resource hresource ↦ ?_
      obtain rfl := Option.some.inj hresource
      exact hfound (file, .file) rfl
    · refine .bind (asks_view path none) fun view hview ↦ ?_
      cases view with
      | some view =>
        refine .pure fun resource hresource ↦ ?_
        obtain rfl := Option.some.inj hresource
        exact hview view rfl
      | none =>
        refine .pure fun resource hresource ↦ ?_
        obtain ⟨entry, rfl, rfl⟩ := Option.map_eq_some_iff.mp hresource
        exact hfound entry rfl

theorem asks_size (h : mapping.IsBelow resource.backingFile) :
    resource.size?.Asks mapping.Permits fun _ ↦ True := by
  cases resource with
  | file path target => exact .bind (.ask (.size h) fun _ ↦ .found trivial) fun _ _ ↦ .pure trivial
  | folder path target => exact .pure trivial
  | node view => exact .pure trivial

theorem asks_description (h : mapping.IsBelow resource.backingFile) :
    resource.description.Asks mapping.Permits fun _ ↦ True := by
  cases resource with
  | file path target => exact .bind (asks_size h) fun _ _ ↦ .pure trivial
  | folder path target => exact .bind (asks_size h) fun _ _ ↦ .pure trivial
  | node view => exact .pure trivial

theorem asks_bytes (h : mapping.IsBelow resource.backingFile) :
    resource.bytes?.Asks mapping.Permits fun _ ↦ True := by
  cases resource with
  | file path target => exact .bind (.ask (.bytes h) fun _ ↦ .found trivial) fun _ _ ↦ .pure trivial
  | folder path target => exact .pure trivial
  | node view => exact .pure trivial

/-! ### Listings -/

theorem asks_addPath (listed : List String) (path : String) :
    (mapping.addPath listed path).Asks mapping.Permits fun _ ↦ True := by
  unfold addPath
  split_ifs
  · exact .pure trivial
  · refine .bind (asks_isVisible path) fun visible _ ↦ ?_
    split_ifs
    · exact .pure trivial
    · exact .pure trivial

theorem asks_addDeclared (listed names : List String) :
    (mapping.addDeclared parent listed names).Asks mapping.Permits fun _ ↦ True := by
  induction names generalizing listed with
  | nil => exact .pure trivial
  | cons name rest ih => exact .bind (asks_addPath listed _) fun listed _ ↦ ih listed

theorem asks_addEntry (listed : List String) (entry : String) :
    (mapping.addEntry parent listed entry).Asks mapping.Permits fun _ ↦ True := by
  unfold addEntry
  refine .bind (asks_onDisk _) fun found _ ↦ ?_
  cases found with
  | some backing => exact asks_addPath listed _
  | none =>
    simp only
    split_ifs
    · exact .pure trivial
    · refine .bind (asks_isVisible _) fun visible _ ↦ ?_
      split_ifs
      · exact .pure trivial
      · refine .bind (asks_view _ none) fun view _ ↦ ?_
        split_ifs
        · exact .pure trivial
        · exact .pure trivial

theorem asks_addEntries (listed entries : List String) :
    (mapping.addEntries parent listed entries).Asks mapping.Permits fun _ ↦ True := by
  induction entries generalizing listed with
  | nil => exact .pure trivial
  | cons entry rest ih => exact .bind (asks_addEntry listed entry) fun listed _ ↦ ih listed

theorem asks_childPaths (parent : String) :
    (mapping.childPaths parent).Asks mapping.Permits fun _ ↦ True := by
  unfold childPaths
  refine .bind (asks_view parent none) fun view _ ↦
    .bind (asks_addDeclared _ _) fun listed _ ↦
      .bind (asks_onDisk parent) fun found hfound ↦ ?_
  split
  · next folder =>
    exact .bind (.ask (.names (hfound (folder, .folder) rfl)) fun _ ↦ .found trivial)
      fun entries _ ↦ asks_addEntries listed entries
  · exact .pure trivial

theorem asks_resolveAll (paths : List String) : (mapping.resolveAll paths).Asks mapping.Permits
    fun found ↦ ∀ resource ∈ found, mapping.IsBelow resource.backingFile := by
  induction paths with
  | nil => exact .pure (by simp)
  | cons path rest ih =>
    unfold resolveAll
    refine .bind (asks_resolve path) fun child hchild ↦ ?_
    cases child with
    | some child =>
      exact .bind ih fun others hothers ↦ .pure
        (List.forall_mem_cons.mpr ⟨hchild child rfl, hothers⟩)
    | none => exact ih

/-- What backs a child is below the root. -/
theorem asks_children (parent : String) : (mapping.children? parent).Asks mapping.Permits
    fun found? ↦ ∀ found ∈ found?, ∀ resource ∈ found, mapping.IsBelow resource.backingFile := by
  have hpaths : (mapping.childPaths? parent).Asks mapping.Permits fun _ ↦ True := by
    unfold childPaths?
    split_ifs
    · exact .pure trivial
    · refine .bind (asks_childPaths parent) fun paths _ ↦ ?_
      split_ifs
      · exact .pure trivial
      · exact .pure trivial
  unfold children?
  refine .bind hpaths fun paths? _ ↦ ?_
  cases paths? with
  | some paths =>
    exact .bind (asks_resolveAll paths) fun found hfound ↦ .pure (by simpa using hfound)
  | none => exact .pure (by simp)

end Mapping

end ContentTree
