import ContentTree.Mapping.Listing
import ContentTree.Proofs.Mapping.Backing
/-!
Listings on the bare file system. The paths of a listing are those that the descriptor of the
parent declares and those that the entries of its folder stand for, each once; the children are the
resources at these paths.
-/

set_option autoImplicit false
set_option relaxedAutoImplicit false

namespace ContentTree.Mapping

open ContentTree.Text ContentTree.Path ContentTree.Storage ContentTree.Descriptor

variable {mapping : Mapping} {disk : Disk} {parent path entry : String} {listed names : List String}
  {resource : Resource}

/-- The names that the descriptor of a path declares. -/
def declaredNames (mapping : Mapping) (disk : Disk) (path : String) : List String :=
  match (mapping.view? path none).on disk with
  | some view => view.childNames
  | none => []

/-- Whether an entry of the folder of a path stands for another path: for its own when that stands
on disk, otherwise for the path it describes when a descriptor defines that. -/
def StandsFor (mapping : Mapping) (disk : Disk) (parent entry path : String) : Prop :=
  path = join parent (Name.ofPlatform entry) ∧ ((mapping.onDisk? path).on disk).isSome = true ∨
    (mapping.onDisk? (join parent (Name.ofPlatform entry))).on disk = none ∧
      path = describedPath (join parent (Name.ofPlatform entry)) ∧
        ((mapping.view? path none).on disk).isSome = true

/-- Whether the listing of a path can be made of a name: the descriptor there declares it, or an
entry of the folder decodes to it or to it with the ending of descriptors. -/
def CanList (mapping : Mapping) (disk : Disk) (parent name : String) : Prop :=
  name ∈ declaredNames mapping disk parent ∨
    ∃ folder, (mapping.onDisk? parent).on disk = some (folder, .folder) ∧
      ∃ entry ∈ disk.names folder,
        Name.ofPlatform entry = name ∨ Name.ofPlatform entry = name ++ descriptorEnding

/-! ### Adding paths -/

theorem on_addPath (listed : List String) (path : String) :
    (mapping.addPath listed path).on disk =
      if path ∉ listed ∧ (mapping.isVisible path).on disk = true then listed ++ [path]
      else listed := by
  unfold addPath
  by_cases hlisted : path ∈ listed
  · simp [hlisted]
  · simp [hlisted]

theorem on_addEntry {own : String} (hown : join parent (Name.ofPlatform entry) = own)
    (listed : List String) : (mapping.addEntry parent listed entry).on disk =
      if ((mapping.onDisk? own).on disk).isSome then (mapping.addPath listed own).on disk
      else if ((mapping.view? (describedPath own) none).on disk).isSome then
        (mapping.addPath listed (describedPath own)).on disk
      else listed := by
  unfold addEntry
  simp only [Lookup.on_bind, hown]
  cases (mapping.onDisk? own).on disk with
  | some found => rfl
  | none =>
    generalize describedPath own = described
    by_cases hlisted : described ∈ listed
    · simp [hlisted, on_addPath]
    · cases hvisible : (mapping.isVisible described).on disk <;>
        simp [hlisted, hvisible, on_addPath]

/-- A path that is added to a listing is not there yet, so no path is listed twice. -/
theorem mem_addPath {other : String} : other ∈ (mapping.addPath listed path).on disk ↔
    other ∈ listed ∨ (mapping.isVisible other).on disk = true ∧ other = path := by
  rw [on_addPath]
  split
  · next hnew =>
    rw [List.mem_append, List.mem_singleton]
    refine or_congr_right ⟨fun heq ↦ ⟨heq ▸ hnew.2, heq⟩, fun heq ↦ heq.2⟩
  · next hold =>
    rw [iff_self_or]
    rintro ⟨hvisible, rfl⟩
    by_contra hmissing
    exact hold ⟨hmissing, hvisible⟩

theorem nodup_addPath (h : listed.Nodup) : ((mapping.addPath listed path).on disk).Nodup := by
  rw [on_addPath]
  split
  · next hnew =>
    rw [← List.concat_eq_append]
    exact h.concat hnew.1
  · exact h

theorem mem_addEntry : path ∈ (mapping.addEntry parent listed entry).on disk ↔
    path ∈ listed ∨ (mapping.isVisible path).on disk = true ∧
      StandsFor mapping disk parent entry path := by
  unfold StandsFor
  generalize hown : join parent (Name.ofPlatform entry) = own
  rw [on_addEntry hown]
  cases hdisk : (mapping.onDisk? own).on disk with
  | some found =>
    simp only [Option.isSome_some, if_true, mem_addPath, reduceCtorEq, false_and, or_false]
    refine or_congr_right (and_congr_right fun _ ↦ ⟨fun heq ↦ ⟨heq, ?_⟩, And.left⟩)
    rw [heq, hdisk, Option.isSome_some]
  | none =>
    have hown : ¬ (path = own ∧ ((mapping.onDisk? path).on disk).isSome = true) := by
      rintro ⟨rfl, hsome⟩
      simp [hdisk] at hsome
    simp only [Option.isSome_none, Bool.false_eq_true, if_false, hown, false_or, true_and]
    split
    · next hview =>
      rw [mem_addPath]
      refine or_congr_right (and_congr_right fun _ ↦ ⟨fun heq ↦ ⟨heq, heq ▸ hview⟩, And.left⟩)
    · next hview =>
      rw [iff_self_or]
      rintro ⟨-, rfl, hsome⟩
      exact absurd hsome hview

theorem nodup_addEntry (h : listed.Nodup) :
    ((mapping.addEntry parent listed entry).on disk).Nodup := by
  rw [on_addEntry rfl]
  split_ifs
  · exact nodup_addPath h
  · exact nodup_addPath h
  · exact h

theorem mem_addDeclared : path ∈ (mapping.addDeclared parent listed names).on disk ↔
    path ∈ listed ∨
      (mapping.isVisible path).on disk = true ∧ ∃ name ∈ names, path = join parent name := by
  induction names generalizing listed with
  | nil => simp [addDeclared]
  | cons name rest ih =>
    rw [addDeclared, Lookup.on_bind, ih, mem_addPath, or_assoc, ← and_or_left]
    simp only [List.mem_cons, exists_eq_or_imp]

theorem nodup_addDeclared (h : listed.Nodup) :
    ((mapping.addDeclared parent listed names).on disk).Nodup := by
  induction names generalizing listed with
  | nil => exact h
  | cons name rest ih =>
    rw [addDeclared, Lookup.on_bind]
    exact ih (nodup_addPath h)

theorem mem_addEntries {entries : List String} :
    path ∈ (mapping.addEntries parent listed entries).on disk ↔
      path ∈ listed ∨ (mapping.isVisible path).on disk = true ∧
        ∃ entry ∈ entries, StandsFor mapping disk parent entry path := by
  induction entries generalizing listed with
  | nil => simp [addEntries]
  | cons entry rest ih =>
    rw [addEntries, Lookup.on_bind, ih, mem_addEntry, or_assoc, ← and_or_left]
    simp only [List.mem_cons, exists_eq_or_imp]

theorem nodup_addEntries {entries : List String} (h : listed.Nodup) :
    ((mapping.addEntries parent listed entries).on disk).Nodup := by
  induction entries generalizing listed with
  | nil => exact h
  | cons entry rest ih =>
    rw [addEntries, Lookup.on_bind]
    exact ih (nodup_addEntry h)

/-! ### Listings -/

theorem on_childPaths (parent : String) : (mapping.childPaths parent).on disk =
    let declared := (mapping.addDeclared parent [] (declaredNames mapping disk parent)).on disk
    match (mapping.onDisk? parent).on disk with
    | some (folder, .folder) => (mapping.addEntries parent declared (disk.names folder)).on disk
    | _ => declared := by
  unfold childPaths declaredNames
  simp only [Lookup.on_bind]
  cases (mapping.onDisk? parent).on disk with
  | none => rfl
  | some found =>
    obtain ⟨folder, kind⟩ := found
    cases kind <;> rfl

/-- What a listing holds: the visible paths that are declared or that entries stand for. -/
theorem mem_childPaths : path ∈ (mapping.childPaths parent).on disk ↔
    (mapping.isVisible path).on disk = true ∧
      ((∃ name ∈ declaredNames mapping disk parent, path = join parent name) ∨
        ∃ folder, (mapping.onDisk? parent).on disk = some (folder, .folder) ∧
          ∃ entry ∈ disk.names folder, StandsFor mapping disk parent entry path) := by
  have hdeclared : path ∈
      (mapping.addDeclared parent [] (declaredNames mapping disk parent)).on disk ↔ _ :=
    mem_addDeclared
  rw [on_childPaths]
  simp only
  split
  · next folder hfolder =>
    rw [mem_addEntries, hdeclared, hfolder]
    simp [and_or_left]
  · next hfolder =>
    have hnone : ¬ ∃ folder, (mapping.onDisk? parent).on disk = some (folder, .folder) ∧
        ∃ entry ∈ disk.names folder, StandsFor mapping disk parent entry path := by
      rintro ⟨folder, hsome, -⟩
      exact hfolder folder hsome
    rw [hdeclared]
    simp [hnone]

theorem nodup_childPaths (parent : String) : ((mapping.childPaths parent).on disk).Nodup := by
  rw [on_childPaths]
  simp only
  split
  · exact nodup_addEntries (nodup_addDeclared List.nodup_nil)
  · exact nodup_addDeclared List.nodup_nil

/-- Assumes: an absolute path. The path that a descriptor below it stands for is below it too, with
the name of the descriptor or that without the ending. -/
theorem describedPath_join (hparent : IsAbsolute parent) (name : String) :
    ∃ described, describedPath (join parent name) = join parent described ∧
      (described = name ∨ name = described ++ descriptorEnding) := by
  unfold describedPath
  split
  · next h =>
    obtain ⟨front, hfront, -⟩ := join_eq_append_slash hparent name
    rw [Bool.and_eq_true] at h
    have hending : finishesWith descriptorEnding name = true := by
      rw [← finishesWith_append_slash front (by decide), ← hfront]
      exact h.1
    obtain ⟨described, rfl⟩ := finishesWith_iff.mp hending
    exact ⟨described, by rw [join_append, dropEnd_append], .inr rfl⟩
  · exact ⟨name, rfl, .inl rfl⟩

/-- Assumes: an absolute path. Whatever is listed for it is below it, with a name it can list. -/
theorem exists_join_of_mem_childPaths (hparent : IsAbsolute parent)
    (h : path ∈ (mapping.childPaths parent).on disk) :
    ∃ name, path = join parent name ∧ CanList mapping disk parent name := by
  rcases (mem_childPaths.mp h).2 with ⟨name, hname, hjoin⟩ |
    ⟨folder, hfolder, entry, hentry, ⟨hjoin, -⟩ | ⟨-, hdescribed, -⟩⟩
  · exact ⟨name, hjoin, .inl hname⟩
  · exact ⟨_, hjoin, .inr ⟨folder, hfolder, entry, hentry, .inl rfl⟩⟩
  · obtain ⟨described, hjoin, hname⟩ := describedPath_join hparent (Name.ofPlatform entry)
    refine ⟨described, hdescribed.trans hjoin, .inr ⟨folder, hfolder, entry, hentry, ?_⟩⟩
    exact hname.imp_left Eq.symm

theorem isAbsolute_of_mem_childPaths (hparent : IsAbsolute parent)
    (h : path ∈ (mapping.childPaths parent).on disk) : IsAbsolute path := by
  obtain ⟨name, rfl, -⟩ := exists_join_of_mem_childPaths hparent h
  exact isAbsolute_join hparent name

/-! ### Children -/

theorem on_resolveAll (paths : List String) : (mapping.resolveAll paths).on disk =
    paths.filterMap fun path ↦ (mapping.resolve path).on disk := by
  induction paths with
  | nil => rfl
  | cons path rest ih =>
    rw [resolveAll, Lookup.on_bind, List.filterMap_cons, ← ih]
    cases (mapping.resolve path).on disk <;> simp

theorem on_children (h : isContained parent = true) : (mapping.children parent).on disk =
    ((mapping.childPaths parent).on disk).filterMap fun path ↦ (mapping.resolve path).on disk := by
  rw [← on_resolveAll]
  simp only [children, children?, childPaths?, h, Lookup.on_bind, Bool.not_true, Bool.false_eq_true,
    if_false]
  cases hpaths : (mapping.childPaths parent).on disk with
  | nil => simp [resolveAll]
  | cons path rest => simp

theorem isContained_of_mem_children (h : resource ∈ (mapping.children parent).on disk) :
    isContained parent = true := by
  by_contra hcontained
  have hnone : (mapping.childPaths? parent).on disk = none := by simp [childPaths?, hcontained]
  simp [children, children?, hnone] at h

theorem mem_children : resource ∈ (mapping.children parent).on disk ↔
    isContained parent = true ∧ ∃ path ∈ (mapping.childPaths parent).on disk,
      (mapping.resolve path).on disk = some resource := by
  constructor
  · intro h
    have hcontained := isContained_of_mem_children h
    rw [on_children hcontained, List.mem_filterMap] at h
    exact ⟨hcontained, h⟩
  · rintro ⟨hcontained, h⟩
    rw [on_children hcontained, List.mem_filterMap]
    exact h

end ContentTree.Mapping
