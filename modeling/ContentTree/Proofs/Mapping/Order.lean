import ContentTree.Proofs.Descriptor.Tree
import ContentTree.Proofs.Mapping.Listing
/-!
The order of listings. First come the paths that the descriptor declares, in its order. Each entry
of the folder then adds at most one path to the end of the listing, and the entries are taken in the
order of their names, so that the entries behind the other paths have increasing names.
-/

set_option autoImplicit false
set_option relaxedAutoImplicit false

namespace ContentTree.Mapping

open ContentTree.Text ContentTree.Path ContentTree.Storage ContentTree.Descriptor

variable {mapping : Mapping} {disk : Disk} {parent : String} {listed names entries : List String}

/-- The names in the folder that backs a path, in their order. -/
def entryNames (mapping : Mapping) (disk : Disk) (path : String) : List String :=
  match (mapping.onDisk? path).on disk with
  | some (folder, .folder) => disk.names folder
  | _ => []

/-- Whether an entry of a folder gives a path below that of the folder: its decoded name there, or
that without the ending of descriptors. -/
def Gives (parent entry path : String) : Prop :=
  path = join parent (Name.ofPlatform entry) ∨
    path ++ descriptorEnding = join parent (Name.ofPlatform entry)

/-- How the listing of a path is made up of declared paths and paths that entries give: the visible
ones that the descriptor declares, in its order, and further ones, which entries with increasing
names give. -/
structure IsArranged (mapping : Mapping) (disk : Disk) (parent : String)
    (declared given : List String) : Prop where
  declared_eq : declared = ((declaredNames mapping disk parent).map (join parent)).filter
    fun path ↦ (mapping.isVisible path).on disk
  given_new : ∀ path ∈ given, path ∉ declared
  given_by : ∃ chosen : List String, chosen.Pairwise (· < ·) ∧
    (∀ entry ∈ chosen, entry ∈ entryNames mapping disk parent) ∧
      List.Forall₂ (Gives parent) chosen given

/-! ### Declared paths -/

/-- A descriptor declares each name once. -/
theorem nodup_declaredNames (mapping : Mapping) (disk : Disk) (path : String) :
    (declaredNames mapping disk path).Nodup := by
  unfold declaredNames
  split
  · next view hview =>
    obtain ⟨above, rest?, -, file, -, -, rfl, hdefined⟩ := view_eq_some hview
    obtain ⟨node, hnode⟩ := View.exists_node hdefined
    have hlocate : View.locate (Cache.readTree? disk file) rest? = some node := hnode
    rw [View.childNames, hnode, Option.map_some, Option.getD_some]
    rw [locate_eq] at hlocate
    obtain ⟨root, hroot, hdescend⟩ := Option.bind_eq_some_iff.mp hlocate
    exact ((Element.distinct_of_readTree hroot).of_descend hdescend).nodup_children
  · exact List.nodup_nil

/-- Assumes: different paths, none of which is listed yet. The visible ones are added in their
order. -/
theorem addDeclared_eq (h : (listed ++ names.map (join parent)).Nodup) :
    (mapping.addDeclared parent listed names).on disk =
      listed ++ (names.map (join parent)).filter fun path ↦ (mapping.isVisible path).on disk := by
  induction names generalizing listed with
  | nil => simp [addDeclared]
  | cons name rest ih =>
    rw [List.map_cons] at h
    have hnew : join parent name ∉ listed := fun hmem ↦
      List.disjoint_of_nodup_append h hmem List.mem_cons_self
    rw [addDeclared, Lookup.on_bind, on_addPath, List.map_cons, List.filter_cons]
    by_cases hvisible : (mapping.isVisible (join parent name)).on disk = true
    · rw [if_pos ⟨hnew, hvisible⟩, if_pos hvisible, ih (by simpa using h), List.append_assoc,
        List.singleton_append]
    · rw [if_neg fun hboth ↦ hvisible hboth.2, if_neg hvisible,
        ih (h.sublist ((List.sublist_cons_self _ _).append_left listed))]

/-! ### Paths of entries -/

/-- The path that an entry of the folder of a path adds to its listing, if it adds one: its own when
that stands on disk, otherwise the one that it describes. -/
def entryPath (mapping : Mapping) (disk : Disk) (parent entry : String) : String :=
  let own := join parent (Name.ofPlatform entry)
  if ((mapping.onDisk? own).on disk).isSome then own else describedPath own

theorem gives_entryPath (mapping : Mapping) (disk : Disk) (parent entry : String) :
    Gives parent entry (entryPath mapping disk parent entry) := by
  unfold entryPath describedPath
  simp only
  split_ifs with hdisk hending
  · exact .inl rfl
  · rw [Bool.and_eq_true] at hending
    obtain ⟨front, hfront⟩ := finishesWith_iff.mp hending.1
    exact .inr (by rw [hfront, dropEnd_append])
  · exact .inl rfl

theorem addPath_eq (listed : List String) (path : String) :
    (mapping.addPath listed path).on disk = listed ∨
      (mapping.addPath listed path).on disk = listed ++ [path] := by
  rw [on_addPath]
  split
  · exact .inr rfl
  · exact .inl rfl

theorem addEntry_eq (mapping : Mapping) (disk : Disk) (parent : String) (listed : List String)
    (entry : String) :
    (mapping.addEntry parent listed entry).on disk = listed ∨
      (mapping.addEntry parent listed entry).on disk =
        listed ++ [entryPath mapping disk parent entry] := by
  rw [on_addEntry rfl, entryPath]
  split_ifs
  · exact addPath_eq listed _
  · exact addPath_eq listed _
  · exact .inl rfl

/-- The entries of a folder add the paths of some of them, in the order of the entries. -/
theorem addEntries_eq (mapping : Mapping) (disk : Disk) (parent : String)
    (listed entries : List String) : ∃ chosen : List String, chosen.Sublist entries ∧
    (mapping.addEntries parent listed entries).on disk =
      listed ++ chosen.map (entryPath mapping disk parent) := by
  induction entries generalizing listed with
  | nil => exact ⟨[], List.Sublist.refl [], by simp [addEntries]⟩
  | cons entry rest ih =>
    rw [addEntries, Lookup.on_bind]
    obtain ⟨chosen, hchosen, hadded⟩ := ih ((mapping.addEntry parent listed entry).on disk)
    rw [hadded]
    rcases addEntry_eq mapping disk parent listed entry with hsame | hone
    · exact ⟨chosen, hchosen.cons entry, by rw [hsame]⟩
    · exact ⟨entry :: chosen, hchosen.cons_cons entry, by rw [hone]; simp⟩

/-- Assumes: entries chosen from a folder, no two of which have the same path. Their names
increase. -/
theorem pairwise_lt_of_sublist {folder : String} {path : String → String}
    (hchosen : entries.Sublist (disk.names folder)) (hpaths : (entries.map path).Nodup) :
    entries.Pairwise (· < ·) := by
  have hle : entries.Pairwise (· ≤ ·) := (Disk.pairwise_names disk folder).sublist hchosen
  have hne : entries.Pairwise (· ≠ ·) := List.Nodup.of_map path hpaths
  refine (hle.and hne).imp fun ⟨hab, hdifferent⟩ ↦ ?_
  by_contra hnot
  exact hdifferent (String.le_antisymm hab (String.not_lt.mp hnot))

/-! ### Listings -/

/-- The paths of a listing are arranged. -/
theorem exists_arrangement (mapping : Mapping) (disk : Disk) (parent : String) :
    ∃ declared given, (mapping.childPaths parent).on disk = declared ++ given ∧
      IsArranged mapping disk parent declared given := by
  have hnew : ([] ++ (declaredNames mapping disk parent).map (join parent)).Nodup :=
    (nodup_declaredNames mapping disk parent).map (join_injective parent)
  have hall : ((mapping.childPaths parent).on disk).Nodup := nodup_childPaths parent
  have hlisted : (mapping.childPaths parent).on disk = _ := on_childPaths parent
  rw [addDeclared_eq hnew, List.nil_append] at hlisted
  split at hlisted
  · next folder hfolder =>
    obtain ⟨chosen, hchosen, hadded⟩ := addEntries_eq mapping disk parent
      (((declaredNames mapping disk parent).map (join parent)).filter
        fun path ↦ (mapping.isVisible path).on disk) (disk.names folder)
    have hnames : entryNames mapping disk parent = disk.names folder := by
      rw [entryNames, hfolder]
    rw [hlisted, hadded] at hall ⊢
    refine ⟨_, _, rfl, rfl, fun path hgiven hdeclared ↦
      List.disjoint_of_nodup_append hall hdeclared hgiven, chosen,
      pairwise_lt_of_sublist hchosen (List.Nodup.of_append_right hall),
      fun entry hentry ↦ hnames ▸ hchosen.subset hentry, ?_⟩
    exact List.forall₂_map_right_iff.mpr (List.forall₂_same.mpr fun entry _ ↦
      gives_entryPath mapping disk parent entry)
  · exact ⟨_, [], hlisted.trans (List.append_nil _).symm, rfl, by simp, [], .nil, by simp, .nil⟩

theorem on_children? (h : isContained parent = true) : (mapping.children? parent).on disk =
    if (mapping.childPaths parent).on disk = [] then none
    else some (((mapping.childPaths parent).on disk).filterMap
      fun path ↦ (mapping.resolve path).on disk) := by
  rw [← on_resolveAll]
  simp only [children?, childPaths?, h, Lookup.on_bind, Bool.not_true, Bool.false_eq_true, if_false]
  cases hpaths : (mapping.childPaths parent).on disk <;> simp

/-- Assumes: a path without dot segments. Its listing holds visible paths only, each once; it is
arranged into declared paths and paths that entries give; and the children are the resources at its
paths, in this order, unless it is empty. -/
theorem listing_in_order (mapping : Mapping) (disk : Disk) (h : isContained parent = true) :
    ((mapping.childPaths parent).on disk).Nodup ∧
      (∀ path ∈ (mapping.childPaths parent).on disk, (mapping.isVisible path).on disk = true) ∧
        (∃ declared given, (mapping.childPaths parent).on disk = declared ++ given ∧
          IsArranged mapping disk parent declared given) ∧
            (mapping.children? parent).on disk =
              if (mapping.childPaths parent).on disk = [] then none
              else some (((mapping.childPaths parent).on disk).filterMap
                fun path ↦ (mapping.resolve path).on disk) :=
  ⟨nodup_childPaths parent, fun _ hpath ↦ (mem_childPaths.mp hpath).1,
    exists_arrangement mapping disk parent, on_children? h⟩

/-- A folder with a descriptor in it, next to the descriptor of the folder. -/
def describedTwice : Disk :=
  .folder [("jcr_root", .folder [
    ("p", .folder [("page.xml", .file (Utf8.encode "<r x='1'/>") 0)] 0),
    ("p.xml", .file (Utf8.encode "<r><b x='1'/></r>") 0)] 0)] 0

/-- The declared path comes first, and then the path of the entry. -/
theorem declared_before_entry :
    isContained "/p" = true ∧
      (∃ declared given, ["/p/b", "/p/page"] = declared ++ given ∧
        IsArranged (Mapping.mk "jcr_root" none) describedTwice "/p" declared given) ∧
          (((Mapping.mk "jcr_root" none).children? "/p").on describedTwice).map List.length =
            some 2 := by
  have hcontained : isContained "/p" = true := by decide
  have hlisted : ((Mapping.mk "jcr_root" none).childPaths "/p").on describedTwice =
      ["/p/b", "/p/page"] := by decide +kernel
  obtain ⟨-, -, harranged, -⟩ :=
    listing_in_order (Mapping.mk "jcr_root" none) describedTwice hcontained
  rw [hlisted] at harranged
  exact ⟨hcontained, harranged, by decide +kernel⟩

end ContentTree.Mapping
