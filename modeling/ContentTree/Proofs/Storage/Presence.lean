import ContentTree.Proofs.Storage.Alike
/-!
When something stands at a path of a file system without links. At a proper name below a folder
something stands exactly when the folder has the name, and at double dots exactly when there is a
folder above; unless the file system refuses to look the path up at all.
-/

set_option autoImplicit false
set_option relaxedAutoImplicit false

namespace ContentTree.Storage.Disk

open ContentTree.Text ContentTree.Path ContentTree.Storage.FilePath

/-- Whether a path is refused whatever stands there: a name in it or all of it is too long, or it
holds a character that no path has. -/
def IsRefused (disk : Disk) (path : String) : Prop :=
  disk.find path = .error .nameTooLong ∨ disk.find path = .error .nulCharacter

variable {disk : Disk} {place front : List String} {name next path root : String} {here e : Entry}

theorem not_isRefused_of_find (h : disk.find path = .ok e) : ¬ disk.IsRefused path := by
  simp [IsRefused, h]

theorem not_isRefused_of_kind (h : (disk.kind? path).isSome = true) : ¬ disk.IsRefused path := by
  obtain ⟨kind, hkind⟩ := Option.isSome_iff_exists.mp h
  obtain ⟨e, hfind⟩ := kind_eq_some hkind
  exact not_isRefused_of_find hfind

theorem isShortPath_of_not_isRefused (h : ¬ disk.IsRefused path) :
    '\x00' ∉ path.toList ∧ isShortPath path = true := by
  by_cases hnul : path.toList.contains '\x00' = true
  · exact absurd (.inr (by rw [find, spot, if_pos hnul])) h
  · by_cases hshort : isShortPath path = true
    · exact ⟨by simpa using hnul, hshort⟩
    · exact absurd (.inl (by rw [find, spot, if_neg hnul, if_pos (by simpa using hshort)])) h

/-- Without links an entry that a path leads to is a file or a folder. -/
theorem isSome_kind_iff (hdisk : disk.Linkless) :
    (disk.kind? path).isSome = true ↔ ∃ e, disk.find path = .ok e := by
  refine ⟨fun h ↦ ?_, fun ⟨e, hfind⟩ ↦ ?_⟩
  · obtain ⟨kind, hkind⟩ := Option.isSome_iff_exists.mp h
    exact kind_eq_some hkind
  · obtain ⟨place, hplace⟩ := exists_at_of_find hfind
    cases hdisk.of_at hplace with
    | file bytes modified => simp [kind?, hfind]
    | folder below => simp [kind?, hfind]

/-! ### One part more -/

/-- Assumes: a path that leads to an entry, and one more part. The path with the part leads where
the part leads from the place of the entry, unless it is refused. -/
theorem spot_concat (hdisk : disk.Linkless) (hfront : ∀ part ∈ front, IsPart part)
    (hnext : IsPart next) (h : disk.spot (ofParts (anchor root) front) = .ok (.entry place here))
    (hrefused : ¬ disk.IsRefused (ofParts (anchor root) (front ++ [next]))) :
    disk.spot (ofParts (anchor root) (front ++ [next])) =
      followNames disk noJump place.reverse [next] := by
  have hfind := find_eq_ok.mpr ⟨place, h⟩
  have hall : ∀ part ∈ front ++ [next], IsPart part :=
    isPart_of_mem_concat hfront hnext
  obtain ⟨hnul, hshort⟩ := isShortPath_of_not_isRefused hrefused
  rw [anchor_of_find hfind] at hnul hshort ⊢
  have hrelative : ¬ (ofParts "" (front ++ [next]) = "" ∨
      beginsWith "/" (ofParts "" (front ++ [next])) = true) :=
    not_or.mpr ⟨ofParts_ne_empty _ _, not_beginsWith_ofParts_empty hall⟩
  rw [spot, if_neg (by simpa using hnul), if_neg (by simp [hshort]), if_neg hrelative,
    follow_eq_noJump hdisk, followNames_segments (isFolder_of_find hfind) hall,
    followNames_append (followNames_of_spot hdisk hfront h)]

/-- Assumes: a path with one more part that leads anywhere. The path without it does so, too. -/
theorem exists_spot_of_concat (hdisk : disk.Linkless) (hfront : ∀ part ∈ front, IsPart part)
    (hnext : IsPart next) (h : disk.find (ofParts (anchor root) (front ++ [next])) = .ok e) :
    ∃ place here, disk.spot (ofParts (anchor root) front) = .ok (.entry place here) := by
  have hall : ∀ part ∈ front ++ [next], IsPart part :=
    isPart_of_mem_concat hfront hnext
  obtain ⟨reached, hspot⟩ := find_eq_ok.mp h
  obtain ⟨place, here, hplace, -⟩ :=
    exists_base_of_followNames (followNames_of_spot hdisk hall hspot)
  exact ⟨place, here, spot_of_concat hfront hnext h (by rw [follow_eq_noJump hdisk, hplace])⟩

/-! ### Names and double dots -/

/-- Assumes: the place of a folder with a name, in a file system without links. The name leads to
its entry, unless it is too long. -/
theorem followNames_member {inner : Entry} (hdisk : disk.Linkless) (hname : IsName name)
    (hplace : disk.at? place = some here) (hmember : here.member? name = some inner) :
    followNames disk noJump place.reverse [name] =
      if isShortName name = true then .ok (.entry (place ++ [name]) inner)
      else .error .nameTooLong := by
  obtain ⟨entries, modified, rfl, -⟩ := Entry.folder_of_member hmember
  have hinner : disk.at? (place ++ [name]) = some inner := by
    rw [Entry.at_concat, hplace, Option.bind_some, hmember]
  have hempty : ¬ (name = "" ∨ name = ".") := by simp [hname.1, hname.2.1]
  rw [followNames.eq_def]
  cases hshort : isShortName name with
  | false => simp [hplace, Entry.isFolder, hempty, hname.2.2.1, hshort]
  | true =>
    cases (hdisk.of_at hplace).of_member hmember with
    | file bytes modified =>
      simp [hplace, Entry.isFolder, hempty, hname.2.2.1, hshort, hmember, followNames.eq_def, hinner]
    | folder below =>
      simp [hplace, Entry.isFolder, hempty, hname.2.2.1, hshort, hmember, followNames.eq_def, hinner]

/-- Something stands at a proper name below a folder exactly when the folder has the name, unless
the path is refused. -/
theorem isSome_kind_name_iff (hdisk : disk.Linkless) (hfront : ∀ part ∈ front, IsPart part)
    (hname : IsName name) :
    (disk.kind? (ofParts (anchor root) (front ++ [name]))).isSome = true ↔
      name ∈ disk.names (ofParts (anchor root) front) ∧
        ¬ disk.IsRefused (ofParts (anchor root) (front ++ [name])) := by
  constructor
  · intro h
    obtain ⟨kind, hkind⟩ := Option.isSome_iff_exists.mp h
    exact ⟨(mem_names_of_kind hfront hname hkind).2, not_isRefused_of_kind h⟩
  · rintro ⟨hlisted, hrefused⟩
    obtain ⟨entries, modified, hfind, hmem⟩ := mem_names.mp hlisted
    obtain ⟨place, hspot⟩ := find_eq_ok.mp hfind
    obtain ⟨inner, hmember⟩ :
        ∃ inner, (Entry.folder entries modified).member? name = some inner := by
      rw [← Option.isSome_iff_exists, Entry.member?, List.lookup_isSome_iff]
      obtain ⟨entry, hentry, rfl⟩ := List.mem_map.mp hmem
      exact ⟨entry, hentry, beq_self_eq_true _⟩
    have hconcat := spot_concat hdisk hfront (isPart_of_isName hname) hspot hrefused
    rw [followNames_member hdisk hname (at_of_spot hspot) hmember]
      at hconcat
    split_ifs at hconcat
    · exact (isSome_kind_iff hdisk).mpr ⟨inner, find_eq_ok.mpr ⟨_, hconcat⟩⟩
    · exact absurd (.inl (by rw [find, hconcat])) hrefused

/-- Assumes: a path that leads to an entry. Double dots below it lead to a folder if the entry is a
folder other than the top, unless they are refused. -/
theorem kind_above (hdisk : disk.Linkless) (hfront : ∀ part ∈ front, IsPart part)
    (h : disk.spot (ofParts (anchor root) front) = .ok (.entry place here))
    (hrefused : ¬ disk.IsRefused (ofParts (anchor root) (front ++ [".."]))) :
    disk.kind? (ofParts (anchor root) (front ++ [".."])) =
      if here.isFolder = true ∧ place ≠ [] then some .folder else none := by
  have hplace : disk.at? place.reverse.reverse = some here := by
    rw [List.reverse_reverse]
    exact at_of_spot h
  rw [kind_eq_face, face_eq_seen,
    spot_concat hdisk hfront (by decide) h hrefused, kindOf_seen_dots hplace]
  simp

theorem kind_eq_folder_iff (h : disk.spot path = .ok (.entry place here)) :
    disk.kind? path = some .folder ↔ here.isFolder = true := by
  cases here <;> simp [kind?, find, h, Entry.isFolder]

theorem holder_isSome_iff (h : disk.spot path = .ok (.entry place here)) :
    (disk.holder? path).isSome = true ↔ place ≠ [] := by
  cases place <;> simp [holder?, h]

/-- Something stands at double dots below a path exactly when the path leads to a folder other than
the top, unless the path with the dots is refused. -/
theorem isSome_kind_above_iff (hdisk : disk.Linkless) (hfront : ∀ part ∈ front, IsPart part) :
    (disk.kind? (ofParts (anchor root) (front ++ [".."]))).isSome = true ↔
      disk.kind? (ofParts (anchor root) front) = some .folder ∧
        (disk.holder? (ofParts (anchor root) front)).isSome = true ∧
          ¬ disk.IsRefused (ofParts (anchor root) (front ++ [".."])) := by
  constructor
  · intro h
    obtain ⟨e, hfind⟩ := (isSome_kind_iff hdisk).mp h
    obtain ⟨place, here, hspot⟩ :=
      exists_spot_of_concat hdisk hfront (by decide) hfind
    have hrefused := not_isRefused_of_find hfind
    rw [kind_above hdisk hfront hspot hrefused] at h
    rw [kind_eq_folder_iff hspot, holder_isSome_iff hspot]
    split_ifs at h with hfolder
    · exact ⟨hfolder.1, hfolder.2, hrefused⟩
    · cases h
  · rintro ⟨hkind, hholder, hrefused⟩
    obtain ⟨e, hfind⟩ := kind_eq_some hkind
    obtain ⟨place, hspot⟩ := find_eq_ok.mp hfind
    rw [kind_eq_folder_iff hspot] at hkind
    rw [holder_isSome_iff hspot] at hholder
    rw [kind_above hdisk hfront hspot hrefused, if_pos ⟨hkind, hholder⟩, Option.isSome_some]

end ContentTree.Storage.Disk
