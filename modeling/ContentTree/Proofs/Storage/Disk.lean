import ContentTree.Proofs.Storage.FilePath
import ContentTree.Storage.Disk
/-!
What following a path finds. Whatever a path leads to stands at a place of the tree, and a path
that leads on to one more name leads without it to a folder that holds the name.
-/

set_option autoImplicit false
set_option relaxedAutoImplicit false

namespace ContentTree.Storage

open ContentTree.Text ContentTree.Path ContentTree.Storage.FilePath

namespace Entry

/-- An entry below which every name is one that an operating system lets stand in a folder. -/
inductive WellNamed : Entry → Prop
  | file (bytes : List UInt8) (modified : Rat) : WellNamed (.file bytes modified)
  | link (target : String) : WellNamed (.link target)
  | folder {entries : List (String × Entry)} {modified : Rat}
      (proper : ∀ entry ∈ entries, IsName entry.1)
      (below : ∀ entry ∈ entries, WellNamed entry.2) : WellNamed (.folder entries modified)

variable {e inner : Entry} {name : String} {place : List String}

/-- Only a folder has members. -/
theorem folder_of_member (h : e.member? name = some inner) :
    ∃ entries modified, e = .folder entries modified ∧ (name, inner) ∈ entries := by
  cases e with
  | folder entries modified =>
    obtain ⟨front, back, hentries, -⟩ := List.lookup_eq_some_iff.mp h
    exact ⟨entries, modified, rfl, by simp [hentries]⟩
  | file bytes modified => simp [member?] at h
  | link target => simp [member?] at h

/-- What stands in a folder with one entry is the folder or stands in the entry. -/
theorem eq_or_at_of_single {key : String} {modified : Rat}
    (h : (folder [(key, inner)] modified).at? place = some e) :
    e = folder [(key, inner)] modified ∨ ∃ rest, inner.at? rest = some e := by
  cases place with
  | nil => exact .inl (Option.some.inj h).symm
  | cons name rest =>
    obtain ⟨middle, hmember, hrest⟩ := Option.bind_eq_some_iff.mp h
    obtain ⟨entries, _, hentries, hmem⟩ := folder_of_member hmember
    rw [folder.injEq] at hentries
    rw [← hentries.1, List.mem_singleton, Prod.mk.injEq] at hmem
    exact .inr ⟨rest, hmem.2 ▸ hrest⟩

theorem WellNamed.of_at (h : WellNamed e) (hat : e.at? place = some inner) : WellNamed inner := by
  induction place generalizing e with
  | nil =>
    simp only [at?, Option.some.injEq] at hat
    exact hat ▸ h
  | cons name rest ih =>
    obtain ⟨middle, hmember, hrest⟩ := Option.bind_eq_some_iff.mp hat
    obtain ⟨entries, modified, rfl, hmem⟩ := folder_of_member hmember
    cases h with
    | folder proper below => exact ih (below _ hmem) hrest

end Entry

/-! ### Names in order -/

@[simp] theorem mem_insertName {name other : String} {names : List String} :
    other ∈ insertName name names ↔ other = name ∨ other ∈ names := by
  induction names with
  | nil => simp [insertName]
  | cons first rest ih =>
    rw [insertName]
    split
    · rw [List.mem_cons, ih, List.mem_cons, or_left_comm]
    · rw [List.mem_cons]

@[simp] theorem mem_sortNames {name : String} {names : List String} :
    name ∈ sortNames names ↔ name ∈ names := by
  induction names with
  | nil => rfl
  | cons first rest ih => rw [sortNames, List.foldr_cons, mem_insertName, List.mem_cons, ← ih, sortNames]

theorem pairwise_insertName {name : String} {names : List String}
    (h : names.Pairwise (· ≤ ·)) : (insertName name names).Pairwise (· ≤ ·) := by
  induction h with
  | nil => exact List.pairwise_singleton ..
  | cons hfirst hrest ih =>
    rename_i first rest
    rw [insertName]
    split_ifs with hbefore
    · refine ih.cons fun other hother ↦ ?_
      rcases mem_insertName.mp hother with rfl | hmem
      · exact String.not_lt.mp (String.lt_asymm hbefore)
      · exact hfirst other hmem
    · refine (hrest.cons hfirst).cons fun other hother ↦ ?_
      have hle : name ≤ first := String.not_lt.mp hbefore
      rcases List.mem_cons.mp hother with rfl | hmem
      · exact hle
      · exact String.le_trans hle (hfirst other hmem)

theorem pairwise_sortNames (names : List String) : (sortNames names).Pairwise (· ≤ ·) := by
  induction names with
  | nil => exact .nil
  | cons name rest ih => exact pairwise_insertName ih

namespace Disk

variable {disk : Disk} {links : Nat} {place reached front : List String} {name path root : String}
  {e : Entry} {jump : List String → String → List String → Except PathFault Spot}

/-! ### Where paths end -/

/-- Where a name leads from a place if it leads anywhere and is no link; the innermost name of a
place is the first. -/
def move (place : List String) (segment : String) : List String :=
  if segment = "" ∨ segment = "." then place
  else if segment = ".." then place.tail
  else segment :: place

theorem move_name (hname : IsName name) (place : List String) : move place name = name :: place := by
  rw [move, if_neg (by simp [hname.1, hname.2.1]), if_neg hname.2.2.1]

/-- The ways in which names can lead on to an entry: a name leads to a place, or is a link. Which
place that is does not depend on the names after it. -/
theorem followNames_cons {segment : String} {rest : List String}
    (h : followNames disk jump place (segment :: rest) = .ok (.entry reached e)) :
    (∀ others, followNames disk jump place (segment :: others) =
      followNames disk jump (move place segment) others) ∨
    (∃ target, jump place target rest = .ok (.entry reached e) ∧
      ∀ others, followNames disk jump place (segment :: others) = jump place target others) := by
  cases hat : disk.at? place.reverse with
  | none => simp [followNames.eq_def, hat] at h
  | some here =>
    have hstep : ∀ others, followNames disk jump place (segment :: others) = _ := fun others ↦
      followNames.eq_def disk jump place (segment :: others)
    simp only [hat] at hstep
    rw [hstep] at h
    by_cases hfolder : (!here.isFolder) = true
    · rw [if_pos hfolder] at h
      cases h
    unfold move
    by_cases hskip : segment = "" ∨ segment = "."
    · exact .inl fun others ↦ by rw [hstep, if_neg hfolder, if_pos hskip, if_pos hskip]
    rw [if_neg hskip]
    by_cases hup : segment = ".."
    · cases place with
      | nil =>
        rw [if_neg hfolder, if_neg hskip, if_pos hup] at h
        cases h
      | cons inner outer =>
        exact .inl fun others ↦ by
          rw [hstep, if_neg hfolder, if_neg hskip, if_pos hup, if_pos hup, List.tail_cons]
    rw [if_neg hup]
    by_cases hlong : (!isShortName segment) = true
    · rw [if_neg hfolder, if_neg hskip, if_neg hup, if_pos hlong] at h
      cases h
    simp only [if_neg hfolder, if_neg hskip, if_neg hup, if_neg hlong] at h hstep
    cases hmember : here.member? segment with
    | none =>
      simp only [hmember] at h
      split_ifs at h
      simp at h
    | some inner =>
      simp only [hmember] at h hstep
      cases inner with
      | link target => exact .inr ⟨target, h, hstep⟩
      | file bytes modified => exact .inl hstep
      | folder entries modified => exact .inl hstep

/-- Assumes: links that lead to places of the tree. So do names. -/
theorem at_of_followNames {names : List String}
    (hjump : ∀ place target rest, jump place target rest = .ok (.entry reached e) →
      disk.at? reached = some e)
    (h : followNames disk jump place names = .ok (.entry reached e)) :
    disk.at? reached = some e := by
  induction names generalizing place with
  | nil =>
    unfold followNames at h
    split at h
    · next entry hat =>
      simp only [Except.ok.injEq, Spot.entry.injEq] at h
      rw [← h.1, hat, h.2]
    · cases h
  | cons segment rest ih =>
    rcases followNames_cons h with hsame | ⟨target, htarget, -⟩
    · exact ih (hsame rest ▸ h)
    · exact hjump place target rest htarget

theorem at_of_follow {names : List String}
    (h : follow disk links place names = .ok (.entry reached e)) : disk.at? reached = some e := by
  induction links generalizing place names with
  | zero => exact at_of_followNames (by simp) h
  | succ links ih =>
    refine at_of_followNames (fun place target rest hjump ↦ ?_) h
    split_ifs at hjump
    exact ih hjump

/-- Assumes: links that lead, with names after them, through a folder that holds the last name. So
do names. -/
theorem followNames_concat (hname : IsName name)
    (hjump : ∀ place target front, jump place target (front ++ [name]) = .ok (.entry reached e) →
      ∃ outer here inner, jump place target front = .ok (.entry outer here) ∧
        here.member? name = some inner)
    (h : followNames disk jump place (front ++ [name]) = .ok (.entry reached e)) :
    ∃ outer here inner, followNames disk jump place front = .ok (.entry outer here) ∧
      here.member? name = some inner := by
  induction front generalizing place with
  | nil =>
    have hempty : ¬ (name = "" ∨ name = ".") := by simp [hname.1, hname.2.1]
    rw [List.nil_append, followNames.eq_def] at h
    cases hat : disk.at? place.reverse with
    | none => simp [hat] at h
    | some here =>
      cases hmember : here.member? name with
      | none =>
        simp only [hat, hmember, if_neg hempty, if_neg hname.2.2.1, if_true] at h
        split_ifs at h
        simp at h
      | some inner => exact ⟨place.reverse, here, inner, by simp [followNames.eq_def, hat], hmember⟩
  | cons segment rest ih =>
    rcases followNames_cons h with hsame | ⟨target, htarget, hsame⟩
    · rw [hsame]
      exact ih (hsame (rest ++ [name]) ▸ h)
    · rw [hsame]
      exact hjump place target rest htarget

theorem follow_concat (hname : IsName name)
    (h : follow disk links place (front ++ [name]) = .ok (.entry reached e)) :
    ∃ outer here inner, follow disk links place front = .ok (.entry outer here) ∧
      here.member? name = some inner := by
  induction links generalizing place front with
  | zero => exact followNames_concat hname (by simp) h
  | succ links ih =>
    refine followNames_concat hname (fun place target front hjump ↦ ?_) h
    split_ifs at hjump ⊢ with hslash
    rw [← List.append_assoc] at hjump
    exact ih hjump

/-! ### Finding -/

theorem find_eq_ok :
    disk.find path = .ok e ↔ ∃ reached, disk.spot path = .ok (.entry reached e) := by
  unfold find
  cases hspot : disk.spot path with
  | error fault => simp
  | ok spot => cases spot <;> simp

/-- Paths that lead anywhere are short, go down from the current folder and hold no odd character.
-/
theorem spot_eq_ok {spot : Spot} : disk.spot path = .ok spot ↔
    '\x00' ∉ path.toList ∧ isShortPath path = true ∧ ¬ (path = "" ∨ beginsWith "/" path = true) ∧
      follow disk maxLinks [] (segments path) = .ok spot := by
  unfold Disk.spot
  split_ifs <;> simp_all

theorem isShortPath_of_find (h : disk.find path = .ok e) : isShortPath path = true := by
  obtain ⟨reached, hspot⟩ := find_eq_ok.mp h
  exact (spot_eq_ok.mp hspot).2.1

/-- Only a path from the current folder leads anywhere. -/
theorem anchor_of_find (h : disk.find (ofParts (anchor root) front) = .ok e) :
    anchor root = "" := by
  obtain ⟨reached, hspot⟩ := find_eq_ok.mp h
  have hrelative := (spot_eq_ok.mp hspot).2.2.1
  rcases anchor_cases root with hroot | hroot | hroot
  · exact hroot
  · exact absurd (.inr (by simp [hroot, ofParts, beginsWith])) hrelative
  · exact absurd (.inr (by simp [hroot, ofParts, beginsWith])) hrelative

theorem kind_eq_some {kind : Kind} (h : disk.kind? path = some kind) :
    ∃ e, disk.find path = .ok e := by
  unfold kind? at h
  split at h
  · exact ⟨_, by assumption⟩
  · exact ⟨_, by assumption⟩
  · cases h

theorem at_of_spot (h : disk.spot path = .ok (.entry reached e)) : disk.at? reached = some e :=
  at_of_follow (spot_eq_ok.mp h).2.2.2

/-- Whatever is found stands at a place of the tree. -/
theorem exists_at_of_find (h : disk.find path = .ok e) : ∃ place, disk.at? place = some e := by
  obtain ⟨reached, hspot⟩ := find_eq_ok.mp h
  exact ⟨reached, at_of_spot hspot⟩

theorem wellNamed_of_find (hdisk : disk.WellNamed) (h : disk.find path = .ok e) : e.WellNamed := by
  obtain ⟨place, hplace⟩ := exists_at_of_find h
  exact hdisk.of_at hplace

theorem mem_names : name ∈ disk.names path ↔
    ∃ entries modified, disk.find path = .ok (.folder entries modified) ∧
      name ∈ entries.map (·.1) := by
  unfold names
  split
  · next entries modified hfind => simp [hfind]
  · next hfind =>
    simp only [List.not_mem_nil, false_iff, not_exists, not_and]
    intro entries modified hentries
    exact absurd hentries (hfind entries modified)

/-- The names in a folder come in the order of their characters. -/
theorem pairwise_names (disk : Disk) (path : String) : (disk.names path).Pairwise (· ≤ ·) := by
  unfold names
  split
  · exact pairwise_sortNames _
  · exact List.Pairwise.nil

theorem isName_of_mem_names (hdisk : disk.WellNamed) (h : name ∈ disk.names path) :
    IsName name := by
  obtain ⟨entries, modified, hfind, hname⟩ := mem_names.mp h
  obtain ⟨entry, hentry, rfl⟩ := List.mem_map.mp hname
  cases wellNamed_of_find hdisk hfind with
  | folder proper below => exact proper entry hentry

theorem follow_dot (h : disk.isFolder = true) :
    follow disk links [] ["."] = follow disk links [] [] := by
  cases links with
  | zero => simp [follow, followNames.eq_def disk _ [] ["."], h, Entry.at?]
  | succ links => simp [follow, followNames.eq_def disk _ [] ["."], h, Entry.at?]

theorem isFolder_of_find (h : disk.find path = .ok e) : disk.isFolder = true := by
  obtain ⟨reached, hspot⟩ := find_eq_ok.mp h
  have hfollow := (spot_eq_ok.mp hspot).2.2.2
  obtain ⟨segment, rest, hsegments⟩ := List.exists_cons_of_ne_nil (segments_ne_nil path)
  rw [hsegments] at hfollow
  cases hfolder : disk.isFolder with
  | true => rfl
  | false =>
    have hnowhere : ∀ jump, followNames disk jump [] (segment :: rest) = .error .notFolder := by
      intro jump
      rw [followNames.eq_def]
      simp [Entry.at?, hfolder]
    have hnone : ∀ links, follow disk links [] (segment :: rest) = .error .notFolder := by
      intro links
      cases links with
      | zero => exact hnowhere _
      | succ links => exact hnowhere _
    rw [hnone] at hfollow
    cases hfollow

/-- Assumes: a path that leads to an entry with one more part. Without it the path leads to where
its parts lead. -/
theorem spot_of_concat {outer : List String} {here : Entry} (hparts : ∀ part ∈ front, IsPart part)
    (hname : IsPart name) (h : disk.find (ofParts (anchor root) (front ++ [name])) = .ok e)
    (hfollow : follow disk maxLinks [] front = .ok (.entry outer here)) :
    disk.spot (ofParts (anchor root) front) = .ok (.entry outer here) := by
  obtain ⟨reached, hspot⟩ := find_eq_ok.mp h
  obtain ⟨hnul, hshort, -, -⟩ := spot_eq_ok.mp hspot
  rw [anchor_of_find h] at hnul hshort ⊢
  rw [spot_eq_ok]
  by_cases hnil : front = []
  · have hdot : segments (ofParts "" []) = ["."] := by decide
    subst hnil
    exact ⟨by decide, by decide, by decide,
      by rw [hdot, follow_dot (isFolder_of_find h), hfollow]⟩
  · rw [ofParts_empty_concat hparts hname hnil] at hnul hshort
    refine ⟨?_, ?_, ?_, ?_⟩
    · exact fun hmem ↦ hnul (by simp [hmem])
    · rw [String.append_assoc] at hshort
      exact isShortPath_of_append hshort
    · rintro (hempty | hslash)
      · exact ofParts_ne_empty _ _ hempty
      · exact not_beginsWith_ofParts_empty hparts hslash
    · rw [segments_ofParts_empty hparts, if_neg hnil]
      exact hfollow

/-- Assumes: parts, and one more proper name. If the path with the name leads anywhere, then the
path without it leads to a folder that has the name. -/
theorem mem_names_of_kind {kind : Kind} (hparts : ∀ part ∈ front, IsPart part) (hname : IsName name)
    (h : disk.kind? (ofParts (anchor root) (front ++ [name])) = some kind) :
    disk.kind? (ofParts (anchor root) front) = some .folder ∧
      name ∈ disk.names (ofParts (anchor root) front) := by
  obtain ⟨e, h⟩ := kind_eq_some h
  obtain ⟨reached, hspot⟩ := find_eq_ok.mp h
  have hall : ∀ part ∈ front ++ [name], IsPart part :=
    isPart_of_mem_concat hparts (isPart_of_isName hname)
  have hfollow := (spot_eq_ok.mp hspot).2.2.2
  rw [anchor_of_find h, segments_ofParts_empty hall, if_neg (by simp)] at hfollow
  obtain ⟨outer, here, inner, hfront, hmember⟩ := follow_concat hname hfollow
  obtain ⟨entries, modified, rfl, hmem⟩ := Entry.folder_of_member hmember
  have hfind : disk.find (ofParts (anchor root) front) = .ok (.folder entries modified) :=
    find_eq_ok.mpr ⟨outer, spot_of_concat hparts (isPart_of_isName hname) h hfront⟩
  exact ⟨by simp [kind?, hfind],
    mem_names.mpr ⟨entries, modified, hfind, List.mem_map.mpr ⟨_, hmem, rfl⟩⟩⟩

end Disk

end ContentTree.Storage
