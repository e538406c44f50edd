import ContentTree.Proofs.Storage.Disk
/-!
File systems without links. Nothing makes a path jump there, so it ends where its names go down
from the place reached before them, and paths that go on from one place by different names end at
different places.
-/

set_option autoImplicit false
set_option relaxedAutoImplicit false

namespace ContentTree.Storage

open ContentTree.Text ContentTree.Path ContentTree.Storage.FilePath

namespace Entry

/-- An entry without a link in it. -/
inductive Linkless : Entry → Prop
  | file (bytes : List UInt8) (modified : Rat) : Linkless (.file bytes modified)
  | folder {entries : List (String × Entry)} {modified : Rat}
      (below : ∀ entry ∈ entries, Linkless entry.2) : Linkless (.folder entries modified)

variable {e inner : Entry} {name : String} {place : List String}

theorem Linkless.of_member (h : Linkless e) (hmember : e.member? name = some inner) :
    Linkless inner := by
  obtain ⟨entries, modified, rfl, hmem⟩ := folder_of_member hmember
  cases h with
  | folder below => exact below _ hmem

theorem Linkless.of_at (h : Linkless e) (hat : e.at? place = some inner) : Linkless inner := by
  induction place generalizing e with
  | nil =>
    simp only [at?, Option.some.injEq] at hat
    exact hat ▸ h
  | cons name rest ih =>
    obtain ⟨middle, hmember, hrest⟩ := Option.bind_eq_some_iff.mp hat
    exact ih (h.of_member hmember) hrest

end Entry

namespace Disk

variable {disk : Disk} {links : Nat} {place reached front back names : List String}
  {name path root : String} {e : Entry}
  {jump : List String → String → List String → Except PathFault Spot}

/-- The jump that leads nowhere, for file systems in which there is nothing to jump to. -/
def noJump : List String → String → List String → Except PathFault Spot :=
  fun _ _ _ ↦ .error .missing

/-! ### Paths without jumps -/

theorem followNames_eq_noJump (hdisk : disk.Linkless) :
    followNames disk jump place names = followNames disk noJump place names := by
  induction names generalizing place with
  | nil => rw [followNames.eq_def, followNames.eq_def]
  | cons segment rest ih =>
    simp only [followNames.eq_def disk _ place (segment :: rest)]
    cases hat : disk.at? place.reverse with
    | none => rfl
    | some here =>
      cases hmember : here.member? segment with
      | none => simp only [hmember, ih]
      | some inner =>
        cases (hdisk.of_at hat).of_member hmember with
        | file bytes modified => simp only [hmember, ih]
        | folder below => simp only [hmember, ih]

theorem follow_eq_noJump (hdisk : disk.Linkless) :
    follow disk links place names = followNames disk noJump place names := by
  cases links with
  | zero => exact followNames_eq_noJump hdisk
  | succ links => exact followNames_eq_noJump hdisk

theorem exists_at_of_followNames (h : followNames disk jump place names = .ok (.entry reached e)) :
    ∃ here, disk.at? place.reverse = some here := by
  cases hat : disk.at? place.reverse with
  | some here => exact ⟨here, rfl⟩
  | none => cases names <;> simp [followNames.eq_def, hat] at h

/-- Without jumps a path goes on from the place that its first name leads to. -/
theorem followNames_noJump {rest : List String}
    (h : followNames disk noJump place (name :: rest) = .ok (.entry reached e))
    (others : List String) :
    followNames disk noJump place (name :: others) =
      followNames disk noJump (move place name) others := by
  rcases followNames_cons h with hsame | ⟨target, htarget, -⟩
  · exact hsame others
  · cases htarget

/-- Assumes: a path without jumps that ends at an entry. With more names it goes on from there. -/
theorem followNames_append (h : followNames disk noJump place front = .ok (.entry reached e))
    (back : List String) :
    followNames disk noJump place (front ++ back) =
      followNames disk noJump reached.reverse back := by
  induction front generalizing place with
  | nil =>
    obtain ⟨here, hat⟩ := exists_at_of_followNames h
    simp only [followNames.eq_def, hat, Except.ok.injEq, Spot.entry.injEq] at h
    rw [List.nil_append, ← h.1, List.reverse_reverse]
  | cons segment rest ih =>
    have hrest := followNames_noJump h rest ▸ h
    rw [List.cons_append, followNames_noJump h (rest ++ back), ih hrest]

/-- Where a path without jumps ends is told by its names. -/
theorem reached_eq (h : followNames disk noJump place names = .ok (.entry reached e)) :
    reached = (names.foldl move place).reverse := by
  induction names generalizing place with
  | nil =>
    obtain ⟨here, hat⟩ := exists_at_of_followNames h
    simp only [followNames.eq_def, hat, Except.ok.injEq, Spot.entry.injEq] at h
    exact h.1.symm
  | cons name rest ih => exact ih (followNames_noJump h rest ▸ h)

theorem foldl_move (hnames : ∀ name ∈ names, IsName name) (place : List String) :
    names.foldl move place = names.reverse ++ place := by
  induction names generalizing place with
  | nil => rfl
  | cons name rest ih =>
    obtain ⟨hname, hrest⟩ := List.forall_mem_cons.mp hnames
    rw [List.foldl_cons, move_name hname, ih hrest, List.reverse_cons, List.append_assoc,
      List.singleton_append]

/-- Without jumps the names in front lead to a place from which the others go on. -/
theorem exists_base_of_followNames
    (h : followNames disk noJump place (front ++ back) = .ok (.entry reached e)) :
    ∃ base here, followNames disk noJump place front = .ok (.entry base here) ∧
      followNames disk noJump base.reverse back = .ok (.entry reached e) := by
  induction front generalizing place with
  | nil =>
    obtain ⟨here, hat⟩ := exists_at_of_followNames h
    exact ⟨place.reverse, here, by simp [followNames.eq_def, hat], by simpa using h⟩
  | cons segment rest ih =>
    rw [followNames_noJump h rest]
    exact ih (followNames_noJump h (rest ++ back) ▸ h)

/-- The path of no parts leads nowhere but to the current folder. -/
theorem followNames_segments (hdisk : disk.isFolder = true)
    (hparts : ∀ part ∈ names, IsPart part) :
    followNames disk jump [] (segments (ofParts "" names)) = followNames disk jump [] names := by
  rw [segments_ofParts_empty hparts]
  split_ifs with hnil
  · rw [hnil, followNames.eq_def disk jump [] ["."]]
    simp [Entry.at?, hdisk]
  · rfl

/-! ### Places of paths -/

/-- Where a path leads is where its parts lead. -/
theorem followNames_of_spot (hdisk : disk.Linkless) (hparts : ∀ part ∈ names, IsPart part)
    (h : disk.spot (ofParts (anchor root) names) = .ok (.entry reached e)) :
    followNames disk noJump [] names = .ok (.entry reached e) := by
  have hfind := find_eq_ok.mpr ⟨reached, h⟩
  have hfollow := (spot_eq_ok.mp h).2.2.2
  rwa [anchor_of_find hfind, follow_eq_noJump hdisk,
    followNames_segments (isFolder_of_find hfind) hparts] at hfollow

/-- Assumes: a file system without links, and proper names after the parts of a folder's path. What
the path leads to stands below the place of the folder, by these names. -/
theorem exists_base_of_spot (hdisk : disk.Linkless) (hfront : ∀ part ∈ front, IsPart part)
    (hback : ∀ name ∈ back, IsName name)
    (h : disk.spot (ofParts (anchor root) (front ++ back)) = .ok (.entry reached e)) :
    ∃ base here, followNames disk noJump [] front = .ok (.entry base here) ∧
      reached = base ++ back := by
  have hall : ∀ part ∈ front ++ back, IsPart part :=
    List.forall_mem_append.mpr ⟨hfront, fun name hname ↦ isPart_of_isName (hback name hname)⟩
  obtain ⟨base, here, hbase, hrest⟩ :=
    exists_base_of_followNames (followNames_of_spot hdisk hall h)
  refine ⟨base, here, hbase, ?_⟩
  rw [reached_eq hrest, foldl_move hback, List.reverse_append, List.reverse_reverse,
    List.reverse_reverse]

/-- The place in the file system that a path leads to. -/
def place? (disk : Disk) (path : String) : Option (List String) :=
  match disk.spot path with
  | .ok (.entry place _) => some place
  | _ => none

theorem place_eq_some :
    disk.place? path = some place ↔ ∃ e, disk.spot path = .ok (.entry place e) := by
  unfold place?
  cases hspot : disk.spot path with
  | error fault => simp
  | ok spot =>
    cases spot with
    | entry found e => simp
    | vacant found => simp

theorem exists_place_of_kind {kind : Kind} (h : disk.kind? path = some kind) :
    ∃ place, disk.place? path = some place := by
  obtain ⟨e, hfind⟩ := kind_eq_some h
  obtain ⟨place, hspot⟩ := find_eq_ok.mp hfind
  exact ⟨place, place_eq_some.mpr ⟨e, hspot⟩⟩

/-- Assumes: a file system without links. Paths that go on from one folder by proper names and lead
to the same place go on by the same names. -/
theorem eq_of_place (hdisk : disk.Linkless) (hfront : ∀ part ∈ front, IsPart part)
    (hnames : ∀ name ∈ names, IsName name) (hback : ∀ name ∈ back, IsName name)
    (h : disk.place? (ofParts (anchor root) (front ++ names)) = some place)
    (hother : disk.place? (ofParts (anchor root) (front ++ back)) = some place) :
    names = back := by
  obtain ⟨e, hspot⟩ := place_eq_some.mp h
  obtain ⟨other, hotherSpot⟩ := place_eq_some.mp hother
  obtain ⟨base, here, hbase, hreached⟩ := exists_base_of_spot hdisk hfront hnames hspot
  obtain ⟨base', here', hbase', hreached'⟩ := exists_base_of_spot hdisk hfront hback hotherSpot
  rw [hbase, Except.ok.injEq, Spot.entry.injEq] at hbase'
  rw [hreached, hbase'.1] at hreached'
  exact List.append_cancel_left hreached'

end Disk

end ContentTree.Storage
