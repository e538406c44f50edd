import ContentTree.Proofs.Result
import ContentTree.Proofs.Storage.Presence
import ContentTree.Proofs.Table
import ContentTree.Storage.Change
/-!
What a change of a file system without links leaves as it was. An entry that is put in a folder is
there afterwards, entries at places apart from it are the same, and whatever was a folder is one
still, so a path that led to a folder leads to the same place. Main statements: what making a folder
and writing a file in a folder that stands do, and what making folders makes.
-/

set_option autoImplicit false
set_option relaxedAutoImplicit false

namespace ContentTree.Storage

open ContentTree.Text ContentTree.Path ContentTree.Storage.FilePath

namespace Entry

variable {e new : Entry} {entries : List (String × Entry)} {modified time : Rat}
  {place base other : List String} {name : String}

/-! ### Entries that are put -/

/-- Whether two places part at some name, so that neither is at or below the other. -/
def Apart (place other : List String) : Prop :=
  ∃ front name next rest more, name ≠ next ∧ place = front ++ name :: rest ∧
    other = front ++ next :: more

/-- Whether all folders of one entry are folders of another. -/
def KeepsFolders (first second : Entry) : Prop :=
  ∀ place entries modified, first.at? place = some (.folder entries modified) →
    ∃ entries' modified', second.at? place = some (.folder entries' modified')

theorem KeepsFolders.refl (e : Entry) : KeepsFolders e e :=
  fun _ entries modified h ↦ ⟨entries, modified, h⟩

theorem at_put_cons (entries : List (String × Entry)) (name next : String)
    (rest more : List String) (new : Entry) :
    ((folder entries modified).put time (name :: rest) new).at? (next :: more) =
      if next = name then
        (((entries.lookup name).getD (folder [] time)).put time rest new).at? more
      else (folder entries modified).at? (next :: more) := by
  rw [put, at_cons, at_cons, member?, member?, Table.lookup_put]
  split <;> rfl

/-- What is put in a folder is there. The folder has changed if it did not have the name. -/
theorem at_put_concat (h : e.at? base = some (folder entries modified)) (name : String)
    (new : Entry) :
    (e.put time (base ++ [name]) new).at? base = some (folder (Table.put name new entries)
      (if (entries.lookup name).isSome then modified else time)) := by
  induction base generalizing e with
  | nil =>
    obtain rfl : e = folder entries modified := Option.some.inj h
    rfl
  | cons first base ih =>
    obtain ⟨child, hmember, hchild⟩ := Option.bind_eq_some_iff.mp (at_cons e first base ▸ h)
    obtain ⟨outer, changed, rfl, -⟩ := folder_of_member hmember
    rw [member?] at hmember
    rw [List.cons_append, at_put_cons, if_pos rfl, hmember, Option.getD_some, ih hchild]

/-- What stands at a name in a folder is the folder's entry under the name. -/
theorem at_name (h : e.at? base = some (folder entries modified)) (name : String) :
    e.at? (base ++ [name]) = entries.lookup name := by
  rw [at_concat, h, Option.bind_some, member?]

theorem at_put_self (h : e.at? base = some (folder entries modified)) (name : String) (new : Entry) :
    (e.put time (base ++ [name]) new).at? (base ++ [name]) = some new := by
  rw [at_name (at_put_concat h name new), Table.lookup_put, if_pos rfl]

/-- Places apart from that of the entry that is put are as they were. -/
theorem at_put_of_apart (h : Apart place other) (new : Entry) :
    (e.put time place new).at? other = e.at? other := by
  obtain ⟨front, name, next, rest, more, hne, rfl, rfl⟩ := h
  induction front generalizing e with
  | nil =>
    cases e with
    | folder entries modified =>
      rw [List.nil_append, List.nil_append, at_put_cons, if_neg hne.symm]
    | file | link => rfl
  | cons first front ih =>
    cases e with
    | folder entries modified =>
      rw [List.cons_append, List.cons_append, at_put_cons, if_pos rfl, ih, at_cons, member?]
      cases entries.lookup first with
      | none => cases front <;> rfl
      | some child => rfl
    | file | link => rfl

/-- Assumes: a place at which there is no folder. What is put there leaves all folders. -/
theorem keepsFolders_put (h : ∀ entries modified, e.at? place ≠ some (folder entries modified))
    (new : Entry) : KeepsFolders e (e.put time place new) := by
  intro other entries modified hother
  induction place generalizing e other with
  | nil =>
    cases e with
    | folder outer changed => exact absurd rfl (h outer changed)
    | file | link => cases other <;> cases hother
  | cons first place ih =>
    cases e with
    | file | link => exact ⟨entries, modified, hother⟩
    | folder outer changed =>
      cases other with
      | nil => exact ⟨_, _, rfl⟩
      | cons next other =>
        rw [at_put_cons]
        split
        -- A folder that stood below the first name shows that there was an entry to put into.
        · next hsame =>
          subst hsame
          obtain ⟨child, hmember, hchild⟩ :=
            Option.bind_eq_some_iff.mp (at_cons (folder outer changed) next other ▸ hother)
          rw [member?] at hmember
          rw [hmember, Option.getD_some]
          refine ih (fun inner time hinner ↦ h inner time ?_) other hchild
          rw [at_cons, member?, hmember, Option.bind_some, hinner]
        · exact ⟨entries, modified, hother⟩

theorem Linkless.put (h : Linkless e) (hnew : Linkless new) (place : List String) :
    Linkless (e.put time place new) := by
  induction place generalizing e with
  | nil => exact hnew
  | cons first place ih =>
    cases h with
    | file bytes modified => exact .file bytes modified
    | @folder entries modified below =>
      refine .folder fun entry hentry ↦ ?_
      rcases Table.eq_or_mem_of_mem_put hentry with rfl | hold
      · apply ih
        cases hlookup : entries.lookup first with
        | none => exact .folder (by simp)
        | some child =>
          have hfolder : Linkless (Entry.folder entries modified) := .folder below
          exact hfolder.of_member hlookup
      · exact below entry hold

end Entry

namespace Disk

variable {disk next : Disk} {place base reached front names : List String} {name path : String}
  {entries : List (String × Entry)} {modified time : Rat} {here e : Entry} {bytes : List UInt8}

/-! ### Paths that lead nowhere -/

/-- Whether a path is one that a file system looks up. -/
def Fits (path : String) : Prop := '\x00' ∉ path.toList ∧ isShortPath path = true

/-- Whether a path leads nowhere on any file system, for one reason. -/
def LeadsNowhere (path : String) : Prop := ∃ fault, ∀ disk : Disk, disk.spot path = .error fault

theorem leadsNowhere_of_not_fits (h : ¬ Fits path) : LeadsNowhere path := by
  by_cases hnul : '\x00' ∈ path.toList
  · exact ⟨.nulCharacter, fun disk ↦ by rw [spot, if_pos (by simpa using hnul)]⟩
  · have hlong : isShortPath path = false := by simpa [Fits, hnul] using h
    exact ⟨.nameTooLong, fun disk ↦ by
      rw [spot, if_neg (by simpa using hnul), if_pos (by simp [hlong])]⟩

theorem leadsNowhere_of_absolute (h : beginsWith "/" path = true) : LeadsNowhere path := by
  by_cases hfits : Fits path
  · exact ⟨.missing, fun disk ↦ by
      rw [spot, if_neg (by simpa using hfits.1), if_neg (by simp [hfits.2]), if_pos (.inr h)]⟩
  · exact leadsNowhere_of_not_fits hfits

theorem fits_of_spot {spot : Spot} (h : disk.spot path = .ok spot) : Fits path :=
  ⟨(spot_eq_ok.mp h).1, (spot_eq_ok.mp h).2.1⟩

theorem fits_of_concat (hfront : ∀ part ∈ front, IsPart part) (hname : IsPart name)
    (h : Fits (ofParts "" (front ++ [name]))) : Fits (ofParts "" front) := by
  by_cases hne : front = []
  · rw [hne]
    exact ⟨by decide, by decide⟩
  · rw [ofParts_empty_concat hfront hname hne] at h
    refine ⟨fun hnul ↦ h.1 (by simp [hnul]), ?_⟩
    exact isShortPath_of_append (isShortPath_of_append h.2)

/-- A path that is looked up is so with a shorter name at its end, too. -/
theorem fits_of_shorter {other : String} (hfront : ∀ part ∈ front, IsPart part)
    (hname : IsPart name) (hother : IsPart other) (hnul : '\x00' ∉ other.toList)
    (hlength : (Utf8.encode other).length ≤ (Utf8.encode name).length)
    (h : Fits (ofParts "" (front ++ [name]))) : Fits (ofParts "" (front ++ [other])) := by
  by_cases hne : front = []
  · subst hne
    rw [List.nil_append, ofParts_empty_of_ne_nil (by simpa using hname) (by simp),
      joinSegments_singleton, Fits, isShortPath, decide_eq_true_eq] at h
    rw [List.nil_append, ofParts_empty_of_ne_nil (by simpa using hother) (by simp),
      joinSegments_singleton, Fits, isShortPath, decide_eq_true_eq]
    exact ⟨hnul, hlength.trans h.2⟩
  · rw [ofParts_empty_concat hfront hname hne, Fits, isShortPath, decide_eq_true_eq, encode_append,
      List.length_append] at h
    rw [ofParts_empty_concat hfront hother hne, Fits, isShortPath, decide_eq_true_eq, encode_append,
      List.length_append]
    refine ⟨?_, by omega⟩
    simp only [String.toList_append, List.mem_append, not_or] at h ⊢
    exact ⟨h.1.1, hnul⟩

/-! ### One name below a folder -/

/-- Where a path without jumps leads is where its parts lead. -/
theorem spot_ofParts (hdisk : disk.Linkless) (hfolder : disk.isFolder = true)
    (hnames : ∀ name ∈ names, IsPart name) (hfits : Fits (ofParts "" names)) :
    disk.spot (ofParts "" names) = followNames disk noJump [] names := by
  have hrelative : ¬ (ofParts "" names = "" ∨ beginsWith "/" (ofParts "" names) = true) :=
    not_or.mpr ⟨ofParts_ne_empty _ _, not_beginsWith_ofParts_empty hnames⟩
  rw [spot, if_neg (by simpa using hfits.1), if_neg (by simp [hfits.2]), if_neg hrelative,
    follow_eq_noJump hdisk, followNames_segments hfolder hnames]

/-- The spot of a name in a folder: its entry, or a vacancy. -/
def spotIn (base : List String) (entries : List (String × Entry)) (name : String) : Spot :=
  match entries.lookup name with
  | some inner => .entry (base ++ [name]) inner
  | none => .vacant (base ++ [name])

theorem followNames_singleton (hdisk : disk.Linkless) (hname : IsName name)
    (hshort : isShortName name = true) (h : disk.at? base = some (.folder entries modified)) :
    followNames disk noJump base.reverse [name] = .ok (spotIn base entries name) := by
  unfold spotIn
  cases hmember : entries.lookup name with
  | some inner => rw [followNames_member hdisk hname h hmember, if_pos hshort]
  | none =>
    have hempty : ¬ (name = "" ∨ name = ".") := by simp [hname.1, hname.2.1]
    rw [followNames.eq_def]
    simp [h, Entry.isFolder, hempty, hname.2.2.1, hshort, Entry.member?, hmember]

/-- Assumes: a path that leads to a folder, and a short proper name after it. The path with the name
leads to the spot of the name in the folder. -/
theorem spot_name (hdisk : disk.Linkless) (hfront : ∀ part ∈ front, IsPart part)
    (hname : IsName name) (hshort : isShortName name = true)
    (h : disk.spot (ofParts "" front) = .ok (.entry base (.folder entries modified)))
    (hfits : Fits (ofParts "" (front ++ [name]))) :
    disk.spot (ofParts "" (front ++ [name])) = .ok (spotIn base entries name) := by
  have hfolder : disk.isFolder = true := isFolder_of_find (find_eq_ok.mpr ⟨base, h⟩)
  have hall : ∀ part ∈ front ++ [name], IsPart part :=
    isPart_of_mem_concat hfront (isPart_of_isName hname)
  have hbase : disk.at? base = some (.folder entries modified) := at_of_spot h
  rw [spot_ofParts hdisk hfolder hfront (fits_of_spot h)] at h
  rw [spot_ofParts hdisk hfolder hall hfits, followNames_append h,
    followNames_singleton hdisk hname hshort hbase]

/-! ### Paths of folders that are kept -/

/-- Names that lead to a folder start at one. -/
theorem exists_folder_of_followNames
    (h : followNames disk noJump place names = .ok (.entry reached (.folder entries modified))) :
    ∃ outer changed, disk.at? place.reverse = some (.folder outer changed) := by
  obtain ⟨here, hhere⟩ := exists_at_of_followNames h
  cases names with
  | nil =>
    rw [followNames_nil hhere, Except.ok.injEq, Spot.entry.injEq] at h
    exact ⟨entries, modified, h.2 ▸ hhere⟩
  | cons segment rest =>
    rw [followNames.eq_def] at h
    cases here with
    | folder outer changed => exact ⟨outer, changed, hhere⟩
    | file | link => simp [hhere, Entry.isFolder] at h

/-- Whether a segment can be gone from a place: double dots not from the top, and no name that is
too long. -/
def CanMove (place : List String) (segment : String) : Prop :=
  segment = "" ∨ segment = "." ∨ (segment = ".." ∧ place ≠ []) ∨
    (segment ≠ ".." ∧ isShortName segment = true)

theorem canMove_of_followNames {segment : String} {rest : List String}
    (h : followNames disk noJump place (segment :: rest) = .ok (.entry reached e)) :
    CanMove place segment := by
  by_contra hmove
  obtain ⟨here, hhere⟩ := exists_at_of_followNames h
  simp only [CanMove, not_or, not_and, ne_eq, not_not] at hmove
  obtain ⟨hempty, hdot, hup, hlong⟩ := hmove
  rw [followNames.eq_def] at h
  simp only [hhere, hempty, hdot, or_self, if_false] at h
  split at h
  · cases h
  split at h
  · next hdots =>
    rw [hup hdots] at h
    cases h
  · next hdots => simp [hlong hdots] at h

/-- Assumes: a folder from which a segment can be gone to a folder. The segment leads there. -/
theorem followNames_move {outer inner : List (String × Entry)} {changed kept : Rat}
    {segment : String} (hmove : CanMove place segment)
    (houter : disk.at? place.reverse = some (.folder outer changed))
    (hinner : disk.at? (move place segment).reverse = some (.folder inner kept))
    (rest : List String) :
    followNames disk noJump place (segment :: rest) =
      followNames disk noJump (move place segment) rest := by
  unfold move at hinner ⊢
  rw [followNames.eq_def]
  simp only [houter, Entry.isFolder, Bool.not_true]
  by_cases hskip : segment = "" ∨ segment = "."
  · simp [hskip]
  by_cases hup : segment = ".."
  · subst hup
    obtain ⟨first, above, rfl⟩ := List.exists_cons_of_ne_nil (by simpa [CanMove] using hmove)
    simp
  · have hshort : isShortName segment = true := by
      rw [not_or] at hskip
      simpa [CanMove, hskip, hup] using hmove
    rw [if_neg hskip, if_neg hup, List.reverse_cons, Entry.at_concat, houter, Option.bind_some]
      at hinner
    simp [hskip, hup, hshort, hinner]

/-- Names that lead to a folder lead to the same place if all folders are kept. -/
theorem followNames_keeps (hkeeps : Entry.KeepsFolders disk next)
    (h : followNames disk noJump place names = .ok (.entry reached (.folder entries modified))) :
    ∃ entries' modified',
      followNames next noJump place names = .ok (.entry reached (.folder entries' modified')) := by
  obtain ⟨outer, changed, houter⟩ := exists_folder_of_followNames h
  obtain ⟨outer', changed', houter'⟩ := hkeeps _ outer changed houter
  -- All places on the way to a folder are folders, so each step can be gone in the other, too.
  induction names generalizing place outer changed outer' changed' with
  | nil =>
    rw [followNames_nil houter, Except.ok.injEq, Spot.entry.injEq] at h
    rw [followNames_nil houter', h.1]
    exact ⟨outer', changed', rfl⟩
  | cons segment rest ih =>
    have hmove := canMove_of_followNames h
    rw [followNames_noJump h rest] at h
    obtain ⟨inner, kept, hinner⟩ := exists_folder_of_followNames h
    obtain ⟨inner', kept', hinner'⟩ := hkeeps _ inner kept hinner
    rw [followNames_move hmove houter' hinner']
    exact ih h inner kept hinner inner' kept' hinner'

/-- A path that leads to a folder leads to the same place if all folders are kept. -/
theorem spot_keeps (hdisk : disk.Linkless) (hnext : next.Linkless)
    (hkeeps : Entry.KeepsFolders disk next) (hnames : ∀ name ∈ names, IsPart name)
    (h : disk.spot (ofParts "" names) = .ok (.entry base (.folder entries modified))) :
    ∃ entries' modified',
      next.spot (ofParts "" names) = .ok (.entry base (.folder entries' modified')) ∧
        next.at? base = some (.folder entries' modified') := by
  have hfits := fits_of_spot h
  have hfolder : disk.isFolder = true := isFolder_of_find (find_eq_ok.mpr ⟨base, h⟩)
  rw [spot_ofParts hdisk hfolder hnames hfits] at h
  obtain ⟨entries', modified', hentries⟩ := followNames_keeps hkeeps h
  have hnextFolder : next.isFolder = true := by
    obtain ⟨top, changed, htop⟩ := exists_folder_of_followNames hentries
    obtain rfl : next = .folder top changed := Option.some.inj htop
    rfl
  rw [← spot_ofParts hnext hnextFolder hnames hfits] at hentries
  exact ⟨entries', modified', hentries, at_of_spot hentries⟩

/-! ### Making folders -/

/-- What a change at a place leaves: there are no links, all folders are still there, and places
apart from it are as they were. -/
structure Changes (disk next : Disk) (place : List String) : Prop where
  linkless : next.Linkless
  keeps : Entry.KeepsFolders disk next
  apart : ∀ {other}, Entry.Apart place other → next.at? other = disk.at? other

theorem Changes.refl (hdisk : disk.Linkless) (place : List String) : Changes disk disk place :=
  ⟨hdisk, .refl disk, fun _ ↦ rfl⟩

theorem changes_put (hdisk : disk.Linkless) (hbase : disk.at? base = some (.folder entries modified))
    (hfree : ∀ inner changed, entries.lookup name ≠ some (.folder inner changed))
    (hnew : e.Linkless) (time : Rat) :
    Changes disk (disk.put time (base ++ [name]) e) (base ++ [name]) where
  linkless := hdisk.put hnew _
  keeps := by
    refine Entry.keepsFolders_put (fun inner changed hinner ↦ hfree inner changed ?_) _
    rwa [Entry.at_name hbase] at hinner
  apart h := Entry.at_put_of_apart h _

/-- What making a folder at a place does: nothing if it stands already, and otherwise it puts an
empty one there. -/
structure Makes (disk next : Disk) (place : List String) : Prop extends
    Changes disk next place where
  stands : (next = disk ∧ ∃ entries modified, disk.at? place = some (.folder entries modified)) ∨
    (disk.at? place = none ∧ ∃ time, next.at? place = some (.folder [] time))

theorem makes_put (hdisk : disk.Linkless) (hbase : disk.at? base = some (.folder entries modified))
    (hnew : entries.lookup name = none) (time : Rat) :
    Makes disk (disk.put time (base ++ [name]) (.folder [] time)) (base ++ [name]) where
  toChanges := changes_put hdisk hbase (by simp [hnew]) (.folder (by simp)) time
  stands := .inr ⟨(Entry.at_name hbase name).trans hnew, time, Entry.at_put_self hbase name _⟩

theorem holder_ofParts (hfront : ∀ part ∈ front, IsPart part) (hname : IsPart name) :
    disk.holder (ofParts "" (front ++ [name])) =
      if name.toList.contains '\x00' then .error .nulCharacter
      else if !isShortName name then .error .nameTooLong
      else
        match disk.spot (ofParts "" front) with
        | .ok (.entry place entry) =>
          if entry.isFolder then .ok (place, entry, name) else .error .notFolder
        | .ok (.vacant _) => .error .missing
        | .error fault => .error fault := by
  have hall : ∀ part ∈ front ++ [name], IsPart part :=
    isPart_of_mem_concat hfront hname
  have hparts : parts (ofParts "" (front ++ [name])) = front ++ [name] := parts_ofParts hall ""
  have hanchor : anchor (ofParts "" (front ++ [name])) = "" := anchor_ofParts hall ""
  have hparent : (if front.reverse = [] then "." else joinSegments front.reverse.reverse) =
      ofParts "" front := by
    by_cases hne : front = []
    · rw [hne]
      rfl
    · rw [if_neg (by simpa using hne), List.reverse_reverse, ofParts_empty_of_ne_nil hfront hne]
  unfold holder
  rw [hparts, List.reverse_append]
  simp only [List.reverse_singleton, List.singleton_append, hanchor, hparent]
  rfl

/-- Makes the folder at a path if the folder above it stands and nothing stands there. -/
def makeLast (disk : Disk) (path : String) (time : Rat) : Except StorageError Disk :=
  match disk.holder path with
  | .error fault => .error ⟨fault.cause, [path]⟩
  | .ok (place, folder, name) =>
    if (folder.member? name).isSome then .error ⟨.taken, [path]⟩
    else .ok (disk.put time (place ++ [name]) (.folder [] time))

/-- A folder is made after those above it, if they are missing. -/
theorem makeFolders_cons (name : String) (outer : List String) :
    disk.makeFolders time (name :: outer) =
      if disk.kind? (joinSegments (name :: outer).reverse) = some .folder then .ok disk
      else
        match disk.holder (joinSegments (name :: outer).reverse) with
        | .error .missing =>
          (disk.makeFolders time outer).bind (makeLast · (joinSegments (name :: outer).reverse) time)
        | _ => disk.makeLast (joinSegments (name :: outer).reverse) time := by
  rw [makeFolders]
  split_ifs
  · rfl
  · cases hholder : disk.holder (joinSegments (name :: outer).reverse) with
    | ok found => simp only [makeLast, hholder]
    | error fault =>
      cases fault with
      | missing => rfl
      | _ => simp only [makeLast, hholder]

theorem joinSegments_concat (hfront : ∀ part ∈ front, IsPart part) (hname : IsPart name) :
    joinSegments (name :: front.reverse).reverse = ofParts "" (front ++ [name]) := by
  have hall : ∀ part ∈ front ++ [name], IsPart part :=
    isPart_of_mem_concat hfront hname
  rw [List.reverse_cons, List.reverse_reverse, ofParts_empty_of_ne_nil hall (by simp)]

theorem makeFolder_ofParts (hfront : ∀ part ∈ front, IsPart part) (hname : IsPart name) :
    disk.makeFolder (ofParts "" (front ++ [name])) time =
      disk.makeFolders time (name :: front.reverse) := by
  have hall : ∀ part ∈ front ++ [name], IsPart part :=
    isPart_of_mem_concat hfront hname
  have hparts : parts (ofParts "" (front ++ [name])) = front ++ [name] := parts_ofParts hall ""
  rw [makeFolder, hparts, List.reverse_append, List.reverse_singleton, List.singleton_append]

/-- What a made folder leaves has no links either. -/
theorem linkless_of_makeLast (hdisk : disk.Linkless) (h : disk.makeLast path time = .ok next) :
    next.Linkless := by
  unfold makeLast at h
  split at h
  · cases h
  · split_ifs at h
    obtain rfl := Except.ok.inj h
    exact hdisk.put (.folder (by simp)) _

theorem linkless_of_makeFolders (hdisk : disk.Linkless) (h : disk.makeFolders time names = .ok next) :
    next.Linkless := by
  induction names generalizing next with
  | nil => exact Except.ok.inj h ▸ hdisk
  | cons name outer ih =>
    rw [makeFolders_cons] at h
    split_ifs at h with hkind
    · exact Except.ok.inj h ▸ hdisk
    · split at h
      · obtain ⟨middle, hmiddle, hlast⟩ := bind_eq_ok.mp h
        exact linkless_of_makeLast (ih hmiddle) hlast
      · exact linkless_of_makeLast hdisk h

/-- A folder is made only in one that stands and lacks the name. -/
theorem exists_of_makeLast (hfront : ∀ part ∈ front, IsPart part) (hname : IsPart name)
    (h : disk.makeLast (ofParts "" (front ++ [name])) time = .ok next) :
    ∃ base entries modified,
      disk.spot (ofParts "" front) = .ok (.entry base (.folder entries modified)) ∧
      isShortName name = true ∧ entries.lookup name = none ∧
        next = disk.put time (base ++ [name]) (.folder [] time) := by
  unfold makeLast at h
  rw [holder_ofParts hfront hname] at h
  split_ifs at h with hnul hlong
  cases hspot : disk.spot (ofParts "" front) with
  | error fault => simp [hspot] at h
  | ok spot =>
    cases spot with
    | vacant place => simp [hspot] at h
    | entry place here =>
      cases here with
      | file | link => simp [hspot, Entry.isFolder] at h
      | folder entries modified =>
        cases hmember : entries.lookup name with
        | some inner => simp [hspot, Entry.isFolder, Entry.member?, hmember] at h
        | none =>
          simp only [hspot, Entry.isFolder, if_true, Entry.member?, hmember, Option.isSome_none,
            Bool.false_eq_true, if_false] at h
          exact ⟨place, entries, modified, rfl, by simpa using hlong, hmember,
            (Except.ok.inj h).symm⟩

/-- Assumes: a path that leads to a folder, and a name below it that leads to a folder, too. The
folder stands under the name. -/
theorem at_of_kind (hdisk : disk.Linkless) (hfront : ∀ part ∈ front, IsPart part)
    (hname : IsName name) (hshort : isShortName name = true)
    (hspot : disk.spot (ofParts "" front) = .ok (.entry base (.folder entries modified)))
    (h : disk.kind? (ofParts "" (front ++ [name])) = some .folder) :
    ∃ inner changed, disk.at? (base ++ [name]) = some (.folder inner changed) := by
  obtain ⟨e, hfind⟩ := kind_eq_some h
  obtain ⟨reached, hreached⟩ := find_eq_ok.mp hfind
  rw [kind_eq_folder_iff hreached] at h
  have hnext := spot_name hdisk hfront hname hshort hspot (fits_of_spot hreached)
  rw [hreached, Except.ok.injEq, spotIn] at hnext
  cases hmember : entries.lookup name with
  | none => simp [hmember] at hnext
  | some inner =>
    rw [hmember, Spot.entry.injEq] at hnext
    cases e with
    | folder below changed =>
      refine ⟨below, changed, ?_⟩
      rw [Entry.at_name (at_of_spot hspot), hmember, hnext.2]
    | file | link => cases h

/-- Assumes: a path that leads to an entry, and a folder of the next name made there. The entry is
a folder, and the folder is made in it. -/
theorem makes_of_makeFolders (hdisk : disk.Linkless) (hfront : ∀ part ∈ front, IsPart part)
    (hname : IsName name) (hshort : isShortName name = true)
    (hspot : disk.spot (ofParts "" front) = .ok (.entry base here))
    (h : disk.makeFolders time (name :: front.reverse) = .ok next) :
    ∃ entries modified, here = .folder entries modified ∧ Makes disk next (base ++ [name]) := by
  have hpart := isPart_of_isName hname
  rw [makeFolders_cons, joinSegments_concat hfront hpart] at h
  split_ifs at h with hkind
  · obtain rfl : disk = next := Except.ok.inj h
    have hstands : disk.kind? (ofParts (anchor "") (front ++ [name])) = some .folder := hkind
    have hfolder : disk.kind? (ofParts "" front) = some .folder :=
      (mem_names_of_kind hfront hname hstands).1
    rw [kind_eq_folder_iff hspot] at hfolder
    cases here with
    | folder entries modified =>
      exact ⟨entries, modified, rfl, .refl hdisk _,
        .inl ⟨rfl, at_of_kind hdisk hfront hname hshort hspot hkind⟩⟩
    | file | link => cases hfolder
  · have hmake : disk.makeLast (ofParts "" (front ++ [name])) time = .ok next := by
      split at h
      · next hmissing =>
        simp only [holder_ofParts hfront hpart, hspot] at hmissing
        split_ifs at hmissing <;> cases hmissing
      · exact h
    obtain ⟨base', entries, modified, hspot', -, hnew, rfl⟩ :=
      exists_of_makeLast hfront hpart hmake
    obtain ⟨rfl, rfl⟩ := Spot.entry.inj (Except.ok.inj (hspot.symm.trans hspot'))
    exact ⟨entries, modified, rfl, makes_put hdisk (at_of_spot hspot) hnew time⟩

/-- Assumes: a path that leads to a folder, and a folder of the next name made in it. The path with
the name leads to the folder, which is empty if it did not stand before. -/
theorem spot_of_makes (hdisk : disk.Linkless) (hfront : ∀ part ∈ front, IsPart part)
    (hname : IsName name) (hshort : isShortName name = true)
    (hspot : disk.spot (ofParts "" front) = .ok (.entry base (.folder entries modified)))
    (hfits : Fits (ofParts "" (front ++ [name]))) (h : Makes disk next (base ++ [name])) :
    ∃ inner changed, next.spot (ofParts "" (front ++ [name])) =
      .ok (.entry (base ++ [name]) (.folder inner changed)) ∧ (next = disk ∨ inner = []) := by
  obtain ⟨entries', modified', hspot', hbase'⟩ := spot_keeps hdisk h.linkless h.keeps hfront hspot
  rw [spot_name h.linkless hfront hname hshort hspot' hfits, spotIn, ← Entry.at_name hbase']
  rcases h.stands with ⟨hsame, inner, changed, hinner⟩ | ⟨-, time, hinner⟩
  · rw [hsame, hinner]
    exact ⟨inner, changed, rfl, .inl rfl⟩
  · rw [hinner]
    exact ⟨[], time, rfl, .inr rfl⟩

/-- Proper names that lead to a folder lead to the place that they name. -/
theorem place_of_names (hdisk : disk.Linkless) (hnames : ∀ name ∈ names, IsName name)
    (h : disk.spot (ofParts "" names) = .ok (.entry base (.folder entries modified))) :
    base = names := by
  have hfolder : disk.isFolder = true := isFolder_of_find (find_eq_ok.mpr ⟨base, h⟩)
  rw [spot_ofParts hdisk hfolder (fun name hname ↦ isPart_of_isName (hnames name hname))
    (fits_of_spot h)] at h
  rw [reached_eq h, foldl_move hnames, List.append_nil, List.reverse_reverse]

/-- Assumes: a folder made at a proper name below proper names. The names lead to it, and it is
empty. -/
theorem spot_of_makeLast (hdisk : disk.Linkless) (hfront : ∀ part ∈ front, IsName part)
    (hname : IsName name) (hfits : Fits (ofParts "" (front ++ [name])))
    (h : disk.makeLast (ofParts "" (front ++ [name])) time = .ok next) :
    next.spot (ofParts "" (front ++ [name])) = .ok (.entry (front ++ [name]) (.folder [] time)) := by
  have hparts : ∀ part ∈ front, IsPart part := fun part hpart ↦ isPart_of_isName (hfront part hpart)
  obtain ⟨base, entries, modified, hspot, hshort, hnew, rfl⟩ :=
    exists_of_makeLast hparts (isPart_of_isName hname) h
  have hbase := at_of_spot hspot
  have hmade := makes_put hdisk hbase hnew time
  obtain ⟨entries', modified', hspot', hbase'⟩ :=
    spot_keeps hdisk hmade.linkless hmade.keeps hparts hspot
  rw [Entry.at_put_concat hbase] at hbase'
  obtain ⟨rfl, -⟩ := Entry.folder.inj (Option.some.inj hbase')
  rw [spot_name hmade.linkless hparts hname hshort hspot' hfits, spotIn, Table.lookup_put,
    if_pos rfl, place_of_names hdisk hfront hspot]

/-- Assumes: proper names that do not lead to a folder, as a path that file systems look up. If the
folders are made, then the names lead to an empty one. -/
theorem spot_of_makeFolders (hdisk : disk.Linkless) (hfront : ∀ part ∈ front, IsName part)
    (hname : IsName name) (hfits : Fits (ofParts "" (front ++ [name])))
    (hkind : disk.kind? (ofParts "" (front ++ [name])) ≠ some .folder)
    (h : disk.makeFolders time (name :: front.reverse) = .ok next) :
    next.spot (ofParts "" (front ++ [name])) = .ok (.entry (front ++ [name]) (.folder [] time)) := by
  have hparts : ∀ part ∈ front, IsPart part := fun part hpart ↦ isPart_of_isName (hfront part hpart)
  rw [makeFolders_cons, joinSegments_concat hparts (isPart_of_isName hname), if_neg hkind] at h
  split at h
  · obtain ⟨middle, hmiddle, hlast⟩ := bind_eq_ok.mp h
    exact spot_of_makeLast (linkless_of_makeFolders hdisk hmiddle) hfront hname hfits hlast
  · exact spot_of_makeLast hdisk hfront hname hfits h

/-- Assumes: proper names at which no folder stands, as a path that file systems look up, and a
folder made below them. They were made a folder first, which was empty, and the folder is made in
it. -/
theorem exists_of_makeFolder (hdisk : disk.Linkless) (hnames : ∀ name ∈ names, IsName name)
    (hname : IsName name) (hfits : Fits (ofParts "" names))
    (hkind : disk.kind? (ofParts "" names) ≠ some .folder)
    (h : disk.makeFolder (ofParts "" (names ++ [name])) time = .ok next) :
    ∃ start : Disk, start.Linkless ∧
      start.spot (ofParts "" names) = .ok (.entry names (.folder [] time)) ∧
        next = start.put time (names ++ [name]) (.folder [] time) := by
  have hparts : ∀ part ∈ names, IsPart part := fun part hpart ↦ isPart_of_isName (hnames part hpart)
  have hpart := isPart_of_isName hname
  have hnone : ∀ base entries modified,
      disk.spot (ofParts "" names) ≠ .ok (.entry base (.folder entries modified)) :=
    fun _ _ _ hspot ↦ hkind ((kind_eq_folder_iff hspot).mpr rfl)
  have hnew : disk.kind? (ofParts "" (names ++ [name])) ≠ some .folder := fun hfolder ↦ by
    have hstands : disk.kind? (ofParts (anchor "") (names ++ [name])) = some .folder := hfolder
    exact hkind (mem_names_of_kind hparts hname hstands).1
  rw [makeFolder_ofParts hparts hpart, makeFolders_cons, joinSegments_concat hparts hpart,
    if_neg hnew] at h
  split at h
  -- The names lead to no folder, so one was made there before: `start` is what that left.
  · obtain ⟨start, hstart, hmake⟩ := bind_eq_ok.mp h
    have hlinkless := linkless_of_makeFolders hdisk hstart
    obtain ⟨base, entries, modified, hspot, -, -, rfl⟩ := exists_of_makeLast hparts hpart hmake
    rcases List.eq_nil_or_concat names with rfl | ⟨front, inner, rfl⟩
    · obtain rfl : disk = start := Except.ok.inj hstart
      exact absurd hspot (hnone base entries modified)
    · rw [List.concat_eq_append] at *
      obtain ⟨hfront, hinner⟩ := List.forall_mem_append.mp hnames
      rw [List.reverse_append, List.reverse_singleton, List.singleton_append] at hstart
      have hempty := spot_of_makeFolders hdisk hfront (List.forall_mem_singleton.mp hinner) hfits
        hkind hstart
      obtain ⟨rfl, -⟩ := Spot.entry.inj (Except.ok.inj (hspot.symm.trans hempty))
      exact ⟨start, hlinkless, hempty, rfl⟩
  · obtain ⟨base, entries, modified, hspot, -⟩ := exists_of_makeLast hparts hpart h
    exact absurd hspot (hnone base entries modified)

/-! ### Writing a file -/

/-- Nothing is written at a path that leads nowhere. -/
theorem LeadsNowhere.overwrite (h : LeadsNowhere path) (disk : Disk) (bytes : List UInt8)
    (modified time : Rat) : ∃ error, disk.overwrite path bytes modified time = .error error := by
  obtain ⟨fault, hfault⟩ := h
  exact ⟨⟨fault.cause, [path]⟩, by rw [Disk.overwrite, hfault]⟩

/-- Assumes: a path that leads to a folder, and a short proper name after it that leads to no
folder. The file is written under the name in the folder. -/
theorem overwrite_name (hdisk : disk.Linkless) (hfront : ∀ part ∈ front, IsPart part)
    (hname : IsName name) (hshort : isShortName name = true)
    (h : disk.spot (ofParts "" front) = .ok (.entry base (.folder entries modified)))
    (hfits : Fits (ofParts "" (front ++ [name])))
    (hfree : ∀ inner changed, entries.lookup name ≠ some (.folder inner changed))
    (bytes : List UInt8) (stamp time : Rat) :
    ∃ next, disk.overwrite (ofParts "" (front ++ [name])) bytes stamp time = .ok next ∧
      Changes disk next (base ++ [name]) ∧
        next.find (ofParts "" (front ++ [name])) = .ok (.file bytes stamp) := by
  have hbase := at_of_spot h
  have hchanges := changes_put hdisk hbase hfree (.file bytes stamp) time
  refine ⟨disk.put time (base ++ [name]) (.file bytes stamp), ?_, hchanges, ?_⟩
  · rw [overwrite, spot_name hdisk hfront hname hshort h hfits, spotIn]
    cases hmember : entries.lookup name with
    | none => rfl
    | some inner =>
      have hinner : (Entry.folder entries modified).member? name = some inner := hmember
      cases (hdisk.of_at hbase).of_member hinner with
      | file old modified => rfl
      | folder below => exact absurd hmember (hfree _ _)
  · obtain ⟨entries', modified', hspot', hbase'⟩ :=
      spot_keeps hdisk hchanges.linkless hchanges.keeps hfront h
    rw [Entry.at_put_concat hbase] at hbase'
    obtain ⟨rfl, -⟩ := Entry.folder.inj (Option.some.inj hbase')
    refine find_eq_ok.mpr ⟨base ++ [name], ?_⟩
    rw [spot_name hchanges.linkless hfront hname hshort hspot' hfits, spotIn, Table.lookup_put,
      if_pos rfl]

end Disk

end ContentTree.Storage
