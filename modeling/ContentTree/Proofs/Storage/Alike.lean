import ContentTree.Proofs.Storage.Linkless
/-!
File systems that are alike at and below a folder and differ elsewhere as they like. The face of an
entry is all that is seen of it alone. Without links a path below the folder leads to entries with
the same face, or fails in the same way. One step up at the end leads to a folder in both file
systems, or to nothing in both, even if it is the step up from the folder itself.
-/

set_option autoImplicit false
set_option relaxedAutoImplicit false

namespace ContentTree.Storage

open ContentTree.Text ContentTree.Path ContentTree.Storage.FilePath

/-! ### Faces -/

/-- What is seen of an entry without going into it: the bytes of a file or the names in a folder, in
the order of their characters, with the time of change, and where a link leads. -/
inductive Face where
  | file (bytes : List UInt8) (modified : Rat)
  | folder (names : List String) (modified : Rat)
  | link (target : String)

/-- What stands there, unless it is a link. -/
def Face.kind? : Face → Option Kind
  | file _ _ => some .file
  | folder _ _ => some .folder
  | link _ => none

namespace Entry

/-- The face of an entry. -/
def face : Entry → Face
  | file bytes modified => .file bytes modified
  | folder entries modified => .folder (sortNames (entries.map (·.1))) modified
  | link target => .link target

/-- Whether the same names lead from two entries to entries with the same faces. -/
def Alike (first second : Entry) : Prop :=
  ∀ place, (first.at? place).map face = (second.at? place).map face

variable {e other inner : Entry} {name : String} {place : List String}

theorem Alike.refl (e : Entry) : e.Alike e := fun _ ↦ rfl

theorem Alike.symm (h : e.Alike other) : other.Alike e := fun place ↦ (h place).symm

theorem Alike.face_eq (h : e.Alike other) : e.face = other.face := by
  simpa [at?] using h []

theorem isFolder_eq_face (e : Entry) : e.isFolder = (e.face.kind? == some .folder) := by
  cases e <;> rfl

theorem Alike.isFolder_eq (h : e.Alike other) : e.isFolder = other.isFolder := by
  rw [isFolder_eq_face, isFolder_eq_face, h.face_eq]

theorem at_cons (e : Entry) (name : String) (place : List String) :
    e.at? (name :: place) = (e.member? name).bind (·.at? place) :=
  rfl

theorem Alike.member (h : e.Alike other) (hmember : e.member? name = some inner) :
    ∃ outer, other.member? name = some outer ∧ inner.Alike outer := by
  cases hother : other.member? name with
  | none =>
    have hnone := h [name]
    simp [hmember, hother, at?] at hnone
  | some outer =>
    refine ⟨outer, rfl, fun place ↦ ?_⟩
    have hboth := h (name :: place)
    simpa only [at_cons, hmember, hother, Option.bind_some] using hboth

theorem at_concat (e : Entry) (place : List String) (name : String) :
    e.at? (place ++ [name]) = (e.at? place).bind (·.member? name) := by
  induction place generalizing e with
  | nil =>
    rw [List.nil_append, at_cons]
    cases hmember : e.member? name <;> simp [at?, hmember]
  | cons first rest ih =>
    rw [List.cons_append, at_cons, at_cons, Option.bind_assoc]
    exact Option.bind_congr fun middle _ ↦ ih middle

/-- Above an entry stands a folder. -/
theorem exists_folder_of_at (h : e.at? (place ++ [name]) = some inner) :
    ∃ entries modified, e.at? place = some (.folder entries modified) := by
  rw [at_concat] at h
  obtain ⟨outer, houter, hmember⟩ := Option.bind_eq_some_iff.mp h
  obtain ⟨entries, modified, rfl, -⟩ := folder_of_member hmember
  exact ⟨entries, modified, houter⟩

end Entry

namespace Disk

/-- The face at the end of a path. -/
def seen : Except PathFault Spot → Except PathFault Face
  | .ok (.entry _ e) => .ok e.face
  | .ok (.vacant _) => .error .missing
  | .error fault => .error fault

/-- The face of what a path leads to. -/
def face (disk : Disk) (path : String) : Except PathFault Face := (disk.find path).map Entry.face

/-- What stands at a path of which the face is seen. -/
def kindOf? (face : Except PathFault Face) : Option Kind := face.toOption.bind Face.kind?

variable {disk first second : Disk} {path root : String} {place names back : List String}
  {here other : Entry} {α : Type}

theorem face_eq_seen (disk : Disk) (path : String) : disk.face path = seen (disk.spot path) := by
  unfold face find
  cases disk.spot path with
  | error fault => rfl
  | ok spot => cases spot <;> rfl

/-! ### What is asked is seen -/

theorem kind_eq_face (disk : Disk) (path : String) : disk.kind? path = kindOf? (disk.face path) := by
  unfold kind? face
  cases disk.find path with
  | error fault => rfl
  | ok e => cases e <;> rfl

theorem names_eq_face (disk : Disk) (path : String) :
    disk.names path = match disk.face path with
      | .ok (.folder names _) => names
      | _ => [] := by
  unfold names face
  cases disk.find path with
  | error fault => rfl
  | ok e => cases e <;> rfl

theorem read_eq_face (disk : Disk) (path : String) :
    disk.read path = match disk.face path with
      | .ok (.file bytes _) => .ok bytes
      | .ok _ => .error ⟨.isFolder, [path]⟩
      | .error fault => .error ⟨fault.cause, [path]⟩ := by
  unfold read face
  cases disk.find path with
  | error fault => rfl
  | ok e => cases e <;> rfl

theorem size_eq_face (disk : Disk) (path : String) :
    disk.size path = match disk.face path with
      | .ok (.file bytes _) => .ok bytes.length
      | .ok _ => .ok folderSize
      | .error fault => .error ⟨fault.cause, [path]⟩ := by
  unfold size face
  cases disk.find path with
  | error fault => rfl
  | ok e => cases e <;> rfl

/-! ### Going on from places that are alike -/

/-- Assumes: file systems without links that are alike at and below a place. Proper names lead on
from it to places at which they are alike, or fail in the same way whatever comes then. -/
theorem followNames_alike (hfirst : first.Linkless) (hsecond : second.Linkless)
    (hnames : ∀ name ∈ names, IsName name) (hhere : first.at? place.reverse = some here)
    (hother : second.at? place.reverse = some other) (halike : here.Alike other)
    (back : List String) :
    followNames first noJump place (names ++ back) =
        followNames second noJump place (names ++ back) ∨
      ∃ next inner outer, first.at? next.reverse = some inner ∧
        second.at? next.reverse = some outer ∧ inner.Alike outer ∧
          followNames first noJump place (names ++ back) = followNames first noJump next back ∧
            followNames second noJump place (names ++ back) = followNames second noJump next back := by
  induction names generalizing place here other with
  | nil => exact .inr ⟨place, here, other, hhere, hother, halike, rfl, rfl⟩
  | cons name rest ih =>
    obtain ⟨hname, hrest⟩ := List.forall_mem_cons.mp hnames
    have hskip : ¬ (name = "" ∨ name = ".") := by simp [hname.1, hname.2.1]
    have hstep : followNames first noJump place (name :: (rest ++ back)) = _ :=
      followNames.eq_def first noJump place (name :: (rest ++ back))
    have hstepOther : followNames second noJump place (name :: (rest ++ back)) = _ :=
      followNames.eq_def second noJump place (name :: (rest ++ back))
    simp only [hhere, if_neg hskip, if_neg hname.2.2.1] at hstep
    simp only [hother, if_neg hskip, if_neg hname.2.2.1] at hstepOther
    rw [List.cons_append, hstep, hstepOther, halike.isFolder_eq]
    by_cases hfolder : (!other.isFolder) = true
    · exact .inl (by rw [if_pos hfolder, if_pos hfolder])
    by_cases hlong : (!isShortName name) = true
    · exact .inl (by rw [if_neg hfolder, if_neg hfolder, if_pos hlong, if_pos hlong])
    simp only [if_neg hfolder, if_neg hlong]
    -- From here on the name is in both folders or in none.
    cases hmember : here.member? name with
    | none =>
      cases houter : other.member? name with
      | none => exact .inl rfl
      | some outer =>
        obtain ⟨inner, hinner, -⟩ := halike.symm.member houter
        rw [hmember] at hinner
        cases hinner
    | some inner =>
      obtain ⟨outer, houter, hbelow⟩ := halike.member hmember
      have hinnerAt : first.at? (name :: place).reverse = some inner := by
        rw [List.reverse_cons, Entry.at_concat, hhere, Option.bind_some, hmember]
      have houterAt : second.at? (name :: place).reverse = some outer := by
        rw [List.reverse_cons, Entry.at_concat, hother, Option.bind_some, houter]
      have hnext := ih hrest hinnerAt houterAt hbelow
      cases hfirst.of_at hinnerAt with
      | file => cases hsecond.of_at houterAt <;> simpa only [houter] using hnext
      | folder => cases hsecond.of_at houterAt <;> simpa only [houter] using hnext

theorem followNames_nil (hhere : disk.at? place.reverse = some here) :
    followNames disk noJump place [] = .ok (.entry place.reverse here) := by
  simp [followNames.eq_def, hhere]

/-- A step up leads from a folder to a folder, unless it is the top. -/
theorem kindOf_seen_dots (hhere : disk.at? place.reverse = some here) :
    kindOf? (seen (followNames disk noJump place [".."])) =
      if here.isFolder ∧ place ≠ [] then some .folder else none := by
  rw [followNames.eq_def]
  simp only [hhere]
  cases hfolder : here.isFolder with
  | false => simp [seen, kindOf?, Except.toOption]
  | true =>
    cases place with
    | nil => simp [seen, kindOf?, Except.toOption]
    | cons inner outer =>
      rw [List.reverse_cons] at hhere
      obtain ⟨entries, modified, hat⟩ := Entry.exists_folder_of_at hhere
      simp [followNames_nil hat, seen, kindOf?, Except.toOption, Entry.face, Face.kind?]

/-! ### Paths below a folder -/

/-- Whether a path leads to a folder in two file systems that are alike at and below it. -/
def AlikeBelow (first second : Disk) (root : String) : Prop :=
  ∃ here other, first.find root = .ok here ∧ second.find root = .ok other ∧
    here.isFolder = true ∧ here.Alike other

section Below

variable (h : AlikeBelow first second root) (hfirst : first.Linkless) (hsecond : second.Linkless)
  (htidy : root = tidy root)

include h hfirst hsecond htidy

/-- The folder's path ends at the same place in both file systems. -/
theorem AlikeBelow.exists_base :
    ∃ base here other, followNames first noJump [] (parts root) = .ok (.entry base here) ∧
      followNames second noJump [] (parts root) = .ok (.entry base other) ∧
        first.at? base = some here ∧ second.at? base = some other ∧ here.Alike other := by
  obtain ⟨here, other, hhere, hother, -, halike⟩ := h
  have hparts : ∀ part ∈ parts root, IsPart part := fun part ↦ isPart_of_mem_parts
  have hfollow : ∀ {disk : Disk} {e : Entry}, disk.Linkless → disk.find root = .ok e →
      ∃ base, followNames disk noJump [] (parts root) = .ok (.entry base e) := by
    intro disk e hdisk hfind
    rw [htidy, tidy_eq_ofParts] at hfind
    obtain ⟨base, hspot⟩ := find_eq_ok.mp hfind
    exact ⟨base, followNames_of_spot hdisk hparts hspot⟩
  obtain ⟨base, hbase⟩ := hfollow hfirst hhere
  obtain ⟨base', hbase'⟩ := hfollow hsecond hother
  -- Where a path without links ends is told by its names alone.
  have hsame : base' = base := by rw [reached_eq hbase, reached_eq hbase']
  subst hsame
  exact ⟨base', here, other, hbase, hbase', at_of_followNames (by simp [noJump]) hbase,
    at_of_followNames (by simp [noJump]) hbase', halike⟩

/-- Assumes: something seen at the end of a path that is the same whenever the path goes on from
places that are alike. It is the same at the end of a path below the folder. -/
theorem AlikeBelow.look_eq (hnames : ∀ name ∈ names, IsName name)
    (hback : ∀ part ∈ back, IsPart part) (look : Except PathFault Spot → α)
    (hend : ∀ place here other, first.at? place.reverse = some here →
      second.at? place.reverse = some other → here.Alike other →
        look (followNames first noJump place back) = look (followNames second noJump place back)) :
    look (first.spot (ofParts (anchor root) (parts root ++ (names ++ back)))) =
      look (second.spot (ofParts (anchor root) (parts root ++ (names ++ back)))) := by
  have hall : ∀ part ∈ parts root ++ (names ++ back), IsPart part := by
    refine List.forall_mem_append.mpr ⟨fun part ↦ isPart_of_mem_parts, ?_⟩
    exact List.forall_mem_append.mpr ⟨fun name hname ↦ isPart_of_isName (hnames name hname), hback⟩
  have hanchor : anchor root = "" := by
    obtain ⟨here, other, hhere, -⟩ := h
    rw [htidy, tidy_eq_ofParts] at hhere
    exact anchor_of_find hhere
  have hfolders : first.isFolder = true ∧ second.isFolder = true := by
    obtain ⟨here, other, hhere, hother, -⟩ := h
    exact ⟨isFolder_of_find hhere, isFolder_of_find hother⟩
  obtain ⟨base, here, other, hbase, hbase', hhere, hother, halike⟩ :=
    h.exists_base hfirst hsecond htidy
  rw [← List.reverse_reverse base] at hhere hother
  have hsame : look (followNames first noJump base.reverse (names ++ back)) =
      look (followNames second noJump base.reverse (names ++ back)) := by
    rcases followNames_alike hfirst hsecond hnames hhere hother halike back with
      hsame | ⟨next, inner, outer, hinner, houter, hbelow, hleft, hright⟩
    · rw [hsame]
    · rw [hleft, hright]
      exact hend next inner outer hinner houter hbelow
  -- What a path has to be to lead anywhere does not depend on the file system.
  rw [hanchor]
  unfold Disk.spot
  split_ifs
  · rfl
  · rfl
  · rfl
  · rw [follow_eq_noJump hfirst, follow_eq_noJump hsecond, followNames_segments hfolders.1 hall,
      followNames_segments hfolders.2 hall, followNames_append hbase, followNames_append hbase']
    exact hsame

/-- What proper names lead to below the folder has the same face. -/
theorem AlikeBelow.face_eq (hnames : ∀ name ∈ names, IsName name) :
    first.face (ofParts (anchor root) (parts root ++ names)) =
      second.face (ofParts (anchor root) (parts root ++ names)) := by
  have hlook := h.look_eq hfirst hsecond htidy hnames (List.forall_mem_nil _) seen
    fun place here other hhere hother halike ↦ by
      rw [followNames_nil hhere, followNames_nil hother, seen, seen, halike.face_eq]
  rw [face_eq_seen, face_eq_seen]
  rwa [List.append_nil] at hlook

/-- With a step up after the names the same stands there still. -/
theorem AlikeBelow.kind_dots_eq (hnames : ∀ name ∈ names, IsName name) :
    first.kind? (ofParts (anchor root) (parts root ++ (names ++ [".."]))) =
      second.kind? (ofParts (anchor root) (parts root ++ (names ++ [".."]))) := by
  have hdots : ∀ part ∈ [".."], IsPart part :=
    List.forall_mem_singleton.mpr ⟨by decide, by decide, by decide⟩
  rw [kind_eq_face, kind_eq_face, face_eq_seen, face_eq_seen]
  refine h.look_eq hfirst hsecond htidy hnames hdots (fun found ↦ kindOf? (seen found))
    fun place here other hhere hother halike ↦ ?_
  rw [kindOf_seen_dots hhere, kindOf_seen_dots hother, halike.isFolder_eq]

end Below

end Disk

end ContentTree.Storage
