import ContentTree.Proofs.Json.Writer
import ContentTree.Proofs.Settings.Load
import ContentTree.Proofs.Storage.Change
import ContentTree.Proofs.Text.Utf8
/-!
What a save of settings leaves. The folders that it makes never change which path is that of the
settings file. Main statements: settings whose save returns are loaded again as they were; and a
save that fails has left the file as it was only if the file system refused it, or the file held
already what could be written, since it is emptied before it is known whether its new text can be
made.
-/

set_option autoImplicit false
set_option relaxedAutoImplicit false

namespace ContentTree.Settings

open ContentTree.Json ContentTree.Path ContentTree.Storage ContentTree.Text
open ContentTree.Storage.Disk (Fits LeadsNowhere Changes Makes)
open ContentTree.Storage.FilePath (IsPart anchor below isPart_of_isName isPart_of_mem_concat
  isPart_of_mem_parts ofParts parts)

variable {disk next last : Disk} {home path name : String} {base front place names : List String}
  {entries inner : List (String × Entry)} {bytes : List UInt8} {modified time : Rat} {room : Room}
  {data : Datum} {settings : Settings}

/-! ### The path of the settings file -/

theorem below_home (hne : home ≠ "") (hrelative : anchor home = "") (hname : IsPart name) :
    below home name = ofParts "" (parts home ++ [name]) := by
  rw [FilePath.below_part hne hname, hrelative]

theorem fileIn_ofParts (hnames : ∀ name ∈ names, IsPart name) (hne : names ≠ []) :
    fileIn (ofParts "" names) = ofParts "" (names ++ ["config.json"]) := by
  rw [FilePath.ofParts_empty_concat hnames (by decide) hne, fileIn, String.append_assoc]
  rfl

theorem on_folder (h : disk.find (below home ".config") ≠ .error .nameTooLong) :
    (folder home).on disk = .ok (if (disk.kind? (below home ".config")).isSome
      then below (below home ".config") "vaultfs" else below home ".vaultfs") := by
  simp [folder, on_stands h, Except.map]

theorem on_folder_of_tooLong (h : disk.find (below home ".config") = .error .nameTooLong) :
    (folder home).on disk = .error ⟨.nameTooLong, [below home ".config"]⟩ := by
  simp [folder, on_stands_of_tooLong h, Except.map]

theorem on_file_eq : (file home).on disk = ((folder home).on disk).map fileIn := by
  simp [file]

/-! ### A home folder that stands -/

/-- A home folder below the current folder, in a file system without links. -/
structure HomeAt (disk : Disk) (home : String) (base : List String) : Prop where
  linkless : disk.Linkless
  nonempty : home ≠ ""
  relative : anchor home = ""
  fits : Fits (ofParts "" (parts home ++ [".config"]))
  stands : ∃ entries modified,
    disk.spot (ofParts "" (parts home)) = .ok (.entry base (.folder entries modified))

/-- The folder below a home folder in which the settings file lies: the one for all configuration
files if something has its name, and otherwise one of its own. It is told by the path and the place
of the folder that holds it, and by its name there. -/
inductive FolderAt (disk : Disk) (home : String) (base : List String) :
    (front : List String) → (name : String) → (place : List String) → Prop
  | general {here : Entry} (stands : disk.at? (base ++ [".config"]) = some here) :
      FolderAt disk home base (parts home ++ [".config"]) "vaultfs" (base ++ [".config"])
  | own (nothing : disk.at? (base ++ [".config"]) = none) :
      FolderAt disk home base (parts home) ".vaultfs" base

theorem isPart_of_mem_general : ∀ part ∈ parts home ++ [".config"], IsPart part :=
  isPart_of_mem_concat (fun _ ↦ isPart_of_mem_parts) (by decide)

theorem HomeAt.spot_general (h : HomeAt disk home base) :
    disk.spot (ofParts "" (parts home ++ [".config"])) =
      .ok (match disk.at? (base ++ [".config"]) with
        | some here => .entry (base ++ [".config"]) here
        | none => .vacant (base ++ [".config"])) := by
  obtain ⟨entries, modified, hspot⟩ := h.stands
  rw [Disk.spot_name h.linkless (fun _ ↦ isPart_of_mem_parts) (by decide) (by decide) hspot
    h.fits, Entry.at_name (Disk.at_of_spot hspot)]
  rfl

/-- A home folder is kept by changes. -/
theorem HomeAt.keeps (h : HomeAt disk home base) (hchanges : Changes disk next place) :
    HomeAt next home base where
  linkless := hchanges.linkless
  nonempty := h.nonempty
  relative := h.relative
  fits := h.fits
  stands := by
    obtain ⟨entries, modified, hspot⟩ := h.stands
    obtain ⟨entries', modified', hspot', -⟩ := Disk.spot_keeps h.linkless hchanges.linkless hchanges.keeps
      (fun _ ↦ isPart_of_mem_parts) hspot
    exact ⟨entries', modified', hspot'⟩

namespace FolderAt

theorem exists_at (disk : Disk) (home : String) (base : List String) :
    ∃ front name place, FolderAt disk home base front name place := by
  cases h : disk.at? (base ++ [".config"]) with
  | none => exact ⟨_, _, _, .own h⟩
  | some here => exact ⟨_, _, _, .general h⟩

theorem isPart_front (h : FolderAt disk home base front name place) :
    ∀ part ∈ front, IsPart part := by
  cases h with
  | general => exact isPart_of_mem_general
  | own => exact fun _ ↦ isPart_of_mem_parts

theorem isName (h : FolderAt disk home base front name place) :
    IsName name ∧ FilePath.isShortName name = true := by
  cases h <;> decide

/-- The folder that holds the one of the settings file is at its place. -/
theorem spot_front (h : FolderAt disk home base front name place) (hhome : HomeAt disk home base) :
    ∃ here, disk.spot (ofParts "" front) = .ok (.entry place here) := by
  cases h with
  | @general here stands => exact ⟨here, by rw [hhome.spot_general, stands]⟩
  | own =>
    obtain ⟨entries, modified, hspot⟩ := hhome.stands
    exact ⟨_, hspot⟩

/-- The folder of the settings file is the one that is found. -/
theorem on_folder (h : FolderAt disk home base front name place) (hhome : HomeAt disk home base) :
    (folder home).on disk = .ok (ofParts "" (front ++ [name])) := by
  have hgeneral : below home ".config" = ofParts "" (parts home ++ [".config"]) :=
    below_home hhome.nonempty hhome.relative (by decide)
  have hspot := hhome.spot_general
  have hshort : disk.find (below home ".config") ≠ .error .nameTooLong := by
    rw [hgeneral, Disk.find, hspot]
    cases disk.at? (base ++ [".config"]) <;> simp
  rw [Settings.on_folder hshort, hgeneral]
  cases h with
  | @general here stands =>
    have hstands : (disk.kind? (ofParts "" (parts home ++ [".config"]))).isSome = true :=
      (Disk.isSome_kind_iff hhome.linkless).mpr ⟨here, by rw [Disk.find, hspot, stands]⟩
    have hbelow : below (ofParts (anchor "") (parts home ++ [".config"])) "vaultfs" =
        ofParts (anchor "") (parts home ++ [".config"] ++ ["vaultfs"]) :=
      FilePath.below_ofParts isPart_of_mem_general (by decide) ""
    rw [if_pos hstands]
    exact congrArg Except.ok hbelow
  | own nothing =>
    have hnothing : (disk.kind? (ofParts "" (parts home ++ [".config"]))).isSome = false := by
      rw [Disk.kind?, Disk.find, hspot, nothing]
      rfl
    rw [hnothing, if_neg Bool.false_ne_true, below_home hhome.nonempty hhome.relative (by decide)]

/-- A change in the folder of the settings file leaves it that. -/
theorem keeps (h : FolderAt disk home base front name place)
    (hplace : disk.at? place = some (.folder inner modified)) {more : List String}
    (hchanges : Changes disk next (place ++ name :: more)) :
    FolderAt next home base front name place := by
  cases h with
  | general =>
    obtain ⟨inner', modified', hinner'⟩ := hchanges.keeps _ _ _ hplace
    exact .general hinner'
  | own nothing =>
    refine .own ((hchanges.apart ?_).trans nothing)
    exact ⟨base, ".vaultfs", ".config", more, [], by decide, rfl, rfl⟩

/-- Assumes: the folder of the settings file, made if it did not stand. The file is written in it,
and stays the settings file; unless its path leads nowhere, or is that of a folder that stood
before. -/
theorem overwrite (h : FolderAt disk home base front name place) (hhome : HomeAt disk home base)
    (hmakes : Makes disk next (place ++ [name]))
    (hfront : disk.spot (ofParts "" front) = .ok (.entry place (.folder inner modified)))
    (bytes : List UInt8) (time : Rat) :
    (∃ last, next.overwrite (fileIn (ofParts "" (front ++ [name]))) bytes time time = .ok last ∧
      (folder home).on last = .ok (ofParts "" (front ++ [name])) ∧
        last.find (fileIn (ofParts "" (front ++ [name]))) = .ok (.file bytes time)) ∨
    (∃ error, next.overwrite (fileIn (ofParts "" (front ++ [name]))) bytes time time = .error error) ∧
      (next = disk ∨ LeadsNowhere (fileIn (ofParts "" (front ++ [name]))) ∧
        (folder home).on next = .ok (ofParts "" (front ++ [name]))) := by
  have hplace := Disk.at_of_spot hfront
  have hparts := isPart_of_mem_concat h.isPart_front (isPart_of_isName h.isName.1)
  have hnext : (folder home).on next = .ok (ofParts "" (front ++ [name])) :=
    (h.keeps hplace hmakes.toChanges).on_folder (hhome.keeps hmakes.toChanges)
  rw [fileIn_ofParts hparts (by simp)]
  by_cases hfits : Fits (ofParts "" (front ++ [name] ++ ["config.json"]))
  · have hfolder := Disk.fits_of_concat hparts (by decide) hfits
    obtain ⟨found, kept, hfound, hmade⟩ := Disk.spot_of_makes hhome.linkless h.isPart_front h.isName.1
      h.isName.2 hfront hfolder hmakes
    -- A folder that was made just now is empty: if the name is taken in it, then none was made.
    by_cases htaken : ∃ taken changed, found.lookup "config.json" = some (.folder taken changed)
    · obtain ⟨taken, changed, htaken⟩ := htaken
      refine .inr ⟨⟨_, by rw [Disk.overwrite, Disk.spot_name hmakes.linkless hparts (by decide)
        (by decide) hfound hfits, Disk.spotIn, htaken]⟩, .inl ?_⟩
      rcases hmade with hsame | rfl
      · exact hsame
      · cases htaken
    · obtain ⟨last, hwritten, hchanges, hfile⟩ := Disk.overwrite_name hmakes.linkless hparts
        (by decide) (by decide) hfound hfits (fun taken changed h ↦ htaken ⟨taken, changed, h⟩)
        bytes time time
      obtain ⟨inner', modified', hinner'⟩ := hmakes.keeps _ _ _ hplace
      have hbelow : Changes next last (place ++ name :: ["config.json"]) := by
        simpa using hchanges
      exact .inl ⟨last, hwritten, ((h.keeps hplace hmakes.toChanges).keeps hinner' hbelow).on_folder
        ((hhome.keeps hmakes.toChanges).keeps hchanges), hfile⟩
  · have hnowhere := Disk.leadsNowhere_of_not_fits hfits
    exact .inr ⟨hnowhere.overwrite next bytes time time, .inr ⟨hnowhere, hnext⟩⟩

end FolderAt

/-! ### What a save leaves -/

/-- What a save can leave: the file system as it was; folders, if the path of the settings file
leads nowhere on any file system; or the settings file with what is written of the data. -/
inductive Saves (room : Room) (data : Datum) (home : String) (disk : Disk) (time : Rat) :
    Disk × Option SaveError → Prop
  | refused (error : StorageError) : Saves room data home disk time (disk, some (.storage error))
  | nowhere {next : Disk} {path : String} (error : StorageError)
      (before : (folder home).on disk = .ok path) (after : (folder home).on next = .ok path)
      (leads : LeadsNowhere (fileIn path)) :
      Saves room data home disk time (next, some (.storage error))
  | wrote {next : Disk} {path : String} (before : (folder home).on disk = .ok path)
      (after : (folder home).on next = .ok path)
      (found : next.find (fileIn path) = .ok (.file (Utf8.encode (written room data).1) time)) :
      Saves room data home disk time (next, (written room data).2)

section Outcomes

variable {error : StorageError}

theorem saveData_of_folder_error (h : (folder home).on disk = .error error) :
    saveData room data home disk time = (disk, some (.storage error)) := by
  delta saveData
  simp only [h]

theorem saveData_of_makeFolder_error (hfolder : (folder home).on disk = .ok path)
    (hmake : disk.makeFolder path time = .error error) :
    saveData room data home disk time = (disk, some (.storage error)) := by
  delta saveData
  simp only [hfolder, hmake]

theorem saveData_of_overwrite_error (hfolder : (folder home).on disk = .ok path)
    (hmake : disk.makeFolder path time = .ok next)
    (hwrite : next.overwrite (fileIn path) (Utf8.encode (written room data).1) time time =
      .error error) :
    saveData room data home disk time = (next, some (.storage error)) := by
  delta saveData
  simp only [hfolder, hmake, hwrite]

theorem saveData_of_overwrite (hfolder : (folder home).on disk = .ok path)
    (hmake : disk.makeFolder path time = .ok next)
    (hwrite : next.overwrite (fileIn path) (Utf8.encode (written room data).1) time time =
      .ok last) :
    saveData room data home disk time = (last, (written room data).2) := by
  delta saveData
  simp only [hfolder, hmake, hwrite]

end Outcomes

theorem saves_of_makeFolder_error {error : StorageError}
    (hfolder : (folder home).on disk = .ok path)
    (hmake : disk.makeFolder path time = .error error) :
    Saves room data home disk time (saveData room data home disk time) := by
  rw [saveData_of_makeFolder_error hfolder hmake]
  exact .refused error

/-- Without a way to look the path of the settings file up, nothing is saved. -/
theorem saves_of_leadsNowhere (hgeneral : LeadsNowhere (below home ".config"))
    (hown : LeadsNowhere (fileIn (below home ".vaultfs"))) :
    Saves room data home disk time (saveData room data home disk time) := by
  obtain ⟨fault, hfault⟩ := hgeneral
  have hfind : ∀ disk : Disk, disk.find (below home ".config") = .error fault := fun disk ↦ by
    rw [Disk.find, hfault disk]
  by_cases hlong : fault = .nameTooLong
  · rw [saveData_of_folder_error (on_folder_of_tooLong (by rw [hfind, hlong]))]
    exact .refused _
  have hfolder : ∀ disk : Disk, (folder home).on disk = .ok (below home ".vaultfs") := fun disk ↦ by
    rw [on_folder (by rw [hfind]; simpa using hlong), Disk.kind?, hfind]
    rfl
  cases hmake : disk.makeFolder (below home ".vaultfs") time with
  | error error => exact saves_of_makeFolder_error (hfolder disk) hmake
  | ok next =>
    obtain ⟨error, hwrite⟩ := hown.overwrite next (Utf8.encode (written room data).1) time time
    rw [saveData_of_overwrite_error (hfolder disk) hmake hwrite]
    exact .nowhere error (hfolder disk) (hfolder next) hown

/-- What is below an absolute path, or the empty one, is absolute. -/
theorem beginsWith_below (hhome : home = "" ∨ anchor home ≠ "") (hname : IsPart name)
    (ending : String) : beginsWith "/" (below home name ++ ending) = true := by
  obtain ⟨root, hne, hanchor, hsame⟩ :
      ∃ root, root ≠ "" ∧ anchor root ≠ "" ∧ below home name = below root name := by
    by_cases hempty : home = ""
    · refine ⟨"/", by decide, by decide, ?_⟩
      have hno : finishesWith "/" "" = false := by decide
      have hyes : finishesWith "/" "/" = true := by decide
      rw [hempty, below, below, if_neg hname.1, if_neg hname.1, hno, hyes]
      simp
    · exact ⟨home, hempty, hhome.resolve_left hempty, rfl⟩
  rw [hsame, FilePath.below_part hne hname, ofParts, if_neg (by simp [hanchor])]
  rcases FilePath.anchor_cases root with h | h | h
  · exact absurd h hanchor
  · rw [h]
    simp [beginsWith]
  · rw [h]
    simp [beginsWith]

/-- Assumes: a file system with a home folder, in which the folder of the settings file is made, and
another one in which making that folder comes to the same. Then what is told of the first is what a
save leaves of the other. -/
theorem FolderAt.saves {start : Disk} (h : FolderAt start home base front name place)
    (hhome : HomeAt start home base) (hmakes : Makes start next (place ++ [name]))
    (hfront : start.spot (ofParts "" front) = .ok (.entry place (.folder inner modified)))
    (hfolder : (folder home).on disk = .ok (ofParts "" (front ++ [name])))
    (hmake : disk.makeFolder (ofParts "" (front ++ [name])) time = .ok next)
    (hsame : next = start → next = disk) :
    Saves room data home disk time (saveData room data home disk time) := by
  rcases h.overwrite hhome hmakes hfront (Utf8.encode (written room data).1) time with
    ⟨last, hwrite, hlast, hfile⟩ | ⟨⟨error, hwrite⟩, hnext | ⟨hnowhere, hafter⟩⟩
  · rw [saveData_of_overwrite hfolder hmake hwrite]
    exact .wrote hfolder hlast hfile
  · rw [saveData_of_overwrite_error hfolder hmake hwrite]
    exact hsame hnext ▸ .refused error
  · rw [saveData_of_overwrite_error hfolder hmake hwrite]
    exact .nowhere error hfolder hafter hnowhere

theorem saves_of_homeAt (hhome : HomeAt disk home base) :
    Saves room data home disk time (saveData room data home disk time) := by
  obtain ⟨front, name, place, h⟩ := FolderAt.exists_at disk home base
  obtain ⟨here, hfront⟩ := h.spot_front hhome
  cases hmake : disk.makeFolder (ofParts "" (front ++ [name])) time with
  | error error => exact saves_of_makeFolder_error (h.on_folder hhome) hmake
  | ok next =>
    have hfolders := hmake
    rw [Disk.makeFolder_ofParts h.isPart_front (isPart_of_isName h.isName.1)] at hfolders
    obtain ⟨entries, modified, rfl, hmakes⟩ := Disk.makes_of_makeFolders hhome.linkless h.isPart_front
      h.isName.1 h.isName.2 hfront hfolders
    exact h.saves hhome hmakes hfront (h.on_folder hhome) hmake id

/-- Nothing stands at a name below a path at which no folder stands. -/
theorem kind_below_missing (hkind : disk.kind? (ofParts "" (parts home)) ≠ some .folder)
    (hname : IsName name) : disk.kind? (ofParts "" (parts home ++ [name])) = none := by
  cases h : disk.kind? (ofParts "" (parts home ++ [name])) with
  | none => rfl
  | some kind =>
    have hstands : disk.kind? (ofParts (anchor "") (parts home ++ [name])) = some kind := h
    exact absurd
      (Disk.mem_names_of_kind (fun _ ↦ isPart_of_mem_parts) hname hstands).1 hkind

/-- Below a path of names at which no folder stands, the home folder is made first. -/
theorem saves_of_missing (hdisk : disk.Linkless) (hne : home ≠ "") (hrelative : anchor home = "")
    (hfits : Fits (ofParts "" (parts home ++ [".config"]))) (hnames : ".." ∉ parts home)
    (hkind : disk.kind? (ofParts "" (parts home)) ≠ some .folder) :
    Saves room data home disk time (saveData room data home disk time) := by
  have hparts : ∀ part ∈ parts home, IsPart part := fun _ ↦ isPart_of_mem_parts
  by_cases hlong : disk.find (below home ".config") = .error .nameTooLong
  · rw [saveData_of_folder_error (on_folder_of_tooLong hlong)]
    exact .refused _
  have hfolder : (folder home).on disk = .ok (ofParts "" (parts home ++ [".vaultfs"])) := by
    rw [on_folder hlong, below_home hne hrelative (by decide),
      kind_below_missing hkind (by decide), Option.isSome_none, if_neg Bool.false_ne_true,
      below_home hne hrelative (by decide)]
  cases hmake : disk.makeFolder (ofParts "" (parts home ++ [".vaultfs"])) time with
  | error error => exact saves_of_makeFolder_error hfolder hmake
  | ok next =>
    have hown : IsName ".vaultfs" := by decide
    have hproper : ∀ part ∈ parts home, IsName part := fun part hpart ↦ ⟨(hparts part hpart).1,
      (hparts part hpart).2.1, fun hdots ↦ hnames (hdots ▸ hpart), (hparts part hpart).2.2⟩
    obtain ⟨start, hstart, hspot, rfl⟩ := Disk.exists_of_makeFolder hdisk hproper hown
      (Disk.fits_of_concat hparts (by decide) hfits) hkind hmake
    have hbase := Disk.at_of_spot hspot
    -- In `start` the home folder is there and empty, so its own folder is the one of the file.
    have hempty : ∀ name, start.at? (parts home ++ [name]) = none := Entry.at_name hbase
    have hhome : HomeAt start home (parts home) := ⟨hstart, hne, hrelative, hfits, [], time, hspot⟩
    refine (FolderAt.own (hempty ".config")).saves hhome (Disk.makes_put hstart hbase rfl time)
      hspot hfolder hmake fun hsame ↦ ?_
    have hnew : (start.put time (parts home ++ [".vaultfs"]) (.folder [] time)).at?
        (parts home ++ [".vaultfs"]) = some (.folder [] time) :=
      Entry.at_put_self hbase ".vaultfs" _
    rw [hsame, hempty] at hnew
    cases hnew

/-- Whether a path can be that of a home folder: a folder stands there, or it has no double dots. -/
def IsHome (disk : Disk) (home : String) : Prop :=
  disk.kind? (FilePath.tidy home) = some .folder ∨ ".." ∉ parts home

/-- What a save leaves of a file system without links. -/
theorem saves (hdisk : disk.Linkless) (hhome : IsHome disk home) :
    Saves room data home disk time (saveData room data home disk time) := by
  by_cases habsolute : home = "" ∨ anchor home ≠ ""
  · have hgeneral := beginsWith_below habsolute (by decide : IsPart ".config") ""
    rw [String.append_empty] at hgeneral
    exact saves_of_leadsNowhere (Disk.leadsNowhere_of_absolute hgeneral)
      (Disk.leadsNowhere_of_absolute (beginsWith_below habsolute (by decide) _))
  rw [not_or, not_not] at habsolute
  obtain ⟨hne, hrelative⟩ := habsolute
  have hparts : ∀ part ∈ parts home, IsPart part := fun _ ↦ isPart_of_mem_parts
  by_cases hfits : Fits (ofParts "" (parts home ++ [".config"]))
  · rw [IsHome, FilePath.tidy_eq_ofParts, hrelative] at hhome
    by_cases hkind : disk.kind? (ofParts "" (parts home)) = some .folder
    · obtain ⟨e, hfind⟩ := Disk.kind_eq_some hkind
      obtain ⟨base, hspot⟩ := Disk.find_eq_ok.mp hfind
      rw [Disk.kind_eq_folder_iff hspot] at hkind
      cases e with
      | folder entries modified =>
        exact saves_of_homeAt ⟨hdisk, hne, hrelative, hfits, entries, modified, hspot⟩
      | file | link => cases hkind
    · exact saves_of_missing hdisk hne hrelative hfits (hhome.resolve_left hkind) hkind
  · refine saves_of_leadsNowhere ?_ ?_
    · rw [below_home hne hrelative (by decide)]
      exact Disk.leadsNowhere_of_not_fits hfits
    · have hall : ∀ part ∈ parts home ++ [".vaultfs"], IsPart part :=
        isPart_of_mem_concat hparts (by decide)
      rw [below_home hne hrelative (by decide), fileIn_ofParts hall (by simp)]
      refine Disk.leadsNowhere_of_not_fits fun hfile ↦ hfits ?_
      exact Disk.fits_of_shorter hparts (by decide) (by decide) (by decide) (by decide)
        (Disk.fits_of_concat hall (by decide) hfile)

theorem eq_of_snd {result : Disk × Option SaveError} {fault? : Option SaveError}
    (h : result.2 = fault?) : result = (result.1, fault?) :=
  Prod.ext rfl h

/-! ### What is loaded after a save -/

/-- The bytes of the settings file, if there is one. -/
def contents (disk : Disk) (home : String) : Option (List UInt8) :=
  ((file home).on disk).toOption.bind fun path ↦ (disk.read path).toOption

theorem contents_eq (hfolder : (folder home).on disk = .ok path) :
    contents disk home = (disk.read (fileIn path)).toOption := by
  rw [contents, on_file_eq, hfolder]
  rfl

/-- The settings are had from the bytes of the file. -/
theorem on_load_of_contents (h : contents disk home = some bytes) :
    (load room home).on disk = ofBytes room bytes := by
  obtain ⟨path, hpath, hbytes⟩ := Option.bind_eq_some_iff.mp h
  have hfile : (file home).on disk = .ok path := toOption_eq_some.mp hpath
  have hread : disk.read path = .ok bytes := toOption_eq_some.mp hbytes
  obtain ⟨modified, hfind⟩ : ∃ modified, disk.find path = .ok (.file bytes modified) := by
    rw [Disk.read] at hread
    split at hread
    · next found modified hfind => exact ⟨modified, Except.ok.inj hread ▸ hfind⟩
    · cases hread
    · cases hread
  have hstands : (stands path).on disk = .ok true := by
    rw [on_stands (by simp [hfind]), Disk.kind?, hfind]
    rfl
  rw [load, Lookup.on_bind, hfile, Lookup.on_bind, hstands, Lookup.on_bind, Lookup.on_bytes, hread]
  rfl

theorem contents_of_find (hfolder : (folder home).on disk = .ok path)
    (hfind : disk.find (fileIn path) = .ok (.file bytes time)) :
    contents disk home = some bytes := by
  rw [contents_eq hfolder, Disk.read, hfind]
  rfl

/-- Settings are what their value describes. -/
theorem ofJson_toJson (settings : Settings) : ofJson settings.toJson = .ok settings := rfl

/-- Where the path of the settings file leads nowhere, there is no file, and nothing but the path
decides what is loaded. -/
theorem kept_of_leadsNowhere (hbefore : (folder home).on disk = .ok path)
    (hafter : (folder home).on next = .ok path) (h : LeadsNowhere (fileIn path)) :
    contents next home = contents disk home ∧
      (load room home).on next = (load room home).on disk := by
  obtain ⟨fault, hfault⟩ := h
  have hfind : ∀ disk : Disk, disk.find (fileIn path) = .error fault := fun disk ↦ by
    rw [Disk.find, hfault disk]
  have hnone : ∀ {disk : Disk}, (folder home).on disk = .ok path → contents disk home = none :=
    fun {disk} hfolder ↦ by
      rw [contents_eq hfolder, Disk.read, hfind]
      rfl
  have hload : ∀ {disk : Disk}, (folder home).on disk = .ok path →
      (load room home).on disk = if fault = .nameTooLong
        then .error (.storage ⟨.nameTooLong, [fileIn path]⟩) else .ok {} := fun {disk} hfolder ↦ by
    have hfile : (file home).on disk = .ok (fileIn path) := by
      rw [on_file_eq, hfolder]
      rfl
    rw [load, Lookup.on_bind, hfile, Lookup.on_bind]
    split_ifs with hlong
    · rw [on_stands_of_tooLong (by rw [hfind, hlong])]
      rfl
    · rw [on_stands (by rw [hfind]; simpa using hlong), Disk.kind?, hfind]
      rfl
  exact ⟨(hnone hafter).trans (hnone hbefore).symm, (hload hafter).trans (hload hbefore).symm⟩

/-- A save is either refused by the file system, and then the settings file and what is loaded from
it are as they were, or the file holds what is written of the data, under the path that it had. -/
theorem Saves.refused_or_wrote {fault? : Option SaveError}
    (h : Saves room data home disk time (next, fault?)) :
    ((∃ error, fault? = some (.storage error)) ∧ contents next home = contents disk home ∧
      (load room home).on next = (load room home).on disk) ∨
    (fault? = (written room data).2 ∧
      contents next home = some (Utf8.encode (written room data).1) ∧
        ∃ path, (file home).on disk = .ok path ∧ (file home).on next = .ok path) := by
  generalize hresult : (next, fault?) = result at h
  cases h with
  | refused error =>
    obtain ⟨rfl, rfl⟩ := Prod.mk.inj hresult
    exact .inl ⟨⟨error, rfl⟩, rfl, rfl⟩
  | nowhere error before after leads =>
    obtain ⟨rfl, rfl⟩ := Prod.mk.inj hresult
    exact .inl ⟨⟨error, rfl⟩, kept_of_leadsNowhere before after leads⟩
  | @wrote last path before after found =>
    obtain ⟨rfl, rfl⟩ := Prod.mk.inj hresult
    exact .inr ⟨rfl, contents_of_find after found, fileIn path, by rw [on_file_eq, before]; rfl,
      by rw [on_file_eq, after]; rfl⟩

/-- Settings have no repeated names if none of their fields does. -/
theorem hasDistinctNames_toJson
    (hproviders : ∀ field ∈ providerFields, (settings.providers.get field).HasDistinctNames)
    (hcommands : ∀ field ∈ commandFields, (settings.commands.get field).HasDistinctNames) :
    settings.toJson.HasDistinctNames := by
  simp only [providerFields, commandFields, List.forall_mem_cons, ForProviders.get,
    ForCommands.get] at hproviders hcommands
  refine .obj (by simp) (List.forall_mem_cons.mpr ⟨.obj (by simp) ?_,
    List.forall_mem_singleton.mpr (.obj (by simp) ?_)⟩)
  · simpa using hproviders
  · simpa using hcommands

/-- What is written without a fault is the whole text. -/
theorem indented_of_written (h : (written room data).2 = none) :
    (written room data).1 = (data.indented 2).1 ∧ (data.indented 2).2 = none ∧
      data.depth ≤ room.read := by
  rw [written] at h ⊢
  split_ifs at h ⊢ with hdeep
  exact ⟨rfl, by simpa using h, le_trans (Nat.le_of_not_lt hdeep) room.write_le_read⟩

/-- Assumes: settings in which names are not repeated in an object, with floats that are read back
from their texts. They are had from the bytes that are written of them without a fault. -/
theorem ofBytes_written (hnames : settings.toJson.HasDistinctNames)
    (hfloats : ∀ x ∈ settings.toJson.floats, IsReadBack x)
    (h : (written room (.ofValue settings.toJson)).2 = none) :
    ofBytes room (Utf8.encode (written room (.ofValue settings.toJson)).1) = .ok settings := by
  obtain ⟨htext, hwhole, hroom⟩ := indented_of_written h
  rw [ofBytes, Utf8.decode_encode, htext]
  simp only [ofText, read_indented hnames hfloats hwhole hroom, ofJson_toJson]

theorem storage_ne_written (error : StorageError) :
    (written room data).2 ≠ some (.storage error) := by
  rw [written]
  split_ifs
  · simp
  · cases (data.indented 2).2 <;> simp

/-- Assumes: settings in which names are not repeated in an object, with floats that are read back
from their texts. They are what their value describes; and when a save of them returns, the path of
the settings file is the one that it was before, and they are loaded from it. -/
theorem load_save (hnames : settings.toJson.HasDistinctNames)
    (hfloats : ∀ x ∈ settings.toJson.floats, IsReadBack x) :
    ofJson settings.toJson = .ok settings ∧
      ∀ {disk next : Disk} {home : String} {time : Rat} {room : Room}, disk.Linkless →
        IsHome disk home → save room settings home disk time = (next, none) →
          ∃ path, (file home).on disk = .ok path ∧ (file home).on next = .ok path ∧
            (load room home).on next = .ok settings := by
  refine ⟨ofJson_toJson settings, fun {disk next home time room} hdisk hhome h ↦ ?_⟩
  have hsaves : Saves room (.ofValue settings.toJson) home disk time (next, none) :=
    h ▸ saves hdisk hhome
  rcases hsaves.refused_or_wrote with ⟨⟨error, herror⟩, -⟩ | ⟨hwritten, hcontents, path, hpath⟩
  · cases herror
  · exact ⟨path, hpath.1, hpath.2,
      (on_load_of_contents hcontents).trans (ofBytes_written hnames hfloats hwritten.symm)⟩

/-- Settings with a text that is not ASCII and a list. -/
def accentedSettings : Settings :=
  { providers := { root := .str "café", capacity := .arr [.int 5, .null] } }

/-- A home folder with an empty folder for configuration files. -/
def freshHome : Disk := .folder [(".config", .folder [] 0)] 0

/-- The settings are loaded as they were saved. -/
theorem accented_settings_reloaded :
    (save usualRoom accentedSettings "." freshHome 0).2 = none ∧
      ofJson accentedSettings.toJson = .ok accentedSettings ∧
        ∃ path, (file ".").on freshHome = .ok path ∧
          (file ".").on (save usualRoom accentedSettings "." freshHome 0).1 = .ok path ∧
            (load usualRoom ".").on (save usualRoom accentedSettings "." freshHome 0).1 =
              .ok accentedSettings := by
  have hlist : Value.HasDistinctNames (.arr [.int 5, .null]) :=
    .arr (List.forall_mem_cons.mpr ⟨.int 5, List.forall_mem_singleton.mpr .null⟩)
  have hnames : accentedSettings.toJson.HasDistinctNames := hasDistinctNames_toJson
    (by simp only [providerFields, List.forall_mem_cons]
        exact ⟨.str _, .null, .float _, hlist, List.forall_mem_nil _⟩)
    (by simp only [commandFields, List.forall_mem_cons]
        exact ⟨.bool _, .bool _, List.forall_mem_nil _⟩)
  have hlinkless : freshHome.Linkless :=
    .folder (List.forall_mem_singleton.mpr (.folder (by simp)))
  have hsaved : (save usualRoom accentedSettings "." freshHome 0).2 = none := by decide +kernel
  obtain ⟨hdescribed, hloaded⟩ := load_save hnames (by decide +kernel)
  exact ⟨hsaved, hdescribed, hloaded hlinkless (.inl (by decide +kernel)) (eq_of_snd hsaved)⟩

/-- Assumes: a file system without links, and a save of any data that fails. The settings file and
what is loaded from it are as they were exactly if the file system refused the save, or the file
held already just what can be written of the data. -/
theorem failed_save_keeps_iff {error : SaveError} (hdisk : disk.Linkless) (hhome : IsHome disk home)
    (h : saveData room data home disk time = (next, some error)) :
    (contents next home = contents disk home ∧ (load room home).on next = (load room home).on disk) ↔
      (∃ fault, error = .storage fault) ∨
        contents disk home = some (Utf8.encode (written room data).1) := by
  have hsaves : Saves room data home disk time (next, some error) := h ▸ saves hdisk hhome
  rcases hsaves.refused_or_wrote with ⟨⟨fault, hfault⟩, hkept⟩ | ⟨hwritten, hcontents, -⟩
  · exact iff_of_true hkept (.inl ⟨fault, Option.some.inj hfault⟩)
  · constructor
    · rintro ⟨hsame, -⟩
      exact .inr (hsame.symm.trans hcontents)
    · rintro (⟨fault, rfl⟩ | hsame)
      · exact absurd hwritten.symm (storage_ne_written fault)
      · exact ⟨hcontents.trans hsame.symm,
          (on_load_of_contents hcontents).trans (on_load_of_contents hsame).symm⟩

/-- Settings that make the command line verbose. -/
def verboseSettings : Settings := { commands := { verbose := .bool true } }

/-- The bytes that a save of them writes. -/
def verboseBytes : List UInt8 := Utf8.encode (written usualRoom (.ofValue verboseSettings.toJson)).1

theorem ofBytes_verboseBytes : ofBytes usualRoom verboseBytes = .ok verboseSettings :=
  ofBytes_written (hasDistinctNames_toJson
    (by simp only [providerFields, List.forall_mem_cons]
        exact ⟨.null, .null, .float _, .int _, List.forall_mem_nil _⟩)
    (by simp only [commandFields, List.forall_mem_cons]
        exact ⟨.bool _, .bool _, List.forall_mem_nil _⟩)) (by decide +kernel) (by decide +kernel)

/-- A home folder with those settings in its settings file. -/
def verboseHome : Disk :=
  .folder [(".config", .folder [("vaultfs", .folder [("config.json", .file verboseBytes 0)] 0)] 0)] 0

theorem linkless_verboseHome : verboseHome.Linkless :=
  .folder (List.forall_mem_singleton.mpr (.folder (List.forall_mem_singleton.mpr
    (.folder (List.forall_mem_singleton.mpr (.file _ _))))))

/-- Settings with a decimal number, for which JSON has no form. -/
def decimalSettings : Datum :=
  .obj [("provider", .obj [("provider_root", .foreign "Decimal")])]

/-- A save of a decimal number leaves a file that stops before the number. -/
theorem decimal_written_halfway :
    (saveData usualRoom decimalSettings "." verboseHome 0).2 = some (.unwritable (.noForm "Decimal")) ∧
      (written usualRoom decimalSettings).1 =
        "\x7b\n  \"provider\": \x7b\n    \"provider_root\": " ∧
      ¬ (contents (saveData usualRoom decimalSettings "." verboseHome 0).1 "." =
          contents verboseHome "." ∧
        (load usualRoom ".").on (saveData usualRoom decimalSettings "." verboseHome 0).1 =
          (load usualRoom ".").on verboseHome) := by
  have hfails : (saveData usualRoom decimalSettings "." verboseHome 0).2 =
      some (.unwritable (.noForm "Decimal")) := by decide +kernel
  have hother : contents verboseHome "." ≠
      some (Utf8.encode (written usualRoom decimalSettings).1) := by decide +kernel
  refine ⟨hfails, by decide +kernel, fun hkept ↦ ?_⟩
  rcases (failed_save_keeps_iff linkless_verboseHome (.inl (by decide +kernel))
    (eq_of_snd hfails)).mp hkept with ⟨fault, hfault⟩ | hsame
  · cases hfault
  · exact hother hsame

/-- Lists nested so often in an empty one. -/
def nestedLists : Nat → Value
  | 0 => .arr []
  | count + 1 => .arr [nestedLists count]

theorem depth_nestedLists (count : Nat) :
    (Datum.ofValue (nestedLists count)).depth = count + 1 := by
  induction count with
  | zero => rfl
  | succ count ih => simp [nestedLists, Datum.ofValue, dataOfItems, Datum.depth, depthOfItems, ih]

/-- Settings with such lists. -/
def nestedSettings (count : Nat) : Settings := { providers := { root := nestedLists count } }

theorem written_nestedSettings {count : Nat} (h : room.write ≤ count) :
    written room (.ofValue (nestedSettings count).toJson) = ("", some .nestedTooDeep) := by
  rw [written, if_pos]
  simp only [nestedSettings, toJson, Datum.ofValue, dataOfMembers, Datum.depth, depthOfMembers,
    depth_nestedLists]
  omega

/-- A save of lists that are nested too deep empties the settings file, so the defaults are loaded
where there were other settings. -/
theorem nested_settings_emptied :
    (save usualRoom (nestedSettings 600) "." verboseHome 0).2 = some .nestedTooDeep ∧
      contents verboseHome "." = some verboseBytes ∧
      contents (save usualRoom (nestedSettings 600) "." verboseHome 0).1 "." = some [] ∧
      (load usualRoom ".").on verboseHome = .ok verboseSettings ∧
      (load usualRoom ".").on (save usualRoom (nestedSettings 600) "." verboseHome 0).1 = .ok {} := by
  have hbefore : contents verboseHome "." = some verboseBytes := by decide +kernel
  have hwritten :
      written usualRoom (.ofValue (nestedSettings 600).toJson) = ("", some .nestedTooDeep) :=
    written_nestedSettings (by decide)
  have hafter : contents (save usualRoom (nestedSettings 600) "." verboseHome 0).1 "." = some [] := by
    delta save saveData
    rw [hwritten]
    decide +kernel
  have hempty : ofBytes usualRoom [] = .ok {} := by
    have hdecode : Utf8.decode [] = .ok "" := by decide +kernel
    have hread : Json.read usualRoom.read "" = .error .malformed := by rfl
    simp only [ofBytes, hdecode, ofText, hread]
  refine ⟨?_, hbefore, hafter, (on_load_of_contents hbefore).trans ofBytes_verboseBytes,
    (on_load_of_contents hafter).trans hempty⟩
  delta save saveData
  rw [hwritten]
  decide +kernel

end ContentTree.Settings
