import ContentTree.Proofs.Lookup
import ContentTree.Proofs.Settings.Sections
import ContentTree.Settings.File
/-!
What is loaded from the settings file. Whatever is loaded is what the file stands for: the settings
that it describes, or the defaults if it describes nothing. Main statement: settings are loaded
exactly when no path on the way is too long and the file, if there is one, holds UTF-8 text without
an integer that is too long or a container that is nested too deep, and no JSON value but an object.
So a file that is broken in any other way is taken for the defaults, but not one with a list, with
odd bytes, with too many digits or with too many brackets.
-/

set_option autoImplicit false
set_option relaxedAutoImplicit false

namespace ContentTree.Settings

open ContentTree.Storage ContentTree.Text ContentTree.Json

variable {home path : String} {disk : Disk} {value : Value} {settings : Settings}
  {bytes : List UInt8} {room : Room}

/-! ### What a file stands for -/

/-- Whether a file holds the text of a JSON value, in which as many containers may stand in each
other as they do. -/
def HoldsJson (disk : Disk) (file : String) (value : Value) : Prop :=
  ∃ bytes text room, disk.read file = .ok bytes ∧ Utf8.decode bytes = .ok text ∧
    Json.read room text = .ok value

/-- The settings that a file stands for: those that it describes, or the defaults. -/
inductive StandsFor (disk : Disk) (file : String) : Settings → Prop
  | described {value : Value} (held : HoldsJson disk file value) (describes : Describes value) :
      StandsFor disk file (described value)
  | defaults (nothing : ∀ value, HoldsJson disk file value → ¬ Describes value) :
      StandsFor disk file {}

/-- Whether bytes can be read, be it as settings or as broken: they are text, no integer in it is
too long, there is room for the containers in it, and if it is a JSON value, that is an object. -/
def IsReadable (room : Room) (bytes : List UInt8) : Prop :=
  ∃ text, Utf8.decode bytes = .ok text ∧
    (∀ digits, Json.read room.read text ≠ .error (.integerTooLong digits)) ∧
      (∀ container, Json.read room.read text ≠ .error (.nestedTooDeep container)) ∧
        ∀ value, Json.read room.read text = .ok value → ∃ members, value = .obj members

/-- The settings in a text are those that its value describes, or else the defaults. -/
theorem ofText_eq_ok {text : String} : ofText room text = .ok settings ↔
    Json.read room.read text = .error .malformed ∧ settings = {} ∨
      ∃ members, Json.read room.read text = .ok (.obj members) ∧
        (Describes (.obj members) ∧ settings = described (.obj members) ∨
          ¬ Describes (.obj members) ∧ settings = {}) := by
  unfold ofText
  cases hread : Json.read room.read text with
  | error error => cases error <;> simp [eq_comm]
  | ok value =>
    simp only [reduceCtorEq, false_and, false_or, Except.ok.injEq]
    have hdistinct := Json.hasDistinctNames_of_read hread
    cases value with
    | obj members =>
      simp only [Value.obj.injEq, exists_eq_left']
      cases hsettings : ofJson (.obj members) with
      | ok found =>
        obtain ⟨hdescribes, rfl⟩ := (ofJson_eq_ok hdistinct).mp hsettings
        simp [hdescribes, eq_comm]
      | error fault =>
        have hnothing : ¬ Describes (.obj members) := fun hdescribes ↦ by
          rw [(ofJson_eq_ok hdistinct).mpr ⟨hdescribes, rfl⟩] at hsettings
          cases hsettings
        cases fault with
        | noObject kind => exact absurd hsettings (ofJson_obj_ne_noObject members kind)
        | _ => simp [hnothing, eq_comm]
    | _ => simp [ofJson]

theorem exists_ofBytes_iff :
    (∃ settings, ofBytes room bytes = .ok settings) ↔ IsReadable room bytes := by
  unfold ofBytes IsReadable
  cases hdecode : Utf8.decode bytes with
  | error fault => simp
  | ok text =>
    simp only [Except.ok.injEq, exists_eq_left']
    constructor
    · rintro ⟨settings, h⟩
      rcases ofText_eq_ok.mp h with ⟨hmalformed, -⟩ | ⟨members, hmembers, -⟩
      · simp [hmalformed]
      · simp [hmembers]
    · rintro ⟨hshort, hflat, hobject⟩
      cases hread : Json.read room.read text with
      | error error =>
        cases error with
        | malformed => exact ⟨{}, ofText_eq_ok.mpr (.inl ⟨hread, rfl⟩)⟩
        | nestedTooDeep container => exact absurd hread (hflat container)
        | integerTooLong digits => exact absurd hread (hshort digits)
      | ok value =>
        obtain ⟨members, rfl⟩ := hobject value hread
        by_cases hdescribes : Describes (.obj members)
        · exact ⟨_, ofText_eq_ok.mpr (.inr ⟨members, hread, .inl ⟨hdescribes, rfl⟩⟩)⟩
        · exact ⟨_, ofText_eq_ok.mpr (.inr ⟨members, hread, .inr ⟨hdescribes, rfl⟩⟩)⟩

theorem holdsJson_iff (room : Room) {file text : String} (hread : disk.read file = .ok bytes)
    (hdecode : Utf8.decode bytes = .ok text)
    (hflat : ∀ container, Json.read room.read text ≠ .error (.nestedTooDeep container)) :
    HoldsJson disk file value ↔ Json.read room.read text = .ok value := by
  simp [HoldsJson, hread, hdecode, Json.read_eq_ok_iff hflat]

/-- What is had from the bytes of a file is what the file stands for. -/
theorem standsFor_of_ofBytes {file : String} (hread : disk.read file = .ok bytes)
    (h : ofBytes room bytes = .ok settings) : StandsFor disk file settings := by
  unfold ofBytes at h
  split at h
  · next text hdecode =>
    rcases ofText_eq_ok.mp h with ⟨hmalformed, rfl⟩ | ⟨members, hmembers, hfound⟩
    · refine .defaults fun value hheld ↦ ?_
      rw [holdsJson_iff room hread hdecode (by simp [hmalformed]), hmalformed] at hheld
      cases hheld
    · have hheld : ∀ value, HoldsJson disk file value ↔ Json.read room.read text = .ok value :=
        fun value ↦ holdsJson_iff room hread hdecode (by simp [hmembers])
      rcases hfound with ⟨hdescribes, rfl⟩ | ⟨hnothing, rfl⟩
      · exact .described ((hheld _).mpr hmembers) hdescribes
      · refine .defaults fun value hvalue ↦ ?_
        rw [hheld, hmembers, Except.ok.injEq] at hvalue
        exact hvalue ▸ hnothing
  · cases h

/-- A file that cannot be read stands for the defaults. -/
theorem standsFor_of_error {file : String} {error : StorageError}
    (hread : disk.read file = .error error) : StandsFor disk file {} := by
  refine .defaults ?_
  rintro value ⟨bytes, text, _, hbytes, -⟩
  rw [hread] at hbytes
  cases hbytes

/-! ### Paths on the way -/

theorem on_isTooLong :
    (Lookup.isTooLong path).on disk = true ↔ disk.find path = .error .nameTooLong := by
  have hsize : (Lookup.size path).on disk = disk.size path := rfl
  rw [Lookup.isTooLong, Lookup.on_bind, hsize, Disk.size]
  cases disk.find path with
  | ok e => cases e <;> simp
  | error fault => cases fault <;> simp [PathFault.cause]

theorem on_stands_of_tooLong (h : disk.find path = .error .nameTooLong) :
    (stands path).on disk = .error ⟨.nameTooLong, [path]⟩ := by
  simp [stands, on_isTooLong.mpr h]

theorem on_stands (h : disk.find path ≠ .error .nameTooLong) :
    (stands path).on disk = .ok (disk.kind? path).isSome := by
  simp [stands, mt on_isTooLong.mp h]

/-- The place of the settings file below a home folder. -/
def place (disk : Disk) (home : String) : String :=
  fileIn (if (disk.kind? (FilePath.below home ".config")).isSome
    then FilePath.below (FilePath.below home ".config") "vaultfs"
    else FilePath.below home ".vaultfs")

theorem on_file (h : disk.find (FilePath.below home ".config") ≠ .error .nameTooLong) :
    (file home).on disk = .ok (place disk home) := by
  simp [file, folder, on_stands h, place, Except.map]

theorem on_file_of_tooLong (h : disk.find (FilePath.below home ".config") = .error .nameTooLong) :
    (file home).on disk = .error ⟨.nameTooLong, [FilePath.below home ".config"]⟩ := by
  simp [file, folder, on_stands_of_tooLong h, Except.map]

theorem read_of_kind_eq_none (h : disk.kind? path = none) : ∃ error, disk.read path = .error error := by
  unfold Disk.kind? at h
  unfold Disk.read
  cases hfind : disk.find path with
  | error fault => exact ⟨_, rfl⟩
  | ok e =>
    cases e with
    | file bytes modified => simp [hfind] at h
    | folder entries => exact ⟨_, rfl⟩
    | link target => exact ⟨_, rfl⟩

/-- Assumes: no path on the way that is too long. The settings are had from the bytes of the file,
and are the defaults if it has none. -/
theorem on_load (hgeneral : disk.find (FilePath.below home ".config") ≠ .error .nameTooLong)
    (hfile : disk.find (place disk home) ≠ .error .nameTooLong) :
    (load room home).on disk = match disk.read (place disk home) with
      | .ok bytes => ofBytes room bytes
      | .error _ => .ok {} := by
  rw [load, Lookup.on_bind, on_file hgeneral, Lookup.on_bind, on_stands hfile]
  cases hkind : disk.kind? (place disk home) with
  | none =>
    obtain ⟨error, hread⟩ := read_of_kind_eq_none hkind
    rw [hread]
    rfl
  | some kind =>
    rw [Option.isSome_some, Lookup.on_bind, Lookup.on_bytes]
    cases disk.read (place disk home) <;> rfl

/-- Settings are loaded, as the file stands for them, exactly when no path on the way is too long
and the bytes of the file, if it has any, can be read. -/
theorem loads_iff_readable :
    (∃ settings, (load room home).on disk = .ok settings ∧
        StandsFor disk (place disk home) settings) ↔
      disk.find (FilePath.below home ".config") ≠ .error .nameTooLong ∧
        disk.find (place disk home) ≠ .error .nameTooLong ∧
          ∀ bytes, disk.read (place disk home) = .ok bytes → IsReadable room bytes := by
  by_cases hgeneral : disk.find (FilePath.below home ".config") = .error .nameTooLong
  · simp [load, on_file_of_tooLong hgeneral, hgeneral]
  by_cases hfile : disk.find (place disk home) = .error .nameTooLong
  · simp [load, on_file hgeneral, on_stands_of_tooLong hfile, hfile]
  rw [on_load hgeneral hfile]
  cases hread : disk.read (place disk home) with
  | error error =>
    exact iff_of_true ⟨{}, rfl, standsFor_of_error hread⟩ ⟨hgeneral, hfile, by simp⟩
  | ok bytes =>
    simp only [Except.ok.injEq, forall_eq', ← exists_ofBytes_iff]
    constructor
    · exact fun ⟨settings, hsettings, _⟩ ↦ ⟨hgeneral, hfile, settings, hsettings⟩
    · exact fun ⟨_, _, settings, hsettings⟩ ↦
        ⟨settings, hsettings, standsFor_of_ofBytes hread hsettings⟩

/-- A home folder with a settings file that holds an empty list. -/
def listForSettings : Disk :=
  .folder [(".config", .folder [("vaultfs", .folder [("config.json", .file [0x5B, 0x5D] 0)] 0)] 0)] 0

/-- The file stands for the defaults, but loading from it fails. -/
theorem list_not_loaded :
    StandsFor listForSettings (place listForSettings ".") {} ∧
      (load usualRoom ".").on listForSettings = .error (.noObject "list") ∧
        ¬ ∃ settings, (load usualRoom ".").on listForSettings = .ok settings := by
  have hgeneral : FilePath.below "." ".config" = ".config" := by decide +kernel
  have hplace : place listForSettings "." = ".config/vaultfs/config.json" := by decide +kernel
  have hconfig : listForSettings.find ".config" =
      .ok (.folder [("vaultfs", .folder [("config.json", .file [0x5B, 0x5D] 0)] 0)] 0) := by rfl
  have hfind : listForSettings.find ".config/vaultfs/config.json" = .ok (.file [0x5B, 0x5D] 0) := by
    rfl
  have hread : listForSettings.read ".config/vaultfs/config.json" = .ok [0x5B, 0x5D] := by rfl
  have hdecode : Utf8.decode [0x5B, 0x5D] = .ok "[]" := by decide +kernel
  have hjson : Json.read usualRoom.read "[]" = .ok (.arr []) := by rfl
  have hload : (load usualRoom ".").on listForSettings = .error (.noObject "list") := by
    have hopen : listForSettings.find (FilePath.below "." ".config") ≠ .error .nameTooLong := by
      rw [hgeneral, hconfig]
      simp
    rw [on_load hopen (by simp [hplace, hfind]), hplace, hread]
    simp only [ofBytes, hdecode, ofText, hjson]
    rfl
  refine ⟨?_, hload, by simp [hload]⟩
  rw [hplace]
  refine .defaults fun value hheld ↦ ?_
  rw [holdsJson_iff usualRoom hread hdecode (by simp [hjson]), hjson, Except.ok.injEq] at hheld
  rintro ⟨members, hmembers, -⟩
  rw [← hheld] at hmembers
  cases hmembers

end ContentTree.Settings
