import ContentTree.Proofs.Json.Reader
import ContentTree.Settings.Basic
/-!
Which JSON values describe settings. A section is read field by field into a record; a record that
knows its fields gets the values of the section, and keeps its defaults elsewhere. Main statement: a
value in which names are not repeated is read as settings exactly if it is an object with proper
sections, and then each field is the one in its section, or its default.
-/

set_option autoImplicit false
set_option relaxedAutoImplicit false

namespace ContentTree.Settings

open ContentTree.Json

/-! ### Sections -/

/-- A section that a value may have: none, or an object with known fields. -/
def IsSection (fields : List String) : Option Value → Prop
  | none => True
  | some (.obj members) => ∀ member ∈ members, member.1 ∈ fields
  | some _ => False

/-- The field of a section, or its default. -/
def fieldOf (section? : Option Value) (field : String) (default : Value) : Value :=
  (section?.bind (·.member? field)).getD default

/-- Records with the given fields: these and no others can be set, setting one leaves the others,
and they are all there is to a record. The word that is taken already is none of them. -/
structure IsRecord {α : Type} (fields : List String) (set? : α → String → Value → Option α)
    (get : α → String → Value) : Prop where
  known : ∀ given field value, (set? given field value).isSome = true ↔ field ∈ fields
  get_set : ∀ {given next field value}, set? given field value = some next →
    ∀ name ∈ fields, get next name = if name = field then value else get given name
  ext : ∀ {first second}, (∀ name ∈ fields, get first name = get second name) → first = second
  noSelf : "self" ∉ fields

section Records

variable {α : Type} {owner name : String} {fields : List String}
  {set? : α → String → Value → Option α} {get : α → String → Value} {given result default : α}
  {members : List (String × Value)} {section? : Option Value}

/-- A section is read exactly when all its fields are known. -/
theorem readSection_isOk_iff (h : IsRecord fields set? get) :
    (∃ result, readSection owner set? given members = .ok result) ↔
      ∀ member ∈ members, member.1 ∈ fields := by
  induction members generalizing given with
  | nil => simp [readSection]
  | cons first rest ih =>
    rw [readSection, List.forall_mem_cons]
    split
    · next hself =>
      have hunknown : first.1 ∉ fields := hself ▸ h.noSelf
      simp [hunknown]
    · cases hset : set? given first.1 first.2 with
      | none =>
        have hunknown : first.1 ∉ fields := by
          rw [← h.known given first.1 first.2, hset]
          simp
        simp [hunknown]
      | some next =>
        have hknown : first.1 ∈ fields := by
          rw [← h.known given first.1 first.2, hset]
          rfl
        simp only [ih, hknown, true_and]

/-- Assumes: members under different names. Each field of the section is the one given, or is left
as it was. -/
theorem get_readSection (h : IsRecord fields set? get) (hnames : (members.map (·.1)).Nodup)
    (hread : readSection owner set? given members = .ok result) (hname : name ∈ fields) :
    get result name = (members.lookup name).getD (get given name) := by
  induction members generalizing given with
  | nil =>
    rw [readSection, Except.ok.injEq] at hread
    rw [hread, List.lookup_nil, Option.getD_none]
  | cons first rest ih =>
    obtain ⟨field, value⟩ := first
    obtain ⟨hnew, hrest⟩ := List.nodup_cons.mp hnames
    rw [readSection] at hread
    split at hread
    · cases hread
    · cases hset : set? given field value with
      | none => simp [hset] at hread
      | some next =>
        simp only [hset] at hread
        rw [ih hrest hread, h.get_set hset name hname, List.lookup_cons]
        by_cases hsame : name = field
        · have hnone : rest.lookup name = none := by
            rw [List.lookup_eq_none_iff]
            intro entry hentry
            have hne : name ≠ entry.1 := fun heq ↦
              hnew (List.mem_map.mpr ⟨entry, hentry, heq.symm.trans hsame⟩)
            simpa using hne
          simp [hsame, hsame ▸ hnone]
        · simp [hsame, beq_eq_false_iff_ne.mpr hsame]

/-- Assumes: a member that has its own members under different names, and a record with the fields
of the section. The member is read exactly as that record, and only if it is a proper section. -/
theorem readMember_eq_ok (h : IsRecord fields set? get)
    (hdistinct : ∀ value ∈ section?, value.HasDistinctNames)
    (hgiven : ∀ name ∈ fields, get given name = fieldOf section? name (get default name)) :
    readMember owner set? default section? = .ok result ↔
      IsSection fields section? ∧ result = given := by
  cases section? with
  | none =>
    have hdefault : default = given := h.ext fun name hname ↦ (hgiven name hname).symm
    rw [readMember, Except.ok.injEq, hdefault]
    exact ⟨fun heq ↦ ⟨trivial, heq.symm⟩, fun heq ↦ heq.2.symm⟩
  | some value =>
    cases value with
    | obj members =>
      rw [readMember, IsSection]
      have hnames : (members.map (·.1)).Nodup := by
        cases hdistinct _ rfl with
        | obj names below => exact names
      have hsame : ∀ other, readSection owner set? default members = .ok other → other = given :=
        fun other hread ↦ h.ext fun name hname ↦ by
          rw [get_readSection h hnames hread hname, hgiven name hname]
          rfl
      rw [← readSection_isOk_iff h]
      constructor
      · exact fun hread ↦ ⟨⟨result, hread⟩, hsame result hread⟩
      · rintro ⟨⟨other, hread⟩, rfl⟩
        rw [hread, hsame other hread]
    | _ => simp [readMember, IsSection]

theorem readSection_ne_noObject (kind : String) :
    readSection owner set? given members ≠ .error (.noObject kind) := by
  induction members generalizing given with
  | nil => simp [readSection]
  | cons first rest ih =>
    rw [readSection]
    split
    · simp
    · split
      · exact ih
      · simp

theorem readMember_ne_noObject (kind : String) :
    readMember owner set? default section? ≠ .error (.noObject kind) := by
  cases section? with
  | none => simp [readMember]
  | some value =>
    cases value with
    | obj members => exact readSection_ne_noObject kind
    | _ => simp [readMember]

end Records

/-! ### The two sections -/

/-- The fields of the section for providers. -/
def providerFields : List String :=
  ["provider_root", "filter_xml", "stat_cache_ttl", "content_cache_size"]

/-- The fields of the section for the command line. -/
def commandFields : List String := ["verbose", "color"]

/-- The value of a field of the section for providers. -/
def ForProviders.get (given : ForProviders) : String → Value
  | "provider_root" => given.root
  | "filter_xml" => given.filterFile
  | "stat_cache_ttl" => given.timeToLive
  | "content_cache_size" => given.capacity
  | _ => .null

/-- The value of a field of the section for the command line. -/
def ForCommands.get (given : ForCommands) : String → Value
  | "verbose" => given.verbose
  | "color" => given.color
  | _ => .null

theorem isRecord_forProviders : IsRecord providerFields ForProviders.set? ForProviders.get where
  known given field value := by
    unfold ForProviders.set? providerFields
    split <;> simp_all
  get_set := by
    intro given next field value hset name hname
    simp only [providerFields, List.mem_cons, List.not_mem_nil, or_false] at hname
    unfold ForProviders.set? at hset
    split at hset
    all_goals cases hset
    all_goals rcases hname with rfl | rfl | rfl | rfl <;> simp [ForProviders.get]
  ext := by
    intro first second h
    simp only [providerFields, List.forall_mem_cons, ForProviders.get] at h
    cases first
    cases second
    simp_all
  noSelf := by decide

theorem isRecord_forCommands : IsRecord commandFields ForCommands.set? ForCommands.get where
  known given field value := by
    unfold ForCommands.set? commandFields
    split <;> simp_all
  get_set := by
    intro given next field value hset name hname
    simp only [commandFields, List.mem_cons, List.not_mem_nil, or_false] at hname
    unfold ForCommands.set? at hset
    split at hset
    all_goals cases hset
    all_goals rcases hname with rfl | rfl <;> simp [ForCommands.get]
  ext := by
    intro first second h
    simp only [commandFields, List.forall_mem_cons, ForCommands.get] at h
    cases first
    cases second
    simp_all
  noSelf := by decide

/-! ### What a value describes -/

variable {value : Value} {section? : Option Value} {settings : Settings}

/-- Whether a value describes settings: an object with proper sections. -/
def Describes (value : Value) : Prop :=
  ∃ members, value = .obj members ∧ IsSection providerFields (members.lookup "provider") ∧
    IsSection commandFields (members.lookup "cli")

/-- The record with the fields of a section for providers, or their defaults. -/
def providersOf (section? : Option Value) : ForProviders where
  root := fieldOf section? "provider_root" .null
  filterFile := fieldOf section? "filter_xml" .null
  timeToLive := fieldOf section? "stat_cache_ttl" (.float (.ofRatio false 10 1))
  capacity := fieldOf section? "content_cache_size" (.int 1000)

/-- The record with the fields of a section for the command line, or their defaults. -/
def commandsOf (section? : Option Value) : ForCommands where
  verbose := fieldOf section? "verbose" (.bool false)
  color := fieldOf section? "color" (.bool true)

/-- The settings that a value describes. -/
def described (value : Value) : Settings :=
  ⟨providersOf (value.member? "provider"), commandsOf (value.member? "cli")⟩

theorem readMember_providers {providers : ForProviders}
    (h : ∀ value ∈ section?, value.HasDistinctNames) :
    readMember "ProviderConfig" ForProviders.set? {} section? = .ok providers ↔
      IsSection providerFields section? ∧ providers = providersOf section? :=
  readMember_eq_ok isRecord_forProviders h fun name hname ↦ by
    simp only [providerFields, List.mem_cons, List.not_mem_nil, or_false] at hname
    rcases hname with rfl | rfl | rfl | rfl <;> rfl

theorem readMember_commands {commands : ForCommands}
    (h : ∀ value ∈ section?, value.HasDistinctNames) :
    readMember "CLIConfig" ForCommands.set? {} section? = .ok commands ↔
      IsSection commandFields section? ∧ commands = commandsOf section? :=
  readMember_eq_ok isRecord_forCommands h fun name hname ↦ by
    simp only [commandFields, List.mem_cons, List.not_mem_nil, or_false] at hname
    rcases hname with rfl | rfl <;> rfl

theorem distinct_of_member {name : String} (h : value.HasDistinctNames) :
    ∀ inner ∈ value.member? name, inner.HasDistinctNames := by
  intro inner hinner
  cases h with
  | obj names below =>
    obtain ⟨front, back, hmembers, -⟩ := List.lookup_eq_some_iff.mp hinner
    exact below (name, inner) (by simp [hmembers])
  | _ => cases hinner

/-- Assumes: a value in which names are not repeated. It is read exactly if it describes settings,
and as those. -/
theorem ofJson_eq_ok (h : value.HasDistinctNames) :
    ofJson value = .ok settings ↔ Describes value ∧ settings = described value := by
  cases value with
  | obj members =>
    have hproviders : ∀ value ∈ members.lookup "provider", value.HasDistinctNames :=
      distinct_of_member h
    have hcommands : ∀ value ∈ members.lookup "cli", value.HasDistinctNames := distinct_of_member h
    rw [ofJson]
    constructor
    · intro hread
      obtain ⟨providers, hfirst, hread⟩ := bind_eq_ok.mp hread
      obtain ⟨commands, hsecond, hread⟩ := bind_eq_ok.mp hread
      obtain ⟨hfirstSection, rfl⟩ := (readMember_providers hproviders).mp hfirst
      obtain ⟨hsecondSection, rfl⟩ := (readMember_commands hcommands).mp hsecond
      exact ⟨⟨members, rfl, hfirstSection, hsecondSection⟩, (Except.ok.inj hread).symm⟩
    · rintro ⟨⟨others, hothers, hfirst, hsecond⟩, rfl⟩
      cases hothers
      exact bind_eq_ok.mpr ⟨_, (readMember_providers hproviders).mpr ⟨hfirst, rfl⟩,
        bind_eq_ok.mpr ⟨_, (readMember_commands hcommands).mpr ⟨hsecond, rfl⟩, rfl⟩⟩
  | _ => simp [ofJson, Describes]

/-- A section that is no object is another fault than a value that is none. -/
theorem ofJson_obj_ne_noObject (members : List (String × Value)) (kind : String) :
    ofJson (.obj members) ≠ .error (.noObject kind) := by
  rw [ofJson]
  cases hfirst : readMember "ProviderConfig" ForProviders.set? {} (members.lookup "provider") with
  | error fault =>
    rintro ⟨⟩
    exact readMember_ne_noObject kind hfirst
  | ok providers =>
    cases hsecond : readMember "CLIConfig" ForCommands.set? {} (members.lookup "cli") with
    | error fault =>
      rintro ⟨⟩
      exact readMember_ne_noObject kind hsecond
    | ok commands => exact nofun

end ContentTree.Settings
