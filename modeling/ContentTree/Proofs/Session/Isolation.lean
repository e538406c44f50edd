import ContentTree.Proofs.Mapping.Entries
import ContentTree.Proofs.Session.Transparency
import ContentTree.Proofs.Storage.Alike
/-!
Nothing outside the root of a mapping has an influence on what the mapping finds. Two file systems
without links that are alike at and below the root, and differ elsewhere as they like, answer every
question that the mapping asks in the same way, and leave the same in caches. So whatever is asked
of a provider, one thing after the other, is answered in the same way over both.
-/

set_option autoImplicit false
set_option relaxedAutoImplicit false

namespace ContentTree

open ContentTree.Text ContentTree.Path ContentTree.Storage ContentTree.Storage.FilePath
open ContentTree.Descriptor ContentTree.Descriptor.Element

/-! ### Caches see faces -/

namespace Cache

variable {first second : Disk} {allowed : Question → Prop} {α : Type} {result : α → Prop}

theorem stamp_eq_face (disk : Disk) (file : String) :
    stamp? disk file = match disk.face file with
      | .ok (.file _ modified) | .ok (.folder _ modified) => some modified
      | _ => none := by
  unfold stamp? Disk.face
  cases disk.find file with
  | error fault => rfl
  | ok e => cases e <;> rfl

theorem readTree_eq_face (disk : Disk) (file : String) :
    readTree? disk file = match disk.face file with
      | .ok (.file bytes _) => Element.ofBytes? bytes
      | _ => none := by
  unfold readTree? Disk.face
  cases disk.find file with
  | error fault => rfl
  | ok e => cases e <;> rfl

theorem Contents.content_congr {file : String} (h : first.face file = second.face file)
    (cache : Contents) : cache.content? first file = cache.content? second file := by
  unfold content?
  rw [stamp_eq_face, stamp_eq_face, readTree_eq_face, readTree_eq_face, h]

/-- Assumes: answers that are the same, for the questions that a lookup asks. The lookup finds the
same and leaves the same in the caches. -/
theorem Pair.run_congr {lookup : Lookup α} (hlookup : lookup.Asks allowed result) (time : Rat)
    (hsame : ∀ question, allowed question → ∀ caches : Pair,
      caches.answer first time question = caches.answer second time question) (caches : Pair) :
    Pair.run first time lookup caches = Pair.run second time lookup caches := by
  induction hlookup generalizing caches with
  | found => rfl
  | ask here _ ih =>
    rw [Pair.run_ask, Pair.run_ask, hsame _ here caches]
    exact ih _ _

end Cache

/-! ### Questions below the root -/

namespace Mapping

variable {mapping : Mapping} {first second : Disk} {file diskPath : String}

/-- Two file systems without links that are alike at and below the root of a mapping. -/
structure SameBelow (mapping : Mapping) (first second : Disk) : Prop where
  root_tidy : mapping.root = tidy mapping.root
  linkless : first.Linkless
  linkless_second : second.Linkless
  alike : Disk.AlikeBelow first second mapping.root

theorem SameBelow.diskFile_eq (h : mapping.SameBelow first second) (diskPath : String) :
    mapping.diskFile diskPath =
      ofParts (anchor mapping.root) (parts mapping.root ++ parts diskPath) :=
  Mapping.diskFile_eq (h.root_tidy ▸ tidy_ne_empty mapping.root) diskPath

theorem isName_of_mem_parts (h : ".." ∉ namesIn diskPath) :
    ∀ name ∈ parts diskPath, IsName name := by
  intro name hname
  obtain ⟨hempty, hdot, hslash⟩ := isPart_of_mem_parts hname
  rw [parts_eq_filter] at hname
  exact ⟨hempty, hdot, fun hdots ↦ h (hdots ▸ List.mem_of_mem_filter hname), hslash⟩

theorem SameBelow.face_eq (h : mapping.SameBelow first second) (hfile : mapping.IsBelow file) :
    first.face file = second.face file := by
  obtain ⟨diskPath, rfl, hbelow⟩ := hfile
  rw [h.diskFile_eq]
  exact h.alike.face_eq h.linkless h.linkless_second h.root_tidy (isName_of_mem_parts hbelow)

theorem SameBelow.kind_eq (h : mapping.SameBelow first second)
    (hbelow : ".." ∉ (namesIn diskPath).dropLast) :
    first.kind? (mapping.diskFile diskPath) = second.kind? (mapping.diskFile diskPath) := by
  by_cases hdots : ".." ∈ namesIn diskPath
  · -- The step up is the last name.
    obtain ⟨front, last, hnames⟩ :=
      (List.eq_nil_or_concat' (namesIn diskPath)).resolve_left (List.ne_nil_of_mem hdots)
    rw [hnames, List.dropLast_concat] at hbelow
    have hlast : last = ".." := by
      rw [hnames] at hdots
      exact (List.mem_singleton.mp ((List.mem_append.mp hdots).resolve_left hbelow)).symm
    have hparts : parts diskPath = front.filter (· ≠ ".") ++ [".."] := by
      rw [parts_eq_filter, hnames, hlast, List.filter_append]
      rfl
    have hfront : ∀ name ∈ front.filter (· ≠ "."), IsName name := by
      intro name hname
      have hpart : IsPart name := isPart_of_mem_parts (hparts ▸ List.mem_append_left _ hname)
      exact ⟨hpart.1, hpart.2.1, fun heq ↦ hbelow (heq ▸ List.mem_of_mem_filter hname), hpart.2.2⟩
    rw [h.diskFile_eq, hparts]
    exact h.alike.kind_dots_eq h.linkless h.linkless_second h.root_tidy hfront
  · rw [Disk.kind_eq_face, Disk.kind_eq_face, h.face_eq ⟨diskPath, rfl, hdots⟩]

theorem SameBelow.kind_metadata_eq (h : mapping.SameBelow first second)
    (hfile : mapping.MayDescribe file) :
    first.kind? (file ++ metadataEnding) = second.kind? (file ++ metadataEnding) := by
  obtain ⟨diskPath, rfl, hbelow, hending⟩ := hfile
  obtain ⟨front, rfl⟩ := finishesWith_iff.mp hending
  obtain ⟨others, last, hends⟩ := exists_parts_append front
  have hparts := hends descriptorEnding (by decide) (by decide)
  have hnames := isName_of_mem_parts hbelow
  rw [hparts] at hnames
  obtain ⟨hothers, hlast⟩ := List.forall_mem_append.mp hnames
  have hlast : IsName (last ++ descriptorEnding) := List.forall_mem_singleton.mp hlast
  have hmetadata : IsName (last ++ descriptorEnding ++ metadataEnding) :=
    isName_append hlast.2.2.2 (by decide) (by decide)
  rw [h.diskFile_eq, hparts, ← List.append_assoc, ofParts_append hlast.1, List.append_assoc,
    Disk.kind_eq_face, Disk.kind_eq_face]
  exact congrArg Disk.kindOf? (h.alike.face_eq h.linkless h.linkless_second h.root_tidy
    (List.forall_mem_append.mpr ⟨hothers, List.forall_mem_singleton.mpr hmetadata⟩))

/-- All questions that a mapping asks have the same answers, whatever is cached. -/
theorem SameBelow.answer_eq (h : mapping.SameBelow first second) {question : Question}
    (hquestion : mapping.Permits question) (time : Rat) (caches : Cache.Pair) :
    caches.answer first time question = caches.answer second time question := by
  cases hquestion with
  | kind below => simp only [Cache.Pair.answer, Cache.Kinds.kind?, h.kind_eq below]
  | metadata below =>
    simp only [Cache.Pair.answer, Cache.Kinds.kind?, h.kind_metadata_eq below]
  | content below =>
    simp only [Cache.Pair.answer, Cache.Contents.content_congr (h.face_eq below.isBelow)]
  | names below => simp only [Cache.Pair.answer, Disk.names_eq_face, h.face_eq below]
  | bytes below => simp only [Cache.Pair.answer, Disk.read_eq_face, h.face_eq below]
  | size below => simp only [Cache.Pair.answer, Disk.size_eq_face, h.face_eq below]

end Mapping

/-! ### Reports -/

/-- What is seen of a resource: its details, with the size of a file and the properties of a node,
and its bytes. -/
structure Account where
  details : Except StorageError (List (String × Detail))
  bytes : Except ReadError (Option (List UInt8))

namespace Resource

/-- The account of a resource as it is on disk now. -/
def account (resource : Resource) : Lookup Account := do
  return ⟨← resource.description, ← resource.bytes?⟩

/-- The accounts of some resources. -/
def accounts : List Resource → Lookup (List Account)
  | [] => pure []
  | resource :: rest => do
    let account ← resource.account
    return account :: (← accounts rest)

end Resource

namespace Inquiry

/-- The resources in the answer to an inquiry. -/
def resources : (inquiry : Inquiry) → inquiry.Answer → List Resource
  | resource _, found? => Option.toList found?
  | children _, found? => Option.getD found? []
  | file _, _ | node _ _, _ | visible _, _ => []

/-- The answer to an inquiry, with accounts of the resources in it. -/
def report (inquiry : Inquiry) (mapping : Mapping) : Lookup (inquiry.Answer × List Account) := do
  let answer ← inquiry.lookup mapping
  return (answer, ← Resource.accounts (inquiry.resources answer))

variable {mapping : Mapping}

/-- What backs the resources in an answer is below the root. -/
theorem asks_lookup (inquiry : Inquiry) : (inquiry.lookup mapping).Asks mapping.Permits
    fun answer ↦ ∀ resource ∈ inquiry.resources answer, mapping.IsBelow resource.backingFile := by
  have hall : ∀ question, mapping.Permits question → mapping.Permits question := fun _ ↦ id
  cases inquiry with
  | resource path =>
    exact (Mapping.asks_resolve path).weaken hall fun found? hfound resource hresource ↦
      hfound resource (Option.mem_toList.mp hresource)
  | children path =>
    refine (Mapping.asks_children path).weaken hall fun found? hfound resource hresource ↦ ?_
    cases found? with
    | none => cases hresource
    | some found => exact hfound found rfl resource hresource
  | file path => exact (Mapping.asks_onDisk path).weaken hall fun _ _ ↦ List.forall_mem_nil _
  | node path subPath? =>
    exact (Mapping.asks_view path subPath?).weaken hall fun _ _ ↦ List.forall_mem_nil _
  | visible path => exact (Mapping.asks_isVisible path).weaken hall fun _ _ ↦ List.forall_mem_nil _

theorem asks_accounts {resources : List Resource}
    (h : ∀ resource ∈ resources, mapping.IsBelow resource.backingFile) :
    (Resource.accounts resources).Asks mapping.Permits fun _ ↦ True := by
  induction resources with
  | nil => exact .pure trivial
  | cons resource rest ih =>
    obtain ⟨hresource, hrest⟩ := List.forall_mem_cons.mp h
    have haccount : resource.account.Asks mapping.Permits fun _ ↦ True :=
      .bind (Mapping.asks_description hresource) fun _ _ ↦
        .bind (Mapping.asks_bytes hresource) fun _ _ ↦ .pure trivial
    exact .bind haccount fun _ _ ↦ .bind (ih hrest) fun _ _ ↦ .pure trivial

theorem asks_report (inquiry : Inquiry) (mapping : Mapping) :
    (inquiry.report mapping).Asks mapping.Permits fun _ ↦ True :=
  .bind inquiry.asks_lookup fun _ hanswer ↦ .bind (asks_accounts hanswer) fun _ _ ↦ .pure trivial

end Inquiry

/-! ### One inquiry after the other -/

namespace Provider

variable {first second : Disk} {time : Rat} {settings : Settings} {provider other : Provider}

/-- The reports on some inquiries, each made at its time, over a file system that stays as it is. -/
def reports (disk : Disk) : List (Rat × Inquiry) → Provider →
    List (Σ inquiry : Inquiry, inquiry.Answer × List Account)
  | [], _ => []
  | (time, inquiry) :: rest, provider =>
    let (report, after) := provider.run disk time (inquiry.report provider.mapping)
    ⟨inquiry, report⟩ :: reports disk rest after

theorem mapping_run {α : Type} (provider : Provider) (disk : Disk) (time : Rat)
    (lookup : Lookup α) : (provider.run disk time lookup).2.mapping = provider.mapping := by
  unfold run withCaches
  cases provider.replacement? <;> rfl

theorem run_report_eq (h : provider.mapping.SameBelow first second) (time : Rat)
    (inquiry : Inquiry) :
    provider.run first time (inquiry.report provider.mapping) =
      provider.run second time (inquiry.report provider.mapping) := by
  have hruns := Cache.Pair.run_congr (inquiry.asks_report provider.mapping) time
    (fun question hquestion ↦ h.answer_eq hquestion time) provider.caches
  rw [run, run, hruns]

theorem reports_eq (h : provider.mapping.SameBelow first second) (calls : List (Rat × Inquiry)) :
    provider.reports first calls = provider.reports second calls := by
  induction calls generalizing provider with
  | nil => rfl
  | cons call rest ih =>
    obtain ⟨time, inquiry⟩ := call
    have hafter : (provider.run second time (inquiry.report provider.mapping)).2.mapping.SameBelow
        first second := by
      rw [mapping_run]
      exact h
    simp only [reports, run_report_eq h time inquiry, ih hafter]

/-- Assumes: two file systems without links that are alike at and below the root of a provider, which
is opened over each of them and comes to the same filter. Inquiries made one after the other have
the same answers over both, and what is found has the same details and bytes. -/
theorem reports_isolated (hfirst : first.Linkless) (hsecond : second.Linkless)
    (halike : Disk.AlikeBelow first second (tidy settings.root))
    (hopen : openAt first time settings = .ok provider)
    (hother : openAt second time settings = .ok other)
    (hfilter : provider.mapping.filter? = other.mapping.filter?) (calls : List (Rat × Inquiry)) :
    provider.reports first calls = other.reports second calls := by
  obtain ⟨mapping, hmapping, rfl⟩ := exists_mapping_of_openAt hopen
  obtain ⟨mapping', hmapping', rfl⟩ := exists_mapping_of_openAt hother
  have hroot : mapping.root = tidy settings.root := Mapping.root_of_openAt hmapping
  have hsame : mapping' = mapping := by
    cases mapping
    cases mapping'
    rw [Mapping.mk.injEq]
    exact ⟨(Mapping.root_of_openAt hmapping').trans hroot.symm, hfilter.symm⟩
  have hbelow : mapping.SameBelow first second := by
    refine ⟨?_, hfirst, hsecond, hroot ▸ halike⟩
    rw [hroot, tidy_tidy]
  rw [hsame]
  exact reports_eq hbelow calls

/-! ### A file next to the root -/

/-- A folder with a file and a descriptor. -/
def siteFolder : Entry :=
  .folder [("a.txt", .file [104, 105] 1), ("page.xml", .file (Utf8.encode "<r x='1'/>") 1)] 0

/-- The folder alone. -/
def siteDisk : Disk := .folder [("jcr_root", siteFolder)] 0

/-- The folder with something next to it. -/
def crowdedDisk : Disk :=
  .folder [("secret.txt", .file [115] 2), ("jcr_root", siteFolder), ("outside", siteFolder)] 0

theorem linkless_siteFolder : siteFolder.Linkless :=
  .folder (by simpa using ⟨.file _ _, .file _ _⟩)

/-- Paths that reach for what is outside have the same answers whether it is there or not. -/
theorem secret_unseen :
    siteDisk.Linkless ∧ crowdedDisk.Linkless ∧ Disk.AlikeBelow siteDisk crowdedDisk "jcr_root" ∧
      Provider.openAt siteDisk 1000 ⟨"jcr_root", none, 10, 1000⟩ = .ok Session.freshProvider ∧
        Provider.openAt crowdedDisk 1000 ⟨"jcr_root", none, 10, 1000⟩ = .ok Session.freshProvider ∧
          Session.freshProvider.reports siteDisk [(1000, .resource "/../secret.txt"),
              (1000, .file "/...dir"), (1001, .children "/"), (1002, .resource "/page")] =
            Session.freshProvider.reports crowdedDisk [(1000, .resource "/../secret.txt"),
              (1000, .file "/...dir"), (1001, .children "/"), (1002, .resource "/page")] := by
  have hsite : siteDisk.Linkless := .folder (List.forall_mem_singleton.mpr linkless_siteFolder)
  have hcrowded : crowdedDisk.Linkless :=
    .folder (by simpa using ⟨.file _ _, linkless_siteFolder⟩)
  have halike : Disk.AlikeBelow siteDisk crowdedDisk "jcr_root" :=
    ⟨siteFolder, siteFolder, rfl, rfl, rfl, .refl siteFolder⟩
  have hroot : tidy "jcr_root" = "jcr_root" := by decide
  have hopen : openAt siteDisk 1000 ⟨"jcr_root", none, 10, 1000⟩ = .ok Session.freshProvider := rfl
  have hother : openAt crowdedDisk 1000 ⟨"jcr_root", none, 10, 1000⟩ =
      .ok Session.freshProvider := rfl
  exact ⟨hsite, hcrowded, halike, hopen, hother,
    reports_isolated hsite hcrowded (hroot ▸ halike) hopen hother rfl _⟩

end Provider

end ContentTree
