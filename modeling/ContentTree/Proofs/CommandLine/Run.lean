import ContentTree.CommandLine.Run
import ContentTree.Proofs.CommandLine.Report
import ContentTree.Proofs.Mapping.Listing
import ContentTree.Proofs.Provider.Preorder
import ContentTree.Proofs.Settings.Load
/-!
How runs of commands end. With valid settings and a root folder that is there, a run is to end with
exit code zero if something is found at its path, and otherwise with exit code one and a line that
says why, and never with a fault. It does so just when the filter can be read, every text that the
command prints without escaping it can be shown, and no lone surrogate is in what it prints.
-/

set_option autoImplicit false
set_option relaxedAutoImplicit false

namespace ContentTree

open ContentTree.Storage ContentTree.Descriptor ContentTree.Terminal

/-! ### Sizes on disk -/

theorem Storage.Disk.exists_size_of_kind {disk : Disk} {file : String}
    (h : disk.kind? file = some .file) : ∃ size, disk.size file = .ok size := by
  unfold Disk.kind? at h
  unfold Disk.size
  split at h
  · next bytes modified hfind => exact ⟨bytes.length, by rw [hfind]⟩
  · cases h
  · cases h

variable {mapping : Mapping} {disk : Disk} {path : String} {resource : Resource}

/-- The file of a resource is there, so it has a size. -/
theorem Mapping.exists_size_of_resolve (h : (mapping.resolve path).on disk = some resource) :
    ∃ size?, resource.size?.on disk = .ok size? := by
  rcases (resolve_eq_some.mp h).2 with
    ⟨file, hfile, rfl⟩ | ⟨-, ⟨view, -, rfl⟩ | ⟨-, folder, -, rfl⟩⟩
  · obtain ⟨size, hsize⟩ := Disk.exists_size_of_kind (onDisk_eq_some.mp hfile).2.2.2.1
    have hasked : (Lookup.size file).on disk = disk.size file := rfl
    refine ⟨some size, ?_⟩
    rw [Resource.size?, Lookup.on_bind, hasked, hsize]
    rfl
  · exact ⟨none, rfl⟩
  · exact ⟨none, rfl⟩

theorem Mapping.exists_description_of_resolve (h : (mapping.resolve path).on disk = some resource) :
    ∃ details, resource.description.on disk = .ok details := by
  cases resource with
  | file path file =>
    obtain ⟨size?, hsize⟩ := exists_size_of_resolve h
    have hinfo : (Resource.file path file).description.on disk =
        ((Resource.file path file).size?.on disk).map fun size ↦
          (Resource.file path file).place ++ [("size", (size.map Detail.count).getD .absent)] := by
      rw [Resource.description, Resource.info, Lookup.on_bind]
      rfl
      all_goals exact fun _ heq ↦ Resource.noConfusion heq
    rw [hinfo, hsize]
    exact ⟨_, rfl⟩
  | folder => exact ⟨_, CommandLine.description_folder⟩
  | node => exact ⟨_, CommandLine.description_node⟩

/-! ### Lookups of any path -/

theorem Mapping.exists_resolve (h : (mapping.resource? path).on disk = .ok (some resource)) :
    ∃ place, (mapping.resolve place).on disk = some resource := by
  unfold resource? at h
  split at h
  · cases h
  · next place _ =>
    rw [Lookup.on_bind, Lookup.on_pure] at h
    exact ⟨place, Except.ok.inj h⟩

/-- There is a listing where there is a resource. -/
theorem Mapping.exists_listing_iff : (∃ children, (mapping.listing path).on disk = .ok children) ↔
    ∃ resource, (mapping.resource? path).on disk = .ok (some resource) := by
  unfold listing resource?
  cases Path.normalize path with
  | error error => simp
  | ok place => cases h : (mapping.resolve place).on disk <;> simp [h]

theorem Mapping.exists_size_of_listing {children : List Resource}
    (h : (mapping.listing path).on disk = .ok children) :
    ∀ child ∈ children, ∃ size?, child.size?.on disk = .ok size? := by
  unfold listing at h
  split at h
  · cases h
  · next place _ =>
    rw [Lookup.on_bind] at h
    cases hresolve : (mapping.resolve place).on disk with
    | none =>
      rw [hresolve] at h
      cases h
    | some start =>
      simp only [hresolve, Lookup.on_bind, Lookup.on_pure, Except.ok.injEq] at h
      intro child hchild
      rw [← h] at hchild
      obtain ⟨-, childPath, -, hfound⟩ := mem_children.mp hchild
      exact exists_size_of_resolve hfound

/-- A walk has visits where there is a listing. -/
theorem Mapping.exists_walk (h : ∃ children, (mapping.listing path).on disk = .ok children)
    (limit? : Option Int) (count : Nat) :
    ∃ visits, (mapping.walk path limit? count).on disk = .ok visits := by
  obtain ⟨start, hstart⟩ := exists_listing_iff.mp h
  exact ⟨_, Walk.on_walk_preorder hstart le_rfl⟩

/-- Where there is no listing a walk has the same error. -/
theorem Mapping.walk_of_listing {error : LookupError}
    (h : (mapping.listing path).on disk = .error error) (limit? : Option Int) (count : Nat) :
    (mapping.walk path limit? (count + 1)).on disk = .error error := by
  rw [walk, Walk.take, Lookup.on_bind, Walk.step, Lookup.on_bind]
  unfold listing at h
  unfold resource?
  cases hpath : Path.normalize path with
  | error refused => simpa [hpath] using h
  | ok place =>
    cases hresolve : (mapping.resolve place).on disk with
    | none => simpa [hpath, hresolve, Except.toOption] using h
    | some start => simp [hpath, hresolve] at h

theorem Lookup.on_refusing {α : Type} {refused : Question → Bool}
    (hnone : ∀ question, refused question = false) (lookup : Lookup α) :
    (lookup.refusing refused).on disk = some (lookup.on disk) := by
  induction lookup with
  | found value => rfl
  | ask question next ih =>
    rw [refusing, hnone]
    exact ih (disk.answer question)

namespace CommandLine

/-! ### Settings -/

/-- Whether settings are of the right types: those for the caches are numbers, and the filter file is
a text or nothing. -/
structure IsValid (settings : Settings) : Prop where
  timeToLive : isNumber settings.providers.timeToLive = true
  capacity : isNumber settings.providers.capacity = true
  filterFile : ∃ file?, pathSetting? settings.providers.filterFile = .ok file?

variable {runtime : Runtime} {render : Renderer} {settings : Settings} {target : Target}
  {root : String}

theorem IsValid.isRefused_eq (h : IsValid settings) (question : Question) :
    isRefused settings question = false := by
  cases question with
  | kind path => rw [isRefused, h.timeToLive, Bool.not_true]
  | content file => rw [isRefused, h.capacity, Bool.not_true]
  | names | bytes | size | holder => rfl

/-- Without a filter file that is given or set, there is the one beside the root folder, if any. -/
theorem on_filterOf_default (htarget : target.filterFile? = none)
    (hsetting : pathSetting? settings.providers.filterFile = .ok none) :
    (filterOf settings target root).on disk = .ok ((defaultFilter? root).on disk) := by
  unfold filterOf
  rw [htarget, hsetting, Lookup.on_bind, Lookup.on_pure]

theorem IsValid.exists_filterOf (h : IsValid settings) (target : Target) (root : String) :
    ∃ file?, (filterOf settings target root).on disk = .ok file? := by
  obtain ⟨setting?, hsetting⟩ := h.filterFile
  cases hfile : target.filterFile? with
  | some file => exact ⟨some file, by simp [filterOf, hfile]⟩
  | none =>
    cases setting? with
    | some file => exact ⟨some file, by simp [filterOf, hfile, hsetting]⟩
    | none => exact ⟨_, on_filterOf_default hfile hsetting⟩

/-- With a root folder that is there, a mapping is opened, unless its filter cannot be read. -/
theorem on_mappingOf {file? : Option String} (hroot : target.root? = some root)
    (hfolder : disk.kind? (FilePath.tidy root) = some .folder)
    (hfile : (filterOf settings target (FilePath.tidy root)).on disk = .ok file?) :
    (mappingOf runtime settings target).on disk =
      ((Mapping.openAt runtime.compile (FilePath.tidy root) file?).on disk).mapError fun error ↦
        .fault (.filter error) := by
  have hrootOf : (rootOf runtime.render settings target).on disk = .ok (FilePath.tidy root) := by
    simp [rootOf, hroot, hfolder]
  simp only [mappingOf, Lookup.on_bind, hrootOf, hfile, Lookup.on_pure]

/-! ### Endings -/

/-- Whether an ending is as it should be: a report if something is found, otherwise a line that says
why there is none. -/
def Ending.IsClean (render : Renderer) (found : Prop) : Ending → Prop
  | .done _ => found
  | .refused output => ¬ found ∧ ∃ reason line, render (errorMarkup reason) = .ok line ∧
      output = printed line
  | .fault _ => False
  | .usage => False

/-- Whether a run ended as it should, after it printed a text: with exit code zero if something is
found, otherwise with exit code one and a line that says why there is none, and without a fault. -/
structure Outcome.EndsWell (render : Renderer) (before : String) (found : Prop)
    (outcome : Outcome) : Prop where
  noFault : outcome.fault? = none
  done : found → outcome.exit = 0
  refused : ¬ found → outcome.exit = 1 ∧ ∃ reason line,
    render (errorMarkup reason) = .ok line ∧ outcome.output? = some (before ++ printed line)

variable {before : String} {found : Prop} {ending : Ending}

/-- The text of an ending, if it has one. -/
def Ending.text? : Ending → Option String
  | .done output | .refused output => some output
  | .fault _ | .usage => none

/-- Whether the text of an ending holds no lone surrogate. -/
def Ending.IsEncodable (ending : Ending) : Prop := ending.text?.all isEncodable = true

instance : DecidablePred Ending.IsEncodable := fun ending =>
  inferInstanceAs (Decidable (ending.text?.all isEncodable = true))

theorem Ending.isEncodable_done {output : String} :
    (Ending.done output).IsEncodable ↔ isEncodable output = true := Iff.rfl

theorem Ending.encoded_eq (h : ending.IsEncodable) : ending.encoded = ending := by
  cases ending with
  | done output => exact if_pos h
  | refused output => exact if_pos h
  | fault | usage => rfl

theorem Ending.encoded_of_not (h : ¬ ending.IsEncodable) :
    ending.encoded = .fault .unencodable := by
  cases ending with
  | done output => exact if_neg h
  | refused output => exact if_neg h
  | fault | usage => exact absurd rfl h

theorem endsWell_outcome_iff :
    (ending.outcome before).EndsWell render before found ↔ ending.IsClean render found := by
  cases ending with
  | done output =>
    constructor
    · intro h
      by_contra hfound
      exact absurd (h.refused hfound).1 Nat.zero_ne_one
    · exact fun hfound ↦ ⟨rfl, fun _ ↦ rfl, fun hnot ↦ absurd hfound hnot⟩
  | refused output =>
    constructor
    · intro h
      have hfound : ¬ found := fun hfound ↦ absurd (h.done hfound) Nat.one_ne_zero
      obtain ⟨-, reason, line, hline, houtput⟩ := h.refused hfound
      have hsame : before ++ output = before ++ printed line := Option.some.inj houtput
      have hchars : before.toList ++ output.toList = before.toList ++ (printed line).toList := by
        rw [← String.toList_append, hsame, String.toList_append]
      exact ⟨hfound, reason, line, hline, String.toList_injective (List.append_cancel_left hchars)⟩
    · rintro ⟨hfound, reason, line, hline, rfl⟩
      exact ⟨rfl, fun h ↦ absurd h hfound, fun _ ↦ ⟨rfl, reason, line, hline, rfl⟩⟩
  | fault cause => exact ⟨fun h ↦ (by cases h.noFault), False.elim⟩
  | usage =>
    constructor
    · intro h
      by_cases hfound : found
      · exact absurd (h.done hfound) (Nat.succ_ne_zero 1)
      · exact absurd (h.refused hfound).1 (Nat.succ_ne_self 1)
    · exact False.elim

theorem isClean_refusal {reason : String} :
    (refusal render reason).IsClean render found ↔
      ¬ found ∧ CanShow render (errorMarkup reason) := by
  unfold refusal CanShow
  cases hline : render (errorMarkup reason) with
  | error error => simp [Ending.IsClean, Except.isOk, Except.toBool]
  | ok line =>
    simp only [Ending.IsClean, Except.isOk, Except.toBool, and_true, and_iff_left_iff_imp]
    exact fun _ ↦ ⟨reason, line, hline, rfl⟩

theorem isClean_reported {report : Except ReportError String} :
    (reported report).IsClean render found ↔ found ∧ report.isOk = true := by
  cases report <;> simp [reported, Ending.IsClean, Except.isOk, Except.toBool]

theorem isClean_encoded :
    ending.encoded.IsClean render found ↔ ending.IsClean render found ∧ ending.IsEncodable := by
  by_cases h : ending.IsEncodable
  · rw [Ending.encoded_eq h]
    exact (and_iff_left h).symm
  · rw [Ending.encoded_of_not h]
    exact iff_of_false id fun hclean ↦ h hclean.2

/-! ### Commands -/

/-- Whether something is found at the path of a target. -/
def Target.Resolves (runtime : Runtime) (settings : Settings) (disk : Disk)
    (target : Target) : Prop :=
  ∃ mapping resource, (mappingOf runtime settings target).on disk = .ok mapping ∧
    (mapping.resource? target.path).on disk = .ok (some resource)

/-- The target of a command that looks at a path and, if it shows one resource, knows the format. -/
def Command.target? : Command → Option Target
  | .get target format => if format ∈ ["table", "yaml", "json"] then some target else none
  | .list target | .tree target _ => some target
  | .settings => none

/-- Whether a resource can be shown in a format. -/
def FitsFormat (render : Renderer) (format : String) (resource : Resource) : Prop :=
  if format = "table" then FitsTable render resource
  else if format = "yaml" then FitsYaml resource
  else True

instance (render : Renderer) (format : String) :
    DecidablePred (FitsFormat render format) := fun resource =>
  inferInstanceAs (Decidable (if format = "table" then FitsTable render resource
    else if format = "yaml" then FitsYaml resource else True))

/-- Whether what is found at a path can be shown in a format, or the line that nothing is there. -/
def FitsFound (render : Renderer) (path format : String) : Option Resource → Prop
  | none => CanShow render (errorMarkup ("no resource at " ++ path))
  | some resource => FitsFormat render format resource

instance (render : Renderer) (path format : String) : DecidablePred (FitsFound render path format)
  | none => inferInstanceAs (Decidable (CanShow render (errorMarkup ("no resource at " ++ path))))
  | some resource => inferInstanceAs (Decidable (FitsFormat render format resource))

/-- Whether children can be listed below the path that was given. -/
def FitChildren (render : Renderer) (path : String) (children : List Resource) : Prop :=
  children = [] ∨ CanShow render path ∧ ∀ child ∈ children, FitsList render child

instance (render : Renderer) (path : String) :
    DecidablePred (FitChildren render path) := fun children =>
  inferInstanceAs (Decidable (children = [] ∨
    CanShow render path ∧ ∀ child ∈ children, FitsList render child))

/-- Whether the value of a lookup can be printed, or the line that says why there is none. -/
def FitsResult (render : Renderer) {α : Type} (fits : α → Prop) : Except LookupError α → Prop
  | .error error => CanShow render (errorMarkup error.message)
  | .ok value => fits value

instance (render : Renderer) {α : Type} (fits : α → Prop) [DecidablePred fits] :
    DecidablePred (FitsResult render fits)
  | .error error => inferInstanceAs (Decidable (CanShow render (errorMarkup error.message)))
  | .ok value => inferInstanceAs (Decidable (fits value))

/-- Whether all that a command prints without escaping it can be printed: the reason why it finds
nothing, the texts in a table, and the values that need a form of their own. Nothing else is
unescaped in a tree. -/
def Command.Fits (render : Renderer) (disk : Disk) (mapping : Mapping) : Command → Prop
  | .get target format =>
    FitsResult render (FitsFound render target.path format) ((mapping.resource? target.path).on disk)
  | .list target =>
    FitsResult render (FitChildren render target.path) ((mapping.listing target.path).on disk)
  | .tree target _ => FitsResult render (fun _ => True) ((mapping.listing target.path).on disk)
  | .settings => True

instance (render : Renderer) (disk : Disk) (mapping : Mapping) :
    DecidablePred (Command.Fits render disk mapping)
  | .get target format =>
    inferInstanceAs (Decidable (FitsResult render (FitsFound render target.path format)
      ((mapping.resource? target.path).on disk)))
  | .list target =>
    inferInstanceAs (Decidable (FitsResult render (FitChildren render target.path)
      ((mapping.listing target.path).on disk)))
  | .tree target _ =>
    inferInstanceAs (Decidable (FitsResult render (fun _ => True)
      ((mapping.listing target.path).on disk)))
  | .settings => instDecidableTrue

/-- With valid settings, what becomes of the value of a lookup on a mapping. -/
theorem on_onMapping {α : Type} {lookup : Mapping → Lookup (Except LookupError α)}
    {finish : α → Lookup Ending} (hvalid : IsValid settings)
    (hmapping : (mappingOf runtime settings target).on disk = .ok mapping) :
    (onMapping runtime settings target lookup finish).on disk =
      match (lookup mapping).on disk with
      | .error error => refusal runtime.render error.message
      | .ok value => (finish value).on disk := by
  have hrefusing : ((lookup mapping).refusing (isRefused settings)).on disk =
      some ((lookup mapping).on disk) := Lookup.on_refusing hvalid.isRefused_eq _
  simp only [onMapping, Lookup.on_bind, hmapping, hrefusing]
  cases (lookup mapping).on disk <;> rfl

theorem on_onMapping_of_error {α : Type} {lookup : Mapping → Lookup (Except LookupError α)}
    {finish : α → Lookup Ending} (h : (mappingOf runtime settings target).on disk = .error ending) :
    (onMapping runtime settings target lookup finish).on disk = ending := by
  simp only [onMapping, Lookup.on_bind, h, Lookup.on_pure]

theorem resolves_iff (hmapping : (mappingOf runtime settings target).on disk = .ok mapping) :
    target.Resolves runtime settings disk ↔
      ∃ resource, (mapping.resource? target.path).on disk = .ok (some resource) := by
  constructor
  · rintro ⟨other, resource, hother, h⟩
    obtain rfl : mapping = other := Except.ok.inj (hmapping.symm.trans hother)
    exact ⟨resource, h⟩
  · rintro ⟨resource, h⟩
    exact ⟨mapping, resource, hmapping, h⟩

theorem isClean_detailReport (hlawful : IsLawful render) {format : String} {details : Details}
    (hformat : format ∈ ["table", "yaml", "json"]) (hfound : found)
    (hdetails : resource.description.on disk = .ok details) :
    (detailReport render format resource.path details).IsClean render found ↔
      FitsFormat render format resource := by
  have htable := @isClean_reported render found (tableReport render resource.path details)
  have hyaml := @isClean_reported render found (yamlReport details)
  rw [isOk_tableReport hlawful hdetails] at htable
  rw [isOk_yamlReport hdetails] at hyaml
  simp only [List.mem_cons, List.not_mem_nil, or_false] at hformat
  rcases hformat with rfl | rfl | rfl
  · exact htable.trans (and_iff_right hfound)
  · exact hyaml.trans (and_iff_right hfound)
  · exact iff_of_true hfound trivial

theorem on_get {format : String} {details : Details} (hvalid : IsValid settings)
    (hmapping : (mappingOf runtime settings target).on disk = .ok mapping)
    (hresource : (mapping.resource? target.path).on disk = .ok (some resource))
    (hdetails : resource.description.on disk = .ok details) :
    ((Command.get target format).run runtime settings).on disk =
      detailReport runtime.render format resource.path details := by
  rw [Command.run, on_onMapping hvalid hmapping, hresource]
  simp only [Lookup.on_bind, hdetails, Lookup.on_pure]

theorem isEncodable_printed (grid : Grid) : isEncodable grid.printed = true ↔
    ∀ line ∈ grid.lines, ∀ c ∈ line, Text.isSurrogate c = false := by
  have hbreak : Text.isSurrogate '\n' = false := by decide
  simp [isEncodable, Grid.printed, hbreak]

/-- The table for a resource can be encoded when no line of it has a lone surrogate. -/
theorem isEncodable_get {details : Details} {grid : Grid} (hvalid : IsValid settings)
    (hmapping : (mappingOf runtime settings target).on disk = .ok mapping)
    (hresource : (mapping.resource? target.path).on disk = .ok (some resource))
    (hdetails : resource.description.on disk = .ok details)
    (hshown : shownGrid runtime.render resource.path ["Key", "Value"]
      (details.flatMap detailRows) = .ok grid)
    (hlines : ∀ line ∈ grid.lines, ∀ c ∈ line, Text.isSurrogate c = false) :
    (((Command.get target "table").run runtime settings).on disk).IsEncodable := by
  have hreport : tableReport runtime.render resource.path details = .ok grid.printed := by
    rw [tableReport, gridReport, hshown]
    rfl
  rw [on_get hvalid hmapping hresource hdetails]
  change (reported (tableReport runtime.render resource.path details)).IsEncodable
  rw [hreport]
  exact Ending.isEncodable_done.mpr ((isEncodable_printed grid).mpr hlines)

theorem isClean_get (hlawful : IsLawful runtime.render) {format : String}
    (hformat : format ∈ ["table", "yaml", "json"])
    (hvalid : IsValid settings)
    (hmapping : (mappingOf runtime settings target).on disk = .ok mapping) :
    (((Command.get target format).run runtime settings).on disk).IsClean runtime.render
        (target.Resolves runtime settings disk) ↔
      (Command.get target format).Fits runtime.render disk mapping := by
  rw [resolves_iff hmapping]
  unfold Command.Fits
  cases hresource : (mapping.resource? target.path).on disk with
  | error error =>
    rw [Command.run, on_onMapping hvalid hmapping]
    simp [isClean_refusal, hresource, FitsResult]
  | ok resource? =>
    cases resource? with
    | none =>
      rw [Command.run, on_onMapping hvalid hmapping]
      simp [isClean_refusal, hresource, FitsResult, FitsFound]
    | some resource =>
      obtain ⟨place, hresolve⟩ := Mapping.exists_resolve hresource
      obtain ⟨details, hdetails⟩ := Mapping.exists_description_of_resolve hresolve
      rw [on_get hvalid hmapping hresource hdetails]
      have hfound : ∃ other, Except.ok (some resource) =
          (Except.ok (some other) : Except LookupError (Option Resource)) := ⟨resource, rfl⟩
      simp only [hresource, FitsResult, FitsFound]
      exact isClean_detailReport hlawful hformat hfound hdetails

/-! ### Listings -/

theorem on_withSizes_cons (child : Resource) (rest : List Resource) :
    (withSizes (child :: rest)).on disk =
      match child.size?.on disk with
      | .error error => .error (.storage error)
      | .ok size? =>
        match remark child size? with
        | .error error => .error (.report error)
        | .ok _ => ((withSizes rest).on disk).map ((child, size?) :: ·) := by
  rw [withSizes, Lookup.on_bind]
  cases child.size?.on disk with
  | error error => rfl
  | ok size? => cases h : remark child size? <;> simp [h]

theorem fst_withSizes {children : List Resource} {sized : List (Resource × Option Nat)}
    (h : (withSizes children).on disk = .ok sized) : sized.map (·.1) = children := by
  induction children generalizing sized with
  | nil =>
    cases h
    rfl
  | cons child rest ih =>
    rw [on_withSizes_cons] at h
    split at h
    · cases h
    · split at h
      · cases h
      · cases hrest : (withSizes rest).on disk with
        | error error =>
          rw [hrest] at h
          cases h
        | ok others =>
          rw [hrest] at h
          cases h
          rw [List.map_cons, ih hrest]

theorem exists_withSizes (hlawful : IsLawful runtime.render) {children : List Resource}
    (hsizes : ∀ child ∈ children, ∃ size?, child.size?.on disk = .ok size?)
    (hfits : ∀ child ∈ children, FitsList runtime.render child) :
    ∃ sized, (withSizes children).on disk = .ok sized := by
  induction children with
  | nil => exact ⟨[], rfl⟩
  | cons child rest ih =>
    obtain ⟨⟨size?, hsize⟩, hsizes⟩ := List.forall_mem_cons.mp hsizes
    obtain ⟨hchild, hfits⟩ := List.forall_mem_cons.mp hfits
    obtain ⟨text, htext, -⟩ := (@exists_remark_iff runtime.render hlawful child size?).mpr hchild
    obtain ⟨sized, hsized⟩ := ih hsizes hfits
    rw [on_withSizes_cons]
    simp only [hsize, htext, hsized]
    exact ⟨_, rfl⟩

theorem isClean_list (hlawful : IsLawful runtime.render) (hvalid : IsValid settings)
    (hmapping : (mappingOf runtime settings target).on disk = .ok mapping) :
    (((Command.list target).run runtime settings).on disk).IsClean runtime.render
        (target.Resolves runtime settings disk) ↔
      (Command.list target).Fits runtime.render disk mapping := by
  rw [Command.run, on_onMapping hvalid hmapping, resolves_iff hmapping, ← Mapping.exists_listing_iff]
  unfold Command.Fits
  cases hlisting : (mapping.listing target.path).on disk with
  | error error => simp [isClean_refusal, hlisting, FitsResult]
  | ok children =>
    simp only [hlisting, Lookup.on_bind, FitsResult, FitChildren]
    cases hsized : (withSizes children).on disk with
    | error fault =>
      have hmisfit : ¬ ∀ child ∈ children, FitsList runtime.render child := by
        intro hfits
        obtain ⟨sized, hall⟩ :=
          exists_withSizes hlawful (Mapping.exists_size_of_listing hlisting) hfits
        rw [hsized] at hall
        cases hall
      have hne : children ≠ [] := fun hnil ↦ hmisfit (by simp [hnil])
      exact iff_of_false id fun hfits ↦ hfits.elim hne fun h ↦ hmisfit h.2
    | ok sized =>
      have hsame := fst_withSizes hsized
      have hreport : (reported (listReport runtime.render target.path sized)).IsClean runtime.render
          (∃ found, (Except.ok children : Except LookupError (List Resource)) = .ok found) ↔
            (listReport runtime.render target.path sized).isOk = true :=
        isClean_reported.trans (and_iff_right ⟨children, rfl⟩)
      rw [isOk_listReport hlawful] at hreport
      rw [← hsame, List.map_eq_nil_iff, List.forall_mem_map]
      rw [← hsame] at hreport
      exact hreport

theorem isClean_tree (hlawful : IsLawful runtime.render) {depth? : Option Int}
    (hvalid : IsValid settings)
    (hmapping : (mappingOf runtime settings target).on disk = .ok mapping) :
    (((Command.tree target depth?).run runtime settings).on disk).IsClean runtime.render
        (target.Resolves runtime settings disk) ↔
      (Command.tree target depth?).Fits runtime.render disk mapping := by
  have hlimit : walkLimit = walkLimit - 1 + 1 := rfl
  rw [Command.run, on_onMapping hvalid hmapping, resolves_iff hmapping, ← Mapping.exists_listing_iff]
  unfold Command.Fits
  cases hlisting : (mapping.listing target.path).on disk with
  | error error =>
    have hwalk := Mapping.walk_of_listing hlisting depth? (walkLimit - 1)
    rw [← hlimit] at hwalk
    simp only [hwalk, isClean_refusal, hlisting, FitsResult]
    simp
  | ok children =>
    obtain ⟨visits, hvisits⟩ := Mapping.exists_walk ⟨children, hlisting⟩ depth? walkLimit
    simp only [hvisits, hlisting, Lookup.on_pure, isClean_reported, isOk_treeReport hlawful,
      FitsResult]
    simp

/-! ### Runs -/

/-- The command that arguments name, with what is given in front of its name. -/
def commandIn? (arguments : List String) : Option (Given × Command) := do
  let given ← readArguments? leadingOptions false {} none arguments
  match given.arguments with
  | [] => none
  | name :: rest => return (given, ← Command.read? name rest)

/-- What a run prints before its report. -/
def leadingText (settings : Settings) (given : Given) : String :=
  if given.has "verbose" || !isNothing settings.commands.verbose then verboseLine else ""

variable {runtime : Runtime} {home : String} {arguments : List String} {given : Given}
  {command : Command}

theorem mem_commandNames {name : String} {rest : List String}
    (h : Command.read? name rest = some command) : name ∈ commandNames := by
  by_contra hname
  simp only [commandNames, List.mem_cons, List.not_mem_nil, or_false, not_or] at hname
  unfold Command.read? at h
  split at h
  · exact hname.1 rfl
  · exact hname.2.1 rfl
  · exact hname.2.2.1 rfl
  · exact hname.2.2.2 rfl
  · cases h

/-- A run reads the settings and then does what the command says, unless a path that is given cannot
be one. -/
theorem on_run (hcommand : commandIn? arguments = some (given, command))
    (hload : (Settings.load runtime.room home).on disk = .ok settings) :
    (run runtime home arguments).on disk =
      match command.impossiblePath? with
      | some path => Ending.outcome (leadingText settings given)
          (.fault (.storage ⟨.nulCharacter, [path]⟩))
      | none => ((command.run runtime settings).on disk).encoded.outcome
          (leadingText settings given) := by
  simp only [commandIn?, Option.bind_eq_bind, Option.bind_eq_some_iff] at hcommand
  obtain ⟨leading, hleading, hcommand⟩ := hcommand
  cases harguments : leading.arguments with
  | nil => simp [harguments] at hcommand
  | cons name rest =>
    cases hread : Command.read? name rest with
    | none => simp [harguments, hread] at hcommand
    | some found =>
      simp only [harguments, hread, Option.bind_some, Option.pure_def, Option.some.injEq,
        Prod.mk.injEq] at hcommand
      obtain ⟨rfl, rfl⟩ := hcommand
      have hname : commandNames.contains name = true :=
        List.contains_iff_mem.mpr (mem_commandNames hread)
      have hbefore : (if (leading.has "verbose" || !isNothing settings.commands.verbose) = true then
          verboseLine else "") = leadingText settings leading := rfl
      simp only [run, hleading, harguments, hname, Bool.not_true, Bool.false_eq_true, if_false,
        Lookup.on_bind, hload, hread, hbefore]
      cases found.impossiblePath? <;> simp

theorem on_run_of_error {ending : Ending} (htarget : command.target? = some target)
    (h : (mappingOf runtime settings target).on disk = .error ending) :
    (command.run runtime settings).on disk = ending := by
  cases command with
  | get other format =>
    simp only [Command.target?] at htarget
    split_ifs at htarget
    cases htarget
    exact on_onMapping_of_error h
  | list other =>
    cases htarget
    exact on_onMapping_of_error h
  | tree other depth? =>
    cases htarget
    exact on_onMapping_of_error h
  | settings => cases htarget

theorem isClean_run_iff (hlawful : IsLawful runtime.render)
    (htarget : command.target? = some target) (hvalid : IsValid settings)
    (hmapping : (mappingOf runtime settings target).on disk = .ok mapping) :
    ((command.run runtime settings).on disk).IsClean runtime.render
        (target.Resolves runtime settings disk) ↔
      command.Fits runtime.render disk mapping := by
  cases command with
  | get other format =>
    simp only [Command.target?] at htarget
    split_ifs at htarget with hformat
    cases htarget
    exact isClean_get hlawful hformat hvalid hmapping
  | list other =>
    cases htarget
    exact isClean_list hlawful hvalid hmapping
  | tree other depth? =>
    cases htarget
    exact isClean_tree hlawful hvalid hmapping
  | settings => cases htarget

/-- A file system with one page, which has a text. -/
def pageDisk (text : String) : Disk :=
  .folder [("jcr_root", .folder [("a", .folder [(".content.xml",
    .file (Text.Utf8.encode ("<r text='" ++ text ++ "'/>")) 1)] 0)] 0)] 0

/-- The page below the root folder. -/
def pageTarget : Target := ⟨"/a", some "jcr_root", none⟩

/-- The arguments that show the page as a table. -/
def pageArguments : List String := ["get", "/a", "-r", "jcr_root"]

theorem commandIn_pageArguments :
    commandIn? pageArguments = some (⟨[], pageArguments⟩, .get pageTarget "table") := rfl

theorem isValid_defaults : IsValid {} := ⟨rfl, rfl, none, rfl⟩

theorem load_pageDisk (room : Settings.Room) (text : String) :
    (Settings.load room "home").on (pageDisk text) = .ok {} := by
  have hgeneral : FilePath.below "home" ".config" = "home/.config" := by decide +kernel
  have hown : FilePath.below "home" ".vaultfs" = "home/.vaultfs" := by decide +kernel
  have hkind : (pageDisk text).kind? "home/.config" = none := rfl
  have hplace : Settings.place (pageDisk text) "home" = "home/.vaultfs/config.json" := by
    simp [Settings.place, Settings.fileIn, hgeneral, hown, hkind]
  have hnone : (pageDisk text).find "home/.config" = .error .missing := rfl
  have hmissing : (pageDisk text).find "home/.vaultfs/config.json" = .error .missing := rfl
  have hread : (pageDisk text).read "home/.vaultfs/config.json" =
      .error ⟨.missing, ["home/.vaultfs/config.json"]⟩ := rfl
  rw [Settings.on_load (by simp [hgeneral, hnone]) (by simp [hplace, hmissing]), hplace, hread]

theorem tidy_root : FilePath.tidy "jcr_root" = "jcr_root" := by decide +kernel

theorem kind_pageDisk (text : String) :
    (pageDisk text).kind? (FilePath.tidy "jcr_root") = some .folder := by
  rw [tidy_root]
  rfl

theorem mappingOf_pageDisk (text : String) :
    (mappingOf runtime {} pageTarget).on (pageDisk text) = .ok ⟨"jcr_root", none⟩ := by
  have hholder : (Lookup.holder "jcr_root").on (pageDisk text) = some "." := rfl
  have hbelow : FilePath.below "." packageFilter = packageFilter := by decide +kernel
  have hkind : (pageDisk text).kind? packageFilter = none := rfl
  have hnone : (defaultFilter? "jcr_root").on (pageDisk text) = none := by
    simp [defaultFilter?, hholder, hbelow, hkind]
  have hfile : (filterOf {} pageTarget (FilePath.tidy "jcr_root")).on (pageDisk text) =
      .ok none := by
    rw [on_filterOf_default rfl rfl, tidy_root, hnone]
  rw [on_mappingOf rfl (kind_pageDisk text) hfile, Mapping.openAt, Lookup.on_pure, tidy_root, tidy_root]
  rfl

/-- The table for the page. -/
def pageTable? (text : String) : Option Grid := do
  let resource ← (((Mapping.mk "jcr_root" none).resource? "/a").on (pageDisk text)).toOption.join
  let details ← (resource.description.on (pageDisk text)).toOption
  (shownGrid Runtime.usual.render resource.path ["Key", "Value"]
    (details.flatMap detailRows)).toOption

end CommandLine

end ContentTree
