import ContentTree.Proofs.Cache.Present
import ContentTree.Proofs.Session.Run
import ContentTree.Proofs.Storage.Disk
/-!
When caches cannot be noticed. At any point of a run, a mapping over its caches gives the answers
that it gives without caches, if the file system has not changed for the time to live and no
descriptor had different contents with the same time of change.
-/

set_option autoImplicit false
set_option relaxedAutoImplicit false

namespace ContentTree

open ContentTree.Text ContentTree.Storage

/-- What a mapping is asked for: the resource at a path, the children of a path, the file of a path,
the node at a path or at a relative path below it, and whether a path is visible. -/
inductive Inquiry where
  | resource (path : String)
  | children (path : String)
  | file (path : String)
  | node (path : String) (subPath? : Option String)
  | visible (path : String)

namespace Inquiry

/-- The type of the answers to an inquiry. -/
def Answer : Inquiry → Type
  | resource _ => Option Resource
  | children _ => Option (List Resource)
  | file _ => Option (String × Kind)
  | node _ _ => Option Descriptor.View
  | visible _ => Bool

/-- The lookup of the answer to an inquiry. -/
def lookup : (inquiry : Inquiry) → Mapping → Lookup inquiry.Answer
  | resource path, mapping => mapping.resolve path
  | children path, mapping => mapping.children? path
  | file path, mapping => mapping.onDisk? path
  | node path subPath?, mapping => mapping.view? path subPath?
  | visible path, mapping => mapping.isVisible path

theorem isOrdinary (inquiry : Inquiry) (mapping : Mapping) :
    (inquiry.lookup mapping).IsOrdinary := by
  cases inquiry with
  | resource path => exact Mapping.isOrdinary_of_asks (Mapping.asks_resolve path)
  | children path => exact Mapping.isOrdinary_of_asks (Mapping.asks_children path)
  | file path => exact Mapping.isOrdinary_of_asks (Mapping.asks_onDisk path)
  | node path subPath? => exact Mapping.isOrdinary_of_asks (Mapping.asks_view path subPath?)
  | visible path => exact Mapping.isOrdinary_of_asks (Mapping.asks_isVisible path)

end Inquiry

namespace Provider

/-- The provider with caches that keep nothing. -/
def uncached (provider : Provider) (time : Rat) : Provider :=
  { provider with kinds := .empty 0 time, replacement? := none, contents := .empty 0 }

/-- A provider without caches gives what the bare file system gives. -/
theorem uncached_run {α : Type} (provider : Provider) (disk : Disk) (time : Rat)
    {lookup : Lookup α} (hlookup : lookup.IsOrdinary) :
    ((provider.uncached time).run disk time lookup).1 = lookup.on disk := by
  have hempty : (provider.uncached time).caches.Present ⟨disk, time⟩ :=
    ⟨.of_empty rfl, .of_empty rfl⟩
  exact hempty.run_eq hlookup

end Provider

namespace Session

variable {session : Session} {past : List Session} {provider : Provider} {index : Nat}

theorem runAt_of_provider {α : Type} (hprovider : session.providers[index]? = some provider)
    (lookup : Mapping → Lookup α) : session.runAt index lookup =
      (provider.run session.disk session.time (lookup provider.mapping)).map some fun after ↦
        { session with providers := session.providers.set index after } := by
  rw [runAt, hprovider]
  rfl

/-- Assumes: a run, no change of the file system for the time to live of the cache in use, and stamps
that tell the contents of descriptors apart. A lookup finds what the bare file system gives. -/
theorem Run.lookup_eq {α : Type} {lookup : Mapping → Lookup α} (hrun : Run (session :: past))
    (hprovider : session.providers[index]? = some provider)
    (hquiet : Quiet ((session :: past).map moment) session.moment provider.caches.kinds.timeToLive)
    (hstamps : StampsTell ((session :: past).map moment))
    (hlookup : (lookup provider.mapping).IsOrdinary) :
    (session.runAt index lookup).1 = some ((lookup provider.mapping).on session.disk) := by
  have hnow : session.moment ∈ (session :: past).map moment := List.mem_cons_self
  have hhonest := hrun.honest session List.mem_cons_self provider (List.mem_of_getElem? hprovider)
  rw [runAt_of_provider hprovider lookup]
  exact congrArg some (hhonest.caches.run_eq hnow hquiet hstamps hlookup)

/-- Assumes: a run, no change of the file system for the time to live of the cache in use, and stamps
that tell the contents of descriptors apart. An inquiry has the answer that it has without caches.
-/
theorem inquiry_transparent (inquiry : Inquiry) (hrun : Run (session :: past))
    (hprovider : session.providers[index]? = some provider)
    (hquiet : Quiet ((session :: past).map moment) session.moment provider.caches.kinds.timeToLive)
    (hstamps : StampsTell ((session :: past).map moment)) :
    (session.runAt index inquiry.lookup).1 =
      some ((provider.uncached session.time).run session.disk session.time
        (inquiry.lookup provider.mapping)).1 := by
  have hordinary := inquiry.isOrdinary provider.mapping
  rw [hrun.lookup_eq hprovider hquiet hstamps hordinary,
    provider.uncached_run session.disk session.time hordinary]

/-! ### A descriptor that changes -/

/-- A folder whose sidecar has some contents and a time of change. -/
def sidecarDisk (bytes : List UInt8) (modified : Rat) : Disk :=
  .folder [("jcr_root", .folder [(".content.xml", .file bytes modified)] 0)] 0

/-- A provider that was just opened. -/
def freshProvider : Provider :=
  ⟨⟨FilePath.tidy "jcr_root", none⟩, none, .empty 10 1000, none, .empty 1000⟩

/-- The contents of a sidecar before a change. -/
def contentsBefore : List UInt8 := Utf8.encode "<r x='1'/>"

/-- The contents of a sidecar after a change. -/
def contentsAfter : List UInt8 := Utf8.encode "<r><a x='1'/></r>"

/-- Before anything is opened. -/
def unopenedSession : Session := ⟨sidecarDisk contentsBefore 1, 1000, 0, [], []⟩

/-- After a provider is opened. -/
def openedSession : Session := { unopenedSession with providers := [freshProvider] }

/-- The provider after it looked for a node that is not there. -/
def lookedUpProvider : Provider :=
  (freshProvider.run (sidecarDisk contentsBefore 1) 1000 (freshProvider.mapping.resolve "/a")).2

/-- After a node was looked for that is not there. -/
def lookedUpSession : Session := { unopenedSession with providers := [lookedUpProvider] }

/-- After the sidecar was changed to have the node. -/
def changedSession : Session := { lookedUpSession with disk := sidecarDisk contentsAfter 2 }

/-- After the time to live went by. -/
def waitedSession : Session := changedSession.tick 10

/-- The run up to then, the latest first. -/
def waitedRun : List Session :=
  [waitedSession, changedSession, lookedUpSession, openedSession, unopenedSession]

theorem run_waitedRun : Run waitedRun := by
  have hopen : unopenedSession.openProvider ⟨"jcr_root", none, 10, 1000⟩ = .ok openedSession := rfl
  have hlookup : (openedSession.runAt 0 fun mapping ↦ mapping.resolve "/a").2 = lookedUpSession := by
    have hprovider : openedSession.providers[0]? = some freshProvider := rfl
    rw [runAt_of_provider hprovider, Prod.map_snd, lookedUpSession, lookedUpProvider]
    rfl
  have hstep : Step [openedSession, unopenedSession] openedSession lookedUpSession :=
    hlookup ▸ .lookup 0 _
  have hchange : lookedUpSession.change (fun _ ↦ .ok (sidecarDisk contentsAfter 2)) =
      .ok changedSession := rfl
  exact .step (.step (.step (.step (.start rfl) (.openProvider hopen)) hstep) (.change hchange))
    (.tick 10)

/-- What a path leads to is the sidecar, or a folder that never changed. -/
theorem entry_of_find {bytes : List UInt8} {modified : Rat} {file : String} {e : Entry}
    (h : (sidecarDisk bytes modified).find file = .ok e) :
    e = .file bytes modified ∨ ∃ entries, e = .folder entries 0 := by
  obtain ⟨place, hplace⟩ := Disk.exists_at_of_find h
  rcases Entry.eq_or_at_of_single hplace with htop | ⟨inRoot, hinRoot⟩
  · exact .inr ⟨_, htop⟩
  · rcases Entry.eq_or_at_of_single hinRoot with hroot | ⟨inFile, hinFile⟩
    · exact .inr ⟨_, hroot⟩
    · cases inFile with
      | nil => exact .inl (Option.some.inj hinFile).symm
      | cons name rest => simp [Entry.at?, Entry.member?] at hinFile

/-- Assumes: a sidecar that changed when the folders did not. The time of change at a path tells the
sidecar from a folder. -/
theorem read_of_stamp {bytes : List UInt8} {modified time : Rat} {file : String}
    (hmodified : modified ≠ 0)
    (h : Cache.stamp? (sidecarDisk bytes modified) file = some time) :
    (sidecarDisk bytes modified).read file =
        (if time = modified then .ok bytes else .error ⟨.isFolder, [file]⟩) ∧
      (time = modified ∨ time = 0) := by
  unfold Cache.stamp? at h
  unfold Disk.read
  cases hfind : (sidecarDisk bytes modified).find file with
  | error fault =>
    rw [hfind] at h
    cases h
  | ok e =>
    rw [hfind] at h
    rcases entry_of_find hfind with rfl | ⟨entries, rfl⟩
    · obtain rfl : modified = time := Option.some.inj h
      simp
    · obtain rfl : 0 = time := Option.some.inj h
      simp [hmodified.symm]

/-- What a path has held before and after the change, by its time of change. -/
def heldSidecar (file : String) (modified : Rat) : Except StorageError (List UInt8) :=
  if modified = 1 then .ok contentsBefore
  else if modified = 2 then .ok contentsAfter
  else .error ⟨.isFolder, [file]⟩

theorem time_waitedSession : waitedSession.time = 1010 := by decide +kernel

theorem moments_waitedRun : waitedRun.map moment =
    [⟨sidecarDisk contentsAfter 2, 1010⟩, ⟨sidecarDisk contentsAfter 2, 1000⟩,
      ⟨sidecarDisk contentsBefore 1, 1000⟩, ⟨sidecarDisk contentsBefore 1, 1000⟩,
      ⟨sidecarDisk contentsBefore 1, 1000⟩] :=
  congrArg (fun time ↦ [Moment.mk (sidecarDisk contentsAfter 2) time,
    ⟨sidecarDisk contentsAfter 2, 1000⟩, ⟨sidecarDisk contentsBefore 1, 1000⟩,
    ⟨sidecarDisk contentsBefore 1, 1000⟩, ⟨sidecarDisk contentsBefore 1, 1000⟩])
    time_waitedSession

theorem stampsTell_waitedRun : StampsTell (waitedRun.map moment) := by
  have hdisk : ∀ now ∈ waitedRun.map moment,
      now.disk = sidecarDisk contentsBefore 1 ∨ now.disk = sidecarDisk contentsAfter 2 := by
    simp [moments_waitedRun]
  intro file _
  refine .of_held (heldSidecar file) fun moment hmoment modified hstamp ↦ ?_
  rcases hdisk moment hmoment with hbefore | hafter
  · rw [hbefore] at hstamp ⊢
    obtain ⟨hread, hone | hzero⟩ := read_of_stamp (by decide) hstamp
    · rw [hread, heldSidecar, if_pos hone, if_pos hone]
    · rw [hread, heldSidecar, hzero]
      rfl
  · rw [hafter] at hstamp ⊢
    obtain ⟨hread, htwo | hzero⟩ := read_of_stamp (by decide) hstamp
    · rw [hread, heldSidecar, htwo]
      rfl
    · rw [hread, heldSidecar, hzero]
      rfl

theorem quiet_waitedRun : Quiet (waitedRun.map moment) waitedSession.moment 10 := by
  have hwaited : waitedSession.moment = ⟨sidecarDisk contentsAfter 2, 1010⟩ :=
    (List.cons.inj moments_waitedRun).1
  rw [hwaited, moments_waitedRun]
  intro now hnow hage
  rcases List.mem_cons.mp hnow with rfl | hnow
  · rfl
  · rcases List.mem_cons.mp hnow with rfl | hnow
    · rfl
    · have htime : now.time = 1000 := by
        simp only [List.mem_cons, List.not_mem_nil, or_false, or_self] at hnow
        rw [hnow]
      rw [htime] at hage
      exact absurd hage (by decide +kernel)

/-- The caches hold what the descriptor was before its change, and answer as if they were empty. -/
theorem transparent_after_change :
    Run waitedRun ∧ Quiet (waitedRun.map moment) waitedSession.moment 10 ∧
      StampsTell (waitedRun.map moment) ∧
        ∃ provider, waitedSession.providers[0]? = some provider ∧
          provider.caches.kinds.timeToLive = 10 ∧
            (waitedSession.runAt 0 (Inquiry.resource "/a").lookup).1 =
              some ((provider.uncached waitedSession.time).run waitedSession.disk
                waitedSession.time ((Inquiry.resource "/a").lookup provider.mapping)).1 := by
  have hprovider : waitedSession.providers[0]? = some lookedUpProvider := rfl
  have htime : lookedUpProvider.caches.kinds.timeToLive = 10 := by
    rw [lookedUpProvider, Provider.timeToLive_run]
    rfl
  exact ⟨run_waitedRun, quiet_waitedRun, stampsTell_waitedRun, lookedUpProvider, hprovider, htime,
    inquiry_transparent (.resource "/a") run_waitedRun hprovider (htime ▸ quiet_waitedRun)
      stampsTell_waitedRun⟩

end Session

end ContentTree
