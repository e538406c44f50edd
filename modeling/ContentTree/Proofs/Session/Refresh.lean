import ContentTree.Proofs.Session.Transparency
/-!
What a refresh reaches. It empties the provider's own cache of kinds and the trees, and no cache of
kinds that is used in place of the own one. What stands at paths is told as it is right after it
exactly if such a cache says nothing untrue, and then requests are answered as without caches.
-/

set_option autoImplicit false
set_option relaxedAutoImplicit false

namespace ContentTree

open ContentTree.Storage

/-! ### One finding for a path in all caches -/

theorem Cache.Kinds.Distinct.run {α : Type} {caches : Cache.Pair} (h : caches.kinds.Distinct)
    (disk : Disk) (time : Rat) (lookup : Lookup α) :
    (Cache.Pair.run disk time lookup caches).2.kinds.Distinct := by
  refine Cache.Pair.run_keeps (·.kinds.Distinct) (fun later question hlater ↦ ?_) lookup h
  cases question with
  | kind path => exact hlater.kind disk time path
  | content | names | bytes | size | holder => exact hlater

namespace Provider

variable {provider : Provider} {disk : Disk} {time : Rat} {now : Moment}

/-- The provider with its own cache of kinds in use again. -/
def restoreKinds (provider : Provider) : Provider := { provider with replacement? := none }

/-- Whether all caches of kinds of a provider have at most one finding for a path. -/
def Distinct (provider : Provider) : Prop := provider.AllKinds Cache.Kinds.Distinct

theorem Distinct.run {α : Type} (h : provider.Distinct) (disk : Disk) (time : Rat)
    (lookup : Lookup α) : (provider.run disk time lookup).2.Distinct :=
  h.withCaches (h.caches.run disk time lookup)

theorem distinct_of_openAt {settings : Settings} (h : openAt disk time settings = .ok provider) :
    provider.Distinct := by
  obtain ⟨mapping, -, rfl⟩ := exists_mapping_of_openAt h
  exact ⟨.of_empty rfl, fun kinds hkinds ↦ by cases hkinds⟩

/-- Assumes: a cache in place of the own one says nothing untrue. After a refresh none does. -/
theorem present_refresh (h : ∀ kinds ∈ provider.replacement?, kinds.Present now) :
    provider.refresh.caches.Present now := by
  refine ⟨?_, .of_empty rfl⟩
  unfold Provider.caches refresh
  cases hreplacement : provider.replacement? with
  | none => exact .of_empty rfl
  | some kinds => exact h kinds hreplacement

end Provider

namespace Session

variable {session : Session} {past : List Session} {provider : Provider} {index : Nat}

/-! ### Runs in which caches are swapped -/

/-- The session after the provider with an index was given its own cache of kinds again. -/
def restoreKinds (session : Session) (index : Nat) : Session :=
  { session with providers := session.providers.modify index Provider.restoreKinds }

/-- The sessions that one can come to, the latest first, if providers are also given their own caches
of kinds again. A cache that a step puts in is never the provider's own, which is what a refresh
empties. -/
inductive SwappingRun : List Session → Prop
  | start {session : Session} (unopened : session.providers = []) : SwappingRun [session]
  | step {session next : Session} {past : List Session} (run : SwappingRun (session :: past))
      (step : Step (session :: past) session next) : SwappingRun (next :: session :: past)
  | restore {session : Session} {past : List Session} (run : SwappingRun (session :: past))
      (index : Nat) : SwappingRun (session.restoreKinds index :: session :: past)

/-- Whether all providers of some sessions have at most one finding for a path in a cache. -/
def AllDistinct (past : List Session) : Prop :=
  ∀ session ∈ past, ∀ provider ∈ session.providers, provider.Distinct

theorem Step.distinct {next : Session} (h : Step past session next) (hsession : session ∈ past)
    (hall : AllDistinct past) : ∀ provider ∈ next.providers, provider.Distinct := by
  have hhere := hall session hsession
  intro provider hprovider
  cases h.origin hprovider with
  | kept there => exact hhere provider there
  | opened opens => exact Provider.distinct_of_openAt opens
  | ran there lookup => exact (hhere _ there).run session.disk session.time lookup
  | adjusted there possible =>
    refine (hhere _ there).adjust (fun _ ↦ .of_empty) (fun _ path hkinds ↦ hkinds.forget path)
      fun kinds hkinds ↦ ?_
    exact holds_of_canAdjust (fun _ ↦ .of_empty) hall (hkinds ▸ possible)

/-- Along a run no cache comes to have two findings for a path. -/
theorem SwappingRun.distinct (h : SwappingRun past) : AllDistinct past := by
  induction h with
  | start unopened =>
    intro session hsession provider hprovider
    rw [List.mem_singleton.mp hsession, unopened] at hprovider
    cases hprovider
  | step _ step ih => exact List.forall_mem_cons.mpr ⟨step.distinct List.mem_cons_self ih, ih⟩
  | @restore session past _ index ih =>
    refine List.forall_mem_cons.mpr ⟨fun provider hprovider ↦ ?_, ih⟩
    rcases mem_of_modify hprovider with hold | ⟨earlier, hearlier, rfl⟩
    · exact ih session List.mem_cons_self provider hold
    · have hearlier := ih session List.mem_cons_self earlier hearlier
      exact ⟨hearlier.kinds, fun kinds hkinds ↦ by cases hkinds⟩

end Session

/-! ### Answers right after a refresh -/

namespace Mapping

variable {mapping : Mapping}

theorem isOrdinary_resource (path : String) : (mapping.resource? path).IsOrdinary := by
  unfold resource?
  split
  · exact .pure trivial
  · next normal _ =>
    exact .bind (isOrdinary_of_asks (asks_resolve normal)) fun _ _ ↦ .pure trivial

theorem isOrdinary_children (path : String) : (mapping.children path).IsOrdinary :=
  .bind (isOrdinary_of_asks (asks_children path)) fun _ _ ↦ .pure trivial

theorem isOrdinary_listing (path : String) : (mapping.listing path).IsOrdinary := by
  unfold listing
  split
  · exact .pure trivial
  · next normal _ =>
    refine .bind (isOrdinary_of_asks (asks_resolve normal)) fun found _ ↦ ?_
    cases found with
    | none => exact .pure trivial
    | some resource => exact .bind (isOrdinary_children normal) fun _ _ ↦ .pure trivial

end Mapping

/-- What a provider is asked for by its users: the resource at the normalized form of a path, and the
children of that. -/
inductive Request where
  | resource (path : String)
  | children (path : String)

namespace Request

/-- The type of the answers to a request. -/
def Answer : Request → Type
  | resource _ => Except LookupError (Option Resource)
  | children _ => Except LookupError (List Resource)

/-- The lookup of the answer to a request. -/
def lookup : (request : Request) → Mapping → Lookup request.Answer
  | resource path, mapping => mapping.resource? path
  | children path, mapping => mapping.listing path

theorem isOrdinary (request : Request) (mapping : Mapping) :
    (request.lookup mapping).IsOrdinary := by
  cases request with
  | resource path => exact Mapping.isOrdinary_resource path
  | children path => exact Mapping.isOrdinary_listing path

end Request

namespace Session

variable {session : Session} {past : List Session} {provider : Provider} {index : Nat}

theorem runAt_refresh {α : Type} (hprovider : session.providers[index]? = some provider)
    (lookup : Mapping → Lookup α) :
    ((session.adjust index .refresh).runAt index lookup).1 =
      some (provider.refresh.run session.disk session.time (lookup provider.mapping)).1 := by
  have hrefreshed : (session.adjust index .refresh).providers[index]? = some provider.refresh := by
    rw [adjust, List.getElem?_modify_eq, hprovider]
    rfl
  rw [runAt_of_provider hrefreshed lookup]
  rfl

/-- Assumes: a cache in place of the own one says nothing untrue. Right after a refresh a lookup finds
what the bare file system gives. -/
theorem refreshed_lookup_eq {α : Type} {lookup : Mapping → Lookup α}
    (hprovider : session.providers[index]? = some provider)
    (h : ∀ kinds ∈ provider.replacement?, kinds.Present session.moment)
    (hlookup : (lookup provider.mapping).IsOrdinary) :
    ((session.adjust index .refresh).runAt index lookup).1 =
      some ((lookup provider.mapping).on session.disk) := by
  have hpresent : provider.refresh.caches.Present session.moment := Provider.present_refresh h
  rw [runAt_refresh hprovider]
  exact congrArg some (hpresent.run_eq hlookup)

/-- Assumes: a run of any kind, caches swapped and files changed as one likes. Right after a refresh
what stands at all paths is told as it is, exactly if no cache that is used in place of the provider's
own has a finding that is still good and untrue. Then the resource and the children at any path are
those that are found without caches. -/
theorem refreshed_answers_iff (hrun : SwappingRun (session :: past))
    (hprovider : session.providers[index]? = some provider) :
    ((∀ file, ((session.adjust index .refresh).runAt index fun _ ↦ Lookup.kind file).1 =
        some (session.disk.kind? file)) ↔
      ∀ kinds ∈ provider.replacement?, kinds.Present session.moment) ∧
    ((∀ kinds ∈ provider.replacement?, kinds.Present session.moment) → ∀ request : Request,
      ((session.adjust index .refresh).runAt index request.lookup).1 =
        some ((provider.uncached session.time).run session.disk session.time
          (request.lookup provider.mapping)).1) := by
  refine ⟨⟨fun h kinds hkinds ↦ ?_, fun h file ↦ ?_⟩, fun h request ↦ ?_⟩
  · have hdistinct : kinds.Distinct := (hrun.distinct session List.mem_cons_self provider
      (List.mem_of_getElem? hprovider)).replacement kinds hkinds
    refine hdistinct.present_iff.mpr fun path ↦ ?_
    -- What stands at a path is told by the cache that is in use.
    have hanswer := h path
    rw [runAt_refresh hprovider, Option.some.injEq] at hanswer
    have hcaches : provider.refresh.caches.kinds = kinds := by
      rw [Provider.caches, Provider.refresh, Option.mem_def.mp hkinds]
      rfl
    rw [← hcaches]
    exact hanswer
  · exact refreshed_lookup_eq hprovider h (.ask trivial fun _ ↦ .found trivial)
  · have hordinary := request.isOrdinary provider.mapping
    rw [refreshed_lookup_eq hprovider h hordinary,
      provider.uncached_run session.disk session.time hordinary]

/-! ### A file that appears -/

/-- A folder with nothing in it. -/
def emptyFolderDisk : Disk := .folder [("jcr_root", .folder [] 0)] 0

/-- The folder with a file in it. -/
def newFileDisk : Disk := .folder [("jcr_root", .folder [("new.txt", .file [] 1)] 0)] 0

/-- Before anything is opened over the empty folder. -/
def emptyFolderSession : Session := ⟨emptyFolderDisk, 1000, 0, [], []⟩

/-- After a provider is opened. -/
def browsingSession : Session := { emptyFolderSession with providers := [freshProvider] }

/-- The provider with a cache of an hour in place of its own. -/
def swappedProvider : Provider := freshProvider.replaceKinds (.empty 3600 1000)

/-- After the cache was put in. -/
def swappedSession : Session := { emptyFolderSession with providers := [swappedProvider] }

/-- The provider after it looked for a file that is not there. -/
def missingProvider : Provider :=
  (swappedProvider.run emptyFolderDisk 1000 (swappedProvider.mapping.resource? "/new.txt")).2

/-- After a file was looked for that is not there. -/
def missingSession : Session := { emptyFolderSession with providers := [missingProvider] }

/-- After the file was written. -/
def appearedSession : Session := { missingSession with disk := newFileDisk }

/-- The run up to then, the latest first. -/
def appearedRun : List Session :=
  [appearedSession, missingSession, swappedSession, browsingSession, emptyFolderSession]

theorem swappingRun_appearedRun : SwappingRun appearedRun := by
  have hopen : emptyFolderSession.openProvider ⟨"jcr_root", none, 10, 1000⟩ =
      .ok browsingSession := rfl
  have hswap : browsingSession.adjust 0 (.replaceKinds (.empty 3600 1000)) = swappedSession := rfl
  have hlookup : (swappedSession.runAt 0 fun mapping ↦ mapping.resource? "/new.txt").2 =
      missingSession := by
    have hprovider : swappedSession.providers[0]? = some swappedProvider := rfl
    rw [runAt_of_provider hprovider, Prod.map_snd, missingSession, missingProvider]
    rfl
  have hchange : missingSession.change (fun _ ↦ .ok newFileDisk) = .ok appearedSession := rfl
  have hopened : SwappingRun [browsingSession, emptyFolderSession] :=
    .step (.start rfl) (.openProvider hopen)
  have hswapped : SwappingRun [swappedSession, browsingSession, emptyFolderSession] :=
    hopened.step (hswap ▸ .adjust 0 (.inl rfl))
  exact (hswapped.step (hlookup ▸ .lookup 0 _)).step (.change hchange)

/-- When the hour is over, a refresh leaves nothing that is untrue. -/
theorem refreshed_after_hour :
    SwappingRun (appearedSession.tick 3600 :: appearedRun) ∧
      (appearedSession.tick 3600).providers[0]? = some missingProvider ∧
        missingProvider.replacement?.isSome = true ∧
          ∀ request : Request,
            (((appearedSession.tick 3600).adjust 0 .refresh).runAt 0 request.lookup).1 =
              some ((missingProvider.uncached (appearedSession.tick 3600).time).run
                (appearedSession.tick 3600).disk (appearedSession.tick 3600).time
                  (request.lookup missingProvider.mapping)).1 := by
  have hrun : SwappingRun (appearedSession.tick 3600 :: appearedRun) :=
    swappingRun_appearedRun.step (.tick 3600)
  have hprovider : (appearedSession.tick 3600).providers[0]? = some missingProvider := rfl
  have hpresent : ∀ kinds ∈ missingProvider.replacement?,
      kinds.Present (appearedSession.tick 3600).moment := by
    decide +kernel
  exact ⟨hrun, hprovider, by decide +kernel, (refreshed_answers_iff hrun hprovider).2 hpresent⟩

/-- Before, the file is not found right after a refresh, although it is there. -/
theorem missed_after_refresh :
    SwappingRun appearedRun ∧ appearedSession.providers[0]? = some missingProvider ∧
      ((appearedSession.adjust 0 .refresh).runAt 0 (Request.resource "/new.txt").lookup).1 ≠
        some ((missingProvider.uncached appearedSession.time).run appearedSession.disk
          appearedSession.time ((Request.resource "/new.txt").lookup missingProvider.mapping)).1 := by
  have hprovider : appearedSession.providers[0]? = some missingProvider := rfl
  have hmissed : (missingProvider.refresh.run newFileDisk 1000
      (missingProvider.mapping.resource? "/new.txt")).1.toOption.join.isSome = false := by
    decide +kernel
  have hfound : ((missingProvider.uncached 1000).run newFileDisk 1000
      (missingProvider.mapping.resource? "/new.txt")).1.toOption.join.isSome = true := by
    decide +kernel
  refine ⟨swappingRun_appearedRun, hprovider, fun hsame ↦ ?_⟩
  rw [runAt_refresh hprovider, Option.some.injEq] at hsame
  have hsome : (missingProvider.refresh.run newFileDisk 1000
      (missingProvider.mapping.resource? "/new.txt")).1.toOption.join.isSome =
        ((missingProvider.uncached 1000).run newFileDisk 1000
          (missingProvider.mapping.resource? "/new.txt")).1.toOption.join.isSome :=
    congrArg (fun answer : Except LookupError (Option Resource) ↦ answer.toOption.join.isSome) hsame
  rw [hmissed, hfound] at hsome
  cases hsome

end Session

end ContentTree
