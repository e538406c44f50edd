import ContentTree.Proofs.Cache.Honesty
import ContentTree.Session.Basic
/-!
Runs of a session, with all that can happen between two lookups: the file system changes, the clock
moves, providers are opened, lookups of any kind are made, and caches are emptied in part or as a
whole or replaced. The caches of all providers stay honest about the moments of the run.
-/

set_option autoImplicit false
set_option relaxedAutoImplicit false

namespace ContentTree

open ContentTree.Storage

/-! ### Caches of a provider -/

/-- Something done to the caches of a provider from outside. What is forgotten of kinds is forgotten
by the cache in use, or by the provider's own if `own` says so. -/
inductive Adjustment where
  | refresh
  | forgetKind (own : Bool) (path : String)
  | clearKinds (own : Bool)
  | forgetContent (file : String)
  | clearContents
  | replaceKinds (kinds : Cache.Kinds)

/-- The provider with another cache of kinds for the one in use, or for its own. -/
def Provider.withKinds (provider : Provider) (own : Bool) (change : Cache.Kinds → Cache.Kinds) :
    Provider :=
  if own then { provider with kinds := change provider.kinds }
  else provider.withCaches { provider.caches with kinds := change provider.caches.kinds }

/-- The provider afterwards. -/
def Adjustment.apply : Adjustment → Provider → Provider
  | refresh, provider => provider.refresh
  | forgetKind own path, provider => provider.withKinds own (·.forget path)
  | clearKinds own, provider => provider.withKinds own (·.clear)
  | forgetContent file, provider => { provider with contents := provider.contents.forget file }
  | clearContents, provider => { provider with contents := provider.contents.clear }
  | replaceKinds kinds, provider => provider.replaceKinds kinds

namespace Provider

variable {provider : Provider} {past later : List Moment} {now : Moment} {pair : Cache.Pair}

/-- Whether a condition holds of all caches of kinds of a provider, the own one included when another
is in use. -/
structure AllKinds (holds : Cache.Kinds → Prop) (provider : Provider) : Prop where
  kinds : holds provider.kinds
  replacement : ∀ kinds ∈ provider.replacement?, holds kinds

section Kinds

variable {holds : Cache.Kinds → Prop}

theorem AllKinds.caches (h : provider.AllKinds holds) : holds provider.caches.kinds := by
  unfold Provider.caches
  cases hreplacement : provider.replacement? with
  | none => exact h.kinds
  | some kinds => exact h.replacement kinds hreplacement

theorem AllKinds.withCaches (h : provider.AllKinds holds) (hpair : holds pair.kinds) :
    (provider.withCaches pair).AllKinds holds := by
  unfold Provider.withCaches
  cases hreplacement : provider.replacement? with
  | none => exact ⟨hpair, fun kinds hkinds ↦ by cases hkinds⟩
  | some replacement => exact ⟨h.kinds, fun kinds hkinds ↦ Option.some.inj hkinds ▸ hpair⟩

theorem AllKinds.withKinds (h : provider.AllKinds holds) (own : Bool)
    {change : Cache.Kinds → Cache.Kinds} (hchange : ∀ kinds, holds kinds → holds (change kinds)) :
    (provider.withKinds own change).AllKinds holds := by
  unfold Provider.withKinds
  split_ifs
  · exact ⟨hchange _ h.kinds, h.replacement⟩
  · exact h.withCaches (hchange _ h.caches)

/-- Assumes: a condition that holds of empty caches and stays when a finding is forgotten, and holds
of a cache that is put in. Nothing else is needed for it to stay. -/
theorem AllKinds.adjust (hempty : ∀ kinds : Cache.Kinds, kinds.findings = [] → holds kinds)
    (hforget : ∀ kinds path, holds kinds → holds (kinds.forget path))
    (h : provider.AllKinds holds) {adjustment : Adjustment}
    (hreplace : ∀ kinds, adjustment = .replaceKinds kinds → holds kinds) :
    (adjustment.apply provider).AllKinds holds := by
  cases adjustment with
  | refresh => exact ⟨hempty _ rfl, h.replacement⟩
  | forgetKind own path => exact h.withKinds own fun kinds ↦ hforget kinds path
  | clearKinds own => exact h.withKinds own fun kinds _ ↦ hempty _ rfl
  | forgetContent file => exact ⟨h.kinds, h.replacement⟩
  | clearContents => exact ⟨h.kinds, h.replacement⟩
  | replaceKinds kinds =>
    exact ⟨h.kinds, fun other hother ↦ Option.some.inj hother ▸ hreplace kinds rfl⟩

end Kinds

/-- Whether all caches of a provider are honest, those not in use included. -/
structure Honest (past : List Moment) (provider : Provider) : Prop where
  kinds : provider.kinds.Honest past
  replacement : ∀ kinds ∈ provider.replacement?, kinds.Honest past
  contents : provider.contents.Honest past

theorem Honest.mono (h : provider.Honest past) (hlater : past ⊆ later) : provider.Honest later :=
  ⟨h.kinds.mono hlater, fun kinds hkinds ↦ (h.replacement kinds hkinds).mono hlater,
    h.contents.mono hlater⟩

theorem Honest.allKinds (h : provider.Honest past) : provider.AllKinds (·.Honest past) :=
  ⟨h.kinds, h.replacement⟩

theorem AllKinds.honest (h : provider.AllKinds (·.Honest past))
    (hcontents : provider.contents.Honest past) : provider.Honest past :=
  ⟨h.kinds, h.replacement, hcontents⟩

theorem Honest.caches (h : provider.Honest past) : provider.caches.Honest past :=
  ⟨h.allKinds.caches, h.contents⟩

theorem caches_withCaches (provider : Provider) (pair : Cache.Pair) :
    (provider.withCaches pair).caches = pair := by
  unfold withCaches caches
  cases provider.replacement? <;> rfl

theorem contents_withCaches (provider : Provider) (pair : Cache.Pair) :
    (provider.withCaches pair).contents = pair.contents :=
  congrArg Cache.Pair.contents (caches_withCaches provider pair)

theorem contents_withKinds (provider : Provider) (own : Bool)
    (change : Cache.Kinds → Cache.Kinds) :
    (provider.withKinds own change).contents = provider.contents := by
  unfold Provider.withKinds
  split_ifs
  · rfl
  · exact contents_withCaches _ _

/-- A lookup does not change the time to live. -/
theorem timeToLive_run {α : Type} (provider : Provider) (disk : Disk) (time : Rat)
    (lookup : Lookup α) : (provider.run disk time lookup).2.caches.kinds.timeToLive =
      provider.caches.kinds.timeToLive := by
  have hcaches : (provider.run disk time lookup).2.caches =
      (Cache.Pair.run disk time lookup provider.caches).2 := caches_withCaches _ _
  rw [hcaches, Cache.Pair.timeToLive_run]

theorem Honest.run {α : Type} (h : provider.Honest past) (hnow : now ∈ past) (lookup : Lookup α) :
    (provider.run now.disk now.time lookup).2.Honest past := by
  have hpair := h.caches.run hnow lookup
  refine (h.allKinds.withCaches hpair.kinds).honest ?_
  rw [contents_withCaches]
  exact hpair.contents

/-- Assumes: a cache put in is honest. Nothing else is needed for the caches to stay honest. -/
theorem Honest.adjust (h : provider.Honest past) {adjustment : Adjustment}
    (hreplace : ∀ kinds, adjustment = .replaceKinds kinds → kinds.Honest past) :
    (adjustment.apply provider).Honest past := by
  have hkinds : (adjustment.apply provider).AllKinds (·.Honest past) :=
    h.allKinds.adjust (fun _ ↦ .of_empty) (fun kinds path hkinds ↦
      hkinds.subset (kinds.forget_subset path)) hreplace
  refine hkinds.honest ?_
  cases adjustment with
  | refresh => exact .of_empty rfl
  | forgetKind own path | clearKinds own =>
    rw [Adjustment.apply, contents_withKinds]
    exact h.contents
  | forgetContent file => exact h.contents.subset (provider.contents.forget_subset file)
  | clearContents => exact .of_empty rfl
  | replaceKinds kinds => exact h.contents

/-- A provider that was just opened has empty caches. -/
theorem exists_mapping_of_openAt {disk : Disk} {time : Rat} {settings : Settings}
    (h : openAt disk time settings = .ok provider) :
    ∃ mapping,
      (Mapping.openAt Pattern.compile settings.root settings.filterFile?).on disk = .ok mapping ∧
      provider = ⟨mapping, settings.filterFile?, .empty settings.timeToLive time, none,
        .empty settings.capacity⟩ := by
  unfold openAt at h
  cases hmapping :
      (Mapping.openAt Pattern.compile settings.root settings.filterFile?).on disk with
  | error fault =>
    rw [hmapping] at h
    cases h
  | ok mapping =>
    rw [hmapping] at h
    cases h
    exact ⟨mapping, rfl, rfl⟩

theorem honest_of_openAt {disk : Disk} {time : Rat} {settings : Settings}
    (h : openAt disk time settings = .ok provider) : provider.Honest past := by
  obtain ⟨mapping, -, rfl⟩ := exists_mapping_of_openAt h
  exact ⟨.of_empty rfl, (fun kinds hkinds ↦ by cases hkinds), .of_empty rfl⟩

end Provider

/-! ### Steps of a session -/

namespace Session

variable {session next : Session} {past : List Session} {provider : Provider}

/-- The file system and the time of a session. -/
def moment (session : Session) : Moment := ⟨session.disk, session.time⟩

/-- Whether something can be done to caches: a cache put in is empty, or was in a provider before. -/
def CanAdjust (past : List Session) : Adjustment → Prop
  | .replaceKinds kinds => kinds.findings = [] ∨ ∃ session ∈ past, ∃ provider ∈ session.providers,
      kinds = provider.kinds ∨ kinds ∈ provider.replacement?
  | _ => True

/-- The session after something was done to the caches of the provider with an index. -/
def adjust (session : Session) (index : Nat) (adjustment : Adjustment) : Session :=
  { session with providers := session.providers.modify index adjustment.apply }

/-- What a session can become next: the file system is written to or changed in another way, the
clock is moved, a provider is opened, a lookup of any kind is made, a cursor is kept or read, or
something is done to the caches of a provider. -/
inductive Step (past : List Session) (session : Session) : Session → Prop
  | write {next : Session} {path : String} {bytes : List UInt8} {stamp? : Option Rat} {clock : Rat}
      (written : session.write path bytes stamp? clock = .ok next) : Step past session next
  | change {next : Session} {change : Disk → Except StorageError Disk}
      (changed : session.change change = .ok next) : Step past session next
  | tick (seconds : Rat) : Step past session (session.tick seconds)
  | openProvider {next : Session} {settings : Provider.Settings}
      (opened : session.openProvider settings = .ok next) : Step past session next
  | lookup {α : Type} (index : Nat) (lookup : Mapping → Lookup α) :
      Step past session (session.runAt index lookup).2
  | keep (name : String) (cursor : Cursor) : Step past session (session.keep name cursor)
  | next (name : String) : Step past session (session.next name).2
  | adjust (index : Nat) {adjustment : Adjustment} (possible : CanAdjust past adjustment) :
      Step past session (session.adjust index adjustment)

/-- The sessions that one can come to, the latest first, from one without a provider. -/
inductive Run : List Session → Prop
  | start {session : Session} (unopened : session.providers = []) : Run [session]
  | step {session next : Session} {past : List Session} (run : Run (session :: past))
      (step : Step (session :: past) session next) : Run (next :: session :: past)

theorem providers_of_write {path : String} {bytes : List UInt8} {stamp? : Option Rat} {clock : Rat}
    (h : session.write path bytes stamp? clock = .ok next) : next.providers = session.providers := by
  unfold write at h
  cases hwrite : session.disk.write path bytes (stamp?.getD session.nextStamp) clock with
  | error fault =>
    rw [hwrite] at h
    cases h
  | ok disk =>
    rw [hwrite] at h
    cases h
    rfl

theorem providers_of_change {change : Disk → Except StorageError Disk}
    (h : session.change change = .ok next) : next.providers = session.providers := by
  unfold Session.change at h
  cases hchange : change session.disk with
  | error fault =>
    rw [hchange] at h
    cases h
  | ok disk =>
    rw [hchange] at h
    cases h
    rfl

/-- Opening adds a provider with empty caches. -/
theorem mem_of_openProvider {settings : Provider.Settings}
    (h : session.openProvider settings = .ok next) (hprovider : provider ∈ next.providers) :
    provider ∈ session.providers ∨
      Provider.openAt session.disk session.time settings = .ok provider := by
  unfold openProvider at h
  cases hopen : Provider.openAt session.disk session.time settings with
  | error fault =>
    rw [hopen] at h
    cases h
  | ok opened =>
    rw [hopen] at h
    cases h
    rcases List.mem_append.mp hprovider with hold | hnew
    · exact .inl hold
    · exact .inr (by rw [List.mem_singleton.mp hnew])

/-- A lookup changes one provider, by running it. -/
theorem mem_of_runAt {α : Type} {index : Nat} {lookup : Mapping → Lookup α}
    (hprovider : provider ∈ (session.runAt index lookup).2.providers) :
    provider ∈ session.providers ∨ ∃ earlier ∈ session.providers,
      provider = (earlier.run session.disk session.time (lookup earlier.mapping)).2 := by
  unfold runAt at hprovider
  cases hearlier : session.providers[index]? with
  | none =>
    rw [hearlier] at hprovider
    exact .inl hprovider
  | some earlier =>
    rw [hearlier] at hprovider
    rcases List.mem_or_eq_of_mem_set hprovider with hold | hnew
    · exact .inl hold
    · exact .inr ⟨earlier, List.mem_of_getElem? hearlier, hnew⟩

/-- Reading a cursor is a lookup, if there is a cursor. -/
theorem providers_next (session : Session) (name : String) :
    (session.next name).2.providers = session.providers ∨
      ∃ index, ∃ cursor : Cursor, (session.next name).2.providers =
        (session.runAt index fun mapping ↦ cursor.next mapping).2.providers := by
  unfold next
  cases hcursor : session.cursors.lookup name with
  | none => exact .inl rfl
  | some kept =>
    obtain ⟨index, cursor⟩ := kept
    refine .inr ⟨index, cursor, ?_⟩
    simp only
    cases hrun : session.runAt index fun mapping ↦ cursor.next mapping with
    | mk found after =>
      cases found with
      | none => rfl
      | some item => rfl

theorem mem_of_modify {index : Nat} {change : Provider → Provider}
    (hprovider : provider ∈ session.providers.modify index change) :
    provider ∈ session.providers ∨ ∃ earlier ∈ session.providers, provider = change earlier := by
  obtain ⟨place, hplace⟩ := List.mem_iff_getElem?.mp hprovider
  rw [List.getElem?_modify] at hplace
  obtain ⟨earlier, hearlier, hprovider⟩ := Option.map_eq_some_iff.mp hplace
  split_ifs at hprovider
  · exact .inr ⟨earlier, List.mem_of_getElem? hearlier, hprovider.symm⟩
  · exact .inl (hprovider ▸ List.mem_of_getElem? hearlier)

/-- Where a provider of the next session comes from: it was there, or it was just opened, or a
lookup or something done to its caches changed it. -/
inductive Origin (past : List Session) (session : Session) : Provider → Prop
  | kept {provider : Provider} (there : provider ∈ session.providers) : Origin past session provider
  | opened {provider : Provider} {settings : Provider.Settings}
      (opens : Provider.openAt session.disk session.time settings = .ok provider) :
      Origin past session provider
  | ran {α : Type} {earlier : Provider} (there : earlier ∈ session.providers) (lookup : Lookup α) :
      Origin past session (earlier.run session.disk session.time lookup).2
  | adjusted {earlier : Provider} (there : earlier ∈ session.providers) {adjustment : Adjustment}
      (possible : CanAdjust past adjustment) : Origin past session (adjustment.apply earlier)

theorem origin_of_runAt {α : Type} {index : Nat} {lookup : Mapping → Lookup α}
    (hprovider : provider ∈ (session.runAt index lookup).2.providers) :
    Origin past session provider := by
  rcases mem_of_runAt hprovider with hold | ⟨earlier, hearlier, rfl⟩
  · exact .kept hold
  · exact .ran hearlier (lookup earlier.mapping)

/-- A step has no other way to come to a provider. -/
theorem Step.origin (h : Step past session next) (hprovider : provider ∈ next.providers) :
    Origin past session provider := by
  cases h with
  | write written => exact .kept (providers_of_write written ▸ hprovider)
  | change changed => exact .kept (providers_of_change changed ▸ hprovider)
  | tick => exact .kept hprovider
  | openProvider opened =>
    rcases mem_of_openProvider opened hprovider with hold | hopen
    · exact .kept hold
    · exact .opened hopen
  | lookup => exact origin_of_runAt hprovider
  | keep => exact .kept hprovider
  | next name =>
    rcases providers_next session name with hsame | ⟨index, cursor, hrun⟩
    · exact .kept (hsame ▸ hprovider)
    · exact origin_of_runAt (hrun ▸ hprovider)
  | adjust index possible =>
    rcases mem_of_modify hprovider with hold | ⟨earlier, hearlier, rfl⟩
    · exact .kept hold
    · exact .adjusted hearlier possible

/-- A condition that holds of empty caches and of all caches of kinds so far holds of a cache that can
be put in. -/
theorem holds_of_canAdjust {holds : Cache.Kinds → Prop} {kinds : Cache.Kinds}
    (hempty : ∀ kinds : Cache.Kinds, kinds.findings = [] → holds kinds)
    (hall : ∀ session ∈ past, ∀ provider ∈ session.providers, provider.AllKinds holds)
    (h : CanAdjust past (.replaceKinds kinds)) : holds kinds := by
  rcases h with hnone | ⟨session, hsession, provider, hprovider, rfl | hkinds⟩
  · exact hempty _ hnone
  · exact (hall session hsession provider hprovider).kinds
  · exact (hall session hsession provider hprovider).replacement kinds hkinds

/-! ### Honesty along runs -/

/-- Whether the caches of all providers of some sessions are honest about their moments. -/
def AllHonest (past : List Session) : Prop :=
  ∀ session ∈ past, ∀ provider ∈ session.providers, provider.Honest (past.map moment)

/-- Assumes: honest caches so far. After a step the caches are honest about the same moments: a step
finds nothing later than the session that it starts from. -/
theorem Step.honest (h : Step past session next) (hsession : session ∈ past)
    (hall : AllHonest past) : ∀ provider ∈ next.providers, provider.Honest (past.map moment) := by
  have hhere := hall session hsession
  have hnow : session.moment ∈ past.map moment := List.mem_map_of_mem hsession
  intro provider hprovider
  cases h.origin hprovider with
  | kept there => exact hhere provider there
  | opened opens => exact Provider.honest_of_openAt opens
  | ran there lookup => exact (hhere _ there).run hnow lookup
  | adjusted there possible =>
    refine (hhere _ there).adjust fun kinds hkinds ↦ ?_
    exact holds_of_canAdjust (fun _ ↦ .of_empty) (fun session hsession provider hprovider ↦
      (hall session hsession provider hprovider).allKinds) (hkinds ▸ possible)

/-- Along a run all caches stay honest. -/
theorem Run.honest (h : Run past) : AllHonest past := by
  induction h with
  | start unopened =>
    intro session hsession provider hprovider
    rw [List.mem_singleton.mp hsession, unopened] at hprovider
    cases hprovider
  | @step session next past _ step ih =>
    have hlater : (session :: past).map moment ⊆ (next :: session :: past).map moment :=
      List.subset_cons_self _ _
    intro earlier hearlier provider hprovider
    rcases List.mem_cons.mp hearlier with rfl | hold
    · exact (step.honest List.mem_cons_self ih provider hprovider).mono hlater
    · exact (ih earlier hold provider hprovider).mono hlater

end Session

end ContentTree
