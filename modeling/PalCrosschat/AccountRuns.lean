import PalCrosschat.GameCalls
import PalCrosschat.PlatformIds

/-! # Accounts in the running mod

The roster, the platform cache and the link jobs hold normalized ids, so they
agree on the text that stands for an account. -/

namespace PalCrosschat

open Bytes (ascii)

/-! ## The roster -/

namespace AudienceTracker

/-- Every known platform is a normalized id. -/
def NamesAccounts (audience : AudienceTracker) : Prop :=
  ∀ key entry, audience.roster.lookup key = some entry →
    entry.platform = [] ∨ PlatformAccount entry.platform

section NamesAccounts

variable {audience : AudienceTracker} (names : audience.NamesAccounts)
include names

theorem NamesAccounts.shrink {after : AudienceTracker}
    (kept : ∀ key entry, after.roster.lookup key = some entry →
      audience.roster.lookup key = some entry) : after.NamesAccounts :=
  fun key entry found => names key entry (kept key entry found)

theorem NamesAccounts.of_eq {after : AudienceTracker} (roster : after.roster = audience.roster) :
    after.NamesAccounts := by
  apply names.shrink
  intro key entry found
  rwa [roster] at found

/-- `Upsert` normalizes what it stores. -/
theorem NamesAccounts.upsert (playerUid : Guid) (platformUserId : Bytes)
    (playerState : Option ObjectRef) :
    (audience.upsert playerUid platformUserId playerState).NamesAccounts := by
  by_cases isNil : playerUid = .nil
  · rw [AudienceTracker.upsert, if_pos isNil]
    exact names
  intro key entry found
  rw [upsert_roster audience platformUserId isNil, KeyedTable.lookup_insert_eq] at found
  split at found
  · cases found
    simp only [upserted]
    split
    · cases held : audience.roster.lookup (formatGuid playerUid) with
      | none => exact Or.inl rfl
      | some entry => exact names _ entry held
    · exact normalizePlatformUserId_cases platformUserId
  · exact names key entry found

theorem NamesAccounts.tryBootstrapOnce (findAll : Option (List ObjectRef))
    (joinReading : ObjectRef → Option JoinReading) :
    (audience.tryBootstrapOnce findAll joinReading).NamesAccounts := by
  unfold AudienceTracker.tryBootstrapOnce
  split
  · exact names
  · cases findAll with
    | none => exact names.of_eq rfl
    | some states =>
        have marked : NamesAccounts { audience with bootstrapped := true } := names.of_eq rfl
        refine Execution.run_invariant NamesAccounts ?_ marked states
        intro audience state names
        cases tryReadJoinIdentity (joinReading state) with
        | none => exact names
        | some identity => exact names.upsert _ _ _

theorem NamesAccounts.processPendingJoin (alive : ObjectRef → Bool)
    (joinReading : ObjectRef → Option JoinReading) (item : PendingJoin) :
    (processPendingJoin alive joinReading audience item).2.NamesAccounts := by
  unfold AudienceTracker.processPendingJoin
  dsimp only
  split
  · exact names
  · split
    · split
      · exact names.upsert _ _ _
      · exact names
    · exact names

theorem NamesAccounts.processPendingJoinsLoop (alive : ObjectRef → Bool)
    (joinReading : ObjectRef → Option JoinReading) (items : List PendingJoin) :
    (processPendingJoinsLoop alive joinReading items audience).2.NamesAccounts := by
  induction items generalizing audience with
  | nil => exact names
  | cons item rest induction => exact induction (names.processPendingJoin alive joinReading item)

theorem NamesAccounts.step (operation : Operation) : (audience.step operation).NamesAccounts := by
  cases operation with
  | upsert playerUid platformUserId playerState => exact names.upsert _ _ _
  | forget playerUid => exact names.shrink fun key entry => forget_lookup audience playerUid
  | forgetMany playerUids =>
      exact names.shrink fun key entry => forgetMany_lookup audience playerUids
  | enqueueJoin weakGet playerState =>
      cases playerState with
      | none => exact names
      | some object => exact names.of_eq rfl
  | tryBootstrapOnce findAll joinReading => exact names.tryBootstrapOnce findAll joinReading
  | tick alive joinReading =>
      have swapped : NamesAccounts { audience with pendingJoins := [] } := names.of_eq rfl
      have looped := swapped.processPendingJoinsLoop alive joinReading audience.pendingJoins
      have joined : (audience.processPendingJoins alive joinReading).NamesAccounts :=
        looped.of_eq rfl
      exact joined.shrink fun key entry => pruneDead_lookup _ alive
  | snapshot alive =>
      apply names.shrink
      intro key entry found
      rw [AudienceTracker.step, snapshot_roster] at found
      exact pruneDead_lookup audience alive found

end NamesAccounts

/-- After every sequence of calls. -/
theorem namesAccounts_run (operations : List Operation) : (run operations).NamesAccounts := by
  apply Execution.run_invariant NamesAccounts
  · intro audience operation names
    exact names.step operation
  · intro key entry found
    cases found

end AudienceTracker

/-! ## The cache and the link jobs -/

namespace Mod

/-- The platform cache and every job that was ever queued hold normalized ids,
and a job is split as its id is. -/
structure NamesAccounts (mod : Mod) : Prop where
  cached : ∀ key account, mod.capture.platformByPlayerUid key = some account →
    PlatformAccount account
  queued : ∀ job, .linkJobQueued job ∈ mod.journal → PlatformAccount job.platformUserId ∧
    splitPlatformUserId job.platformUserId = some (job.platform, job.userId)

structure SameAccounts (before after : Mod) : Prop where
  cached : after.capture.platformByPlayerUid = before.capture.platformByPlayerUid
  queued : ∀ job, .linkJobQueued job ∈ after.journal → .linkJobQueued job ∈ before.journal

theorem SameAccounts.refl (mod : Mod) : SameAccounts mod mod := ⟨rfl, fun _ => id⟩

theorem SameAccounts.trans {first second third : Mod} (left : SameAccounts first second)
    (right : SameAccounts second third) : SameAccounts first third :=
  ⟨right.cached.trans left.cached, fun job member => left.queued job (right.queued job member)⟩

theorem NamesAccounts.keep {before after : Mod} (names : before.NamesAccounts)
    (same : SameAccounts before after) : after.NamesAccounts where
  cached key account found := names.cached key account (by rwa [← same.cached])
  queued job member := names.queued job (same.queued job member)

theorem queued_snoc {journal : List ModEvent} {event : ModEvent}
    (other : ∀ job, event ≠ .linkJobQueued job) (job : LinkJob)
    (member : .linkJobQueued job ∈ journal ++ [event]) : .linkJobQueued job ∈ journal := by
  rcases List.mem_append.mp member with old | new
  · exact old
  · exact absurd (List.mem_singleton.mp new).symm (other job)

section Pieces

variable (engine : Engine) (config : Config) (mod : Mod)

theorem sameAccounts_relayed (name : Bytes) (pending : PendingChatRelay) :
    SameAccounts mod (relayed mod name pending) :=
  ⟨rfl, queued_snoc nofun⟩

theorem sameAccounts_flushChatRelay (pending : PendingChatRelay) :
    SameAccounts mod (mod.flushChatRelay engine pending) := by
  rcases resolveRelayName_eq engine mod.popChatRelay pending with ⟨asked, names, equal⟩
  rw [flushChatRelay_eq, equal]
  exact ⟨rfl, queued_snoc nofun⟩

theorem sameAccounts_handleHook (context : HookContext) :
    SameAccounts mod (mod.handleHook engine config context).1 := by
  have screened : SameAccounts mod (mod.screened engine context) := by
    rcases screened_eq engine mod context with ⟨filter, audience, moment, equal, -⟩
    rw [equal]
    exact ⟨rfl, fun _ => id⟩
  rw [handleHook_eq]
  cases mod.hookBranch engine config context with
  | empty => exact .refl mod
  | setDiscord connectCode => exact ⟨rfl, fun _ => id⟩
  | muted =>
      rcases suppressMuted_eq engine (mod.screened engine context) context
        (mod.capture.readSender context) with ⟨filter, moment, inject, -, -, equal⟩
      dsimp only
      rw [equal]
      exact screened.trans ⟨rfl, fun _ => id⟩
  | filtered hit =>
      rcases suppressFiltered_eq engine config (mod.screened engine context) context
        (mod.capture.readSender context) (context.line engine.codec) hit with
        ⟨filter, moment, inject, -, -, equal⟩
      dsimp only
      rw [equal]
      unfold enqueueWebhook
      split
      · exact screened.trans ⟨rfl, fun _ => id⟩
      · exact screened.trans ⟨rfl, queued_snoc fun job equal => by cases equal⟩
  | relayed =>
      dsimp only
      rw [relayLine_eq]
      split
      · exact screened.trans (sameAccounts_relayed _ _ _)
      · exact screened.trans ⟨rfl, queued_snoc fun job equal => by cases equal⟩
  | _ => exact screened

theorem sameAccounts_deliverPopped (result : LinkResult) :
    SameAccounts mod
      (deliverLinkResult engine { mod with linkResults := mod.linkResults.tryPop.2 } result) := by
  rcases deliverLinkResult_eq engine { mod with linkResults := mod.linkResults.tryPop.2 } result
    with ⟨clients, asked, inject, -, equal⟩
  rw [equal]
  exact ⟨rfl, fun _ => id⟩

theorem resolvePlatformUserId_form (playerState : Option PlayerState) :
    (mod.resolvePlatformUserId engine playerState).1 = [] ∨
      PlatformAccount (mod.resolvePlatformUserId engine playerState).1 := by
  cases playerState with
  | none => exact Or.inl rfl
  | some state =>
      simp only [resolvePlatformUserId, ask]
      split
      · exact normalizePlatformUserId_cases state.accountName
      · cases engine.uniqueNetId mod.world.moment state.object with
        | none => exact Or.inl rfl
        | some text => exact normalizePlatformUserId_cases text

end Pieces

section Links

variable (engine : Engine) {mod : Mod} (names : mod.NamesAccounts)
include names

theorem NamesAccounts.lookupPlatform (uidKey : Bytes) (playerState : Option PlayerState) :
    ((mod.lookupPlatform engine uidKey playerState).1 = [] ∨
        PlatformAccount (mod.lookupPlatform engine uidKey playerState).1) ∧
      (mod.lookupPlatform engine uidKey playerState).2.NamesAccounts := by
  rcases resolvePlatformUserId_eq engine mod playerState with ⟨asked, equal⟩
  have read := resolvePlatformUserId_form engine mod playerState
  have kept : (mod.resolvePlatformUserId engine playerState).2.NamesAccounts := by
    rw [equal]
    exact names.keep ⟨rfl, fun _ => id⟩
  have known : (if uidKey.isEmpty then []
      else (mod.capture.platformByPlayerUid uidKey).getD []) = [] ∨
      PlatformAccount (if uidKey.isEmpty then []
        else (mod.capture.platformByPlayerUid uidKey).getD []) := by
    split
    · exact Or.inl rfl
    · cases cached : mod.capture.platformByPlayerUid uidKey with
      | none => exact Or.inl rfl
      | some account => exact Or.inr (names.cached uidKey account cached)
  simp only [Mod.lookupPlatform]
  generalize (if uidKey.isEmpty then []
    else (mod.capture.platformByPlayerUid uidKey).getD []) = cached at known ⊢
  split
  · exact ⟨known, names⟩
  · split
    · exact ⟨read, kept⟩
    · rename_i unusable
      rw [Bool.or_eq_true, not_or] at unusable
      have account := read.resolve_left (by simpa using unusable.1)
      refine ⟨read, ?_, kept.queued⟩
      intro key other found
      dsimp only at found
      split at found
      · rw [Option.some.injEq] at found
        rw [← found]
        exact account
      · exact kept.cached key other found

/-- A job is queued for an account that can be split. -/
theorem NamesAccounts.queueLinkJob (controller : ObjectRef) (playerUid : Guid)
    (connectCode : Bytes) {platformUserId : Bytes} (playerName : Bytes)
    (form : platformUserId = [] ∨ PlatformAccount platformUserId) :
    (mod.queueLinkJob controller playerUid connectCode platformUserId
      playerName).NamesAccounts := by
  unfold Mod.queueLinkJob
  split
  · exact names
  · rename_i platform userId parts
    have account : PlatformAccount platformUserId := by
      apply form.resolve_left
      rintro rfl
      cases parts
    refine ⟨names.cached, ?_⟩
    intro job member
    rcases List.mem_append.mp member with old | new
    · exact names.queued job old
    · rw [List.mem_singleton, ModEvent.linkJobQueued.injEq] at new
      rw [new]
      exact ⟨account, parts⟩

theorem NamesAccounts.processSetDiscord (controller : ObjectRef) (connectCode : Bytes) :
    (mod.processSetDiscord engine controller connectCode).NamesAccounts := by
  have named (mod : Mod) (playerState : Option PlayerState) :
      SameAccounts mod (mod.resolvePlayerNameViaPE engine playerState).2 := by
    rcases resolvePlayerNameViaPE_eq engine mod playerState with ⟨asked, equal⟩
    rw [equal]
    exact ⟨rfl, fun _ => id⟩
  have cached (mod : Mod) (uidKey name : Bytes) :
      SameAccounts mod (mod.cachePlayerName uidKey name) := by
    rcases cachePlayerName_eq mod uidKey name with ⟨names, equal⟩
    rw [equal]
    exact ⟨rfl, fun _ => id⟩
  have remembered (mod : Mod) (playerUid : Guid) (platformUserId : Bytes)
      (playerState : Option PlayerState) :
      SameAccounts mod (mod.rememberRequester playerUid platformUserId playerState) := by
    rcases rememberRequester_eq mod playerUid platformUserId playerState with ⟨audience, equal⟩
    rw [equal]
    exact ⟨rfl, fun _ => id⟩
  have requested (mod : Mod) (names : mod.NamesAccounts) (uidKey : Bytes) (playerUid : Guid)
      (playerState : Option PlayerState) (playerName : Bytes) :
      (((mod.lookupPlatform engine uidKey playerState).2.rememberRequester playerUid
        (mod.lookupPlatform engine uidKey playerState).1 playerState).queueLinkJob controller
          playerUid connectCode (mod.lookupPlatform engine uidKey playerState).1
          playerName).NamesAccounts := by
    have looked := names.lookupPlatform engine uidKey playerState
    exact (looked.2.keep (remembered _ _ _ _)).queueLinkJob _ _ _ _ looked.1
  unfold Mod.processSetDiscord
  apply requested
  refine NamesAccounts.keep ?_ (cached _ _ _)
  refine NamesAccounts.keep ?_ (named _ _)
  exact names.keep ⟨rfl, fun _ => id⟩

theorem NamesAccounts.flushSetDiscord (pending : PendingSetDiscord) :
    (mod.flushSetDiscord engine pending).NamesAccounts := by
  unfold Mod.flushSetDiscord
  dsimp only [ask]
  cases (safeWeakGet engine mod.world.moment pending.controller).1 with
  | none => exact names.keep ⟨rfl, fun _ => id⟩
  | some controller =>
      apply NamesAccounts.processSetDiscord
      exact names.keep ⟨rfl, fun _ => id⟩

theorem NamesAccounts.onUpdate (config : Config) :
    (mod.onUpdate engine config).NamesAccounts := by
  have linked : (mod.capture.pendingSetDiscord.items.foldl
      (Mod.flushSetDiscord engine) mod).NamesAccounts :=
    Execution.run_invariant NamesAccounts
      (fun _ pending names => names.flushSetDiscord engine pending) names _
  have flushed : (mod.flushDeferred engine).NamesAccounts :=
    linked.keep (Execution.run_relation SameAccounts .refl .trans
      (sameAccounts_flushChatRelay engine) _)
  have ticked : ((mod.flushDeferred engine).audienceTick engine).NamesAccounts :=
    flushed.keep ⟨rfl, fun _ => id⟩
  have delivered : (((mod.flushDeferred engine).audienceTick engine).deliverLinkResults
      engine).NamesAccounts :=
    ticked.keep (Execution.run_relation SameAccounts .refl .trans
      (sameAccounts_deliverPopped engine) _)
  exact delivered.keep ⟨rfl, fun _ => id⟩

end Links

end Mod

/-! ## Runs -/

namespace World

variable (engine : Engine) (config : Config)

theorem namesAccounts_step {world : World} (names : world.mod.NamesAccounts)
    (input : WorldInput) : (world.step engine config input).mod.NamesAccounts := by
  cases input with
  | hook context => exact names.keep (Mod.sameAccounts_handleHook engine config world.mod context)
  | update => exact names.onUpdate engine config
  | join playerState => exact names.keep ⟨rfl, fun _ => id⟩
  | worker input => exact names.keep ⟨rfl, fun _ => id⟩
  | remote action => exact names
  | webhookPopped => exact names.keep ⟨rfl, fun _ => id⟩

variable (compile : RegexCompiler) (startedAt : Nanoseconds) (players : List PlayerRow)
  (inputs : List WorldInput)

theorem namesAccounts_run :
    (run engine config (initial compile config startedAt players) inputs).mod.NamesAccounts := by
  apply Execution.run_invariant (fun world : World => world.mod.NamesAccounts)
  · intro world input names
    exact namesAccounts_step engine config names input
  · exact ⟨nofun, nofun⟩

theorem namesAccounts_roster :
    (run engine config (initial compile config startedAt players)
      inputs).mod.world.audience.NamesAccounts := by
  rcases run_roster engine config compile startedAt players inputs with ⟨operations, equal⟩
  rw [equal]
  exact AudienceTracker.namesAccounts_run operations

end World

/-- Platform ids are normalized to one form, which every other place relies on,
and the places of a running mod that keep accounts keep that form. -/
theorem platformUserId_canonical :
    (∀ raw, NormalizesId raw) ∧ (∀ digits, OneSteamSpelling digits) ∧
      ∀ (engine : Engine) (config : Config) (compile : RegexCompiler) (startedAt : Nanoseconds)
        (players : List PlayerRow) (inputs : List WorldInput),
        (World.run engine config (.initial compile config startedAt players)
            inputs).mod.NamesAccounts ∧
          (World.run engine config (.initial compile config startedAt players)
            inputs).mod.world.audience.NamesAccounts := by
  refine ⟨normalizesId, oneSteamSpelling, ?_⟩
  intro engine config compile startedAt players inputs
  exact ⟨World.namesAccounts_run engine config compile startedAt players inputs,
    World.namesAccounts_roster engine config compile startedAt players inputs⟩

end PalCrosschat
