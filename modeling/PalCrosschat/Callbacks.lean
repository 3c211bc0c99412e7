import PalCrosschat.ChatCapture
import PalCrosschat.Foundation.Execution
import PalCrosschat.InjectSteps

/-! # What the callbacks of the game thread change

One lemma for each part of `on_update`. What a lemma does not mention stays as it
was, so the theorems about runs never look inside these functions again. -/

namespace PalCrosschat

structure CleanName (name : Bytes) : Prop where
  nonempty : name ≠ []
  short : name.length ≤ 64
  noControl : ∀ byte ∈ name, Bytes.isControl byte = false

theorem cleanName_sanitize {text : Bytes} (nonempty : sanitizeMessage text 64 ≠ []) :
    CleanName (sanitizeMessage text 64) where
  nonempty := nonempty
  short := sanitizeMessage_length_le text 64
  noControl _ member := not_isControl_of_mem_sanitize member

theorem cleanName_unknown : CleanName (Bytes.ascii "Unknown") where
  nonempty := by decide
  short := by decide
  noControl byte member := by
    have allKept : (Bytes.ascii "Unknown").all (fun byte => !Bytes.isControl byte) = true := by
      decide
    simpa using List.all_eq_true.mp allKept byte member

theorem cleanName_cleanSenderName (senderName : Bytes) :
    CleanName (ChatInject.cleanSenderName senderName) := by
  simp only [ChatInject.cleanSenderName]
  split
  · exact cleanName_unknown
  · rename_i nonempty
    exact cleanName_sanitize (by simpa using nonempty)

def CacheGrows (before after : ChatCapture) : Prop :=
  ∀ key name, after.nameByPlayerUid key = some name →
    before.nameByPlayerUid key = some name ∨ CleanName name

theorem CacheGrows.trans {first second third : ChatCapture}
    (left : CacheGrows first second) (right : CacheGrows second third) :
    CacheGrows first third := by
  intro key name cached
  rcases right key name cached with older | clean
  · exact left key name older
  · exact .inr clean

theorem CacheGrows.of_eq {before after : ChatCapture}
    (equal : after.nameByPlayerUid = before.nameByPlayerUid) : CacheGrows before after := by
  intro key name cached
  rw [equal] at cached
  exact .inl cached

theorem CacheGrows.cachePlayerName (capture : ChatCapture) (uidKey : Bytes) {name : Bytes}
    (clean : CleanName name) : CacheGrows capture (capture.cachePlayerName uidKey name) := by
  intro key other cached
  unfold ChatCapture.cachePlayerName at cached
  split at cached
  · exact .inl cached
  · change (if key = uidKey then some name else _) = some other at cached
    split at cached
    · cases cached
      exact .inr clean
    · exact .inl cached

def CleanCache (capture : ChatCapture) : Prop :=
  ∀ key name, capture.nameByPlayerUid key = some name → CleanName name

theorem CleanCache.grow {before after : ChatCapture} (clean : CleanCache before)
    (grows : CacheGrows before after) : CleanCache after := by
  intro key name cached
  exact (grows key name cached).elim (clean key name) id

theorem CleanCache.lookup {capture : ChatCapture} (clean : CleanCache capture)
    {uidKey : Bytes} (found : capture.lookupCachedPlayerName uidKey ≠ []) :
    CleanName (capture.lookupCachedPlayerName uidKey) := by
  unfold ChatCapture.lookupCachedPlayerName at found ⊢
  split at found
  · exact absurd rfl found
  · rename_i hasKey
    rw [if_neg hasKey]
    cases cached : capture.nameByPlayerUid uidKey with
    | none => simp [cached] at found
    | some name => exact clean uidKey name cached

namespace Mod

/-! ## What the pieces of a tick touch -/

section Pieces

variable (engine : Engine) (mod : Mod)

theorem resolvePlayerNameViaPE_eq (playerState : Option PlayerState) :
    ∃ asked, (mod.resolvePlayerNameViaPE engine playerState).2 =
      { mod with world := { mod.world with moment := mod.world.moment + asked } } := by
  cases playerState with
  | none => exact ⟨0, rfl⟩
  | some state =>
      refine ⟨1, ?_⟩
      simp only [resolvePlayerNameViaPE, ask]
      cases engine.getPlayerName mod.world.moment state.object <;> rfl

theorem resolvePlatformUserId_eq (playerState : Option PlayerState) :
    ∃ asked, (mod.resolvePlatformUserId engine playerState).2 =
      { mod with world := { mod.world with moment := mod.world.moment + asked } } := by
  cases playerState with
  | none => exact ⟨0, rfl⟩
  | some state =>
      simp only [resolvePlatformUserId, ask]
      cases (normalizePlatformUserId state.accountName).isEmpty with
      | false => exact ⟨0, rfl⟩
      | true =>
          refine ⟨1, ?_⟩
          cases engine.uniqueNetId mod.world.moment state.object <;> rfl

theorem lookupPlatform_eq (uidKey : Bytes) (playerState : Option PlayerState) :
    ∃ asked platforms, (mod.lookupPlatform engine uidKey playerState).2 =
      { mod with
        capture := { mod.capture with platformByPlayerUid := platforms }
        world := { mod.world with moment := mod.world.moment + asked } } := by
  rcases resolvePlatformUserId_eq engine mod playerState with ⟨asked, resolved⟩
  simp only [lookupPlatform]
  generalize (if uidKey.isEmpty then []
    else (mod.capture.platformByPlayerUid uidKey).getD []) = cached
  split
  · exact ⟨0, mod.capture.platformByPlayerUid, rfl⟩
  · split
    · exact ⟨asked, mod.capture.platformByPlayerUid, resolved⟩
    · rw [resolved]
      exact ⟨asked, _, rfl⟩

theorem rememberRequester_eq (playerUid : Guid) (platformUserId : Bytes)
    (playerState : Option PlayerState) :
    ∃ audience, mod.rememberRequester playerUid platformUserId playerState =
      { mod with world := { mod.world with audience } } := by
  unfold rememberRequester
  split
  · exact ⟨mod.world.audience, rfl⟩
  · exact ⟨_, rfl⟩

theorem cachePlayerName_eq (uidKey name : Bytes) :
    ∃ names, mod.cachePlayerName uidKey name =
      { mod with capture := { mod.capture with nameByPlayerUid := names } } := by
  unfold cachePlayerName ChatCapture.cachePlayerName
  split
  · exact ⟨mod.capture.nameByPlayerUid, rfl⟩
  · exact ⟨_, rfl⟩

theorem nameRelay_eq (pending : PendingChatRelay) (resolved : Bytes) :
    ∃ names, (mod.nameRelay pending resolved).2 =
      { mod with capture := { mod.capture with nameByPlayerUid := names } } := by
  have chosen : ∀ name : Bytes, ∃ names,
      (if name.isEmpty then (Bytes.ascii "Unknown", mod)
        else (name, mod.cachePlayerName pending.senderId name)).2 =
        { mod with capture := { mod.capture with nameByPlayerUid := names } } := by
    intro name
    split
    · exact ⟨mod.capture.nameByPlayerUid, rfl⟩
    · exact cachePlayerName_eq mod _ _
  exact chosen _

theorem resolveRelayName_eq (pending : PendingChatRelay) :
    ∃ asked names, (mod.resolveRelayName engine pending).2 =
      { mod with
        capture := { mod.capture with nameByPlayerUid := names }
        world := { mod.world with moment := mod.world.moment + asked } } := by
  unfold resolveRelayName
  dsimp only [ask]
  generalize (safeWeakGet engine mod.world.moment pending.controller).1.bind
    (engine.playerState (mod.world.moment + 1)) = playerState
  rcases resolvePlayerNameViaPE_eq engine
    { mod with world := { mod.world with moment := mod.world.moment + 1 + 1 } } playerState with
    ⟨asked, resolved⟩
  rw [resolved]
  rcases nameRelay_eq { mod with
    world := { mod.world with moment := mod.world.moment + 1 + 1 + asked } } pending
    (resolvePlayerNameViaPE engine { mod with
      world := { mod.world with moment := mod.world.moment + 1 + 1 } } playerState).1 with
    ⟨names, named⟩
  rw [named]
  exact ⟨2 + asked, names, by rw [← Nat.add_assoc]⟩

theorem deliverLinkResult_eq (result : LinkResult) :
    ∃ clients asked inject, mod.world.inject.AppendsNotices inject ∧
      mod.deliverLinkResult engine result =
        { mod with
          capture := { mod.capture with linkClients := clients }
          world := { mod.world with inject, moment := mod.world.moment + asked } } := by
  unfold deliverLinkResult
  split
  · exact ⟨mod.capture.linkClients, 0, mod.world.inject, .refl _, rfl⟩
  · dsimp only
    split
    · exact ⟨mod.capture.linkClients, 0, mod.world.inject, .refl _, rfl⟩
    · split
      · exact ⟨_, 0, _, .enqueuePrivateChat _ _ _, rfl⟩
      · exact ⟨_, 1, _, .enqueueScreenLog _ _ _, rfl⟩

end Pieces

/-! ## `!setdiscord` work -/

/-- What processing a `!setdiscord` may change of the parts that matter to chat:
the name cache grows and link jobs are queued. -/
structure LinkStep (before after : Mod) : Prop where
  filter : after.filter = before.filter
  pending : after.capture.pendingChatRelays = before.capture.pendingChatRelays
  names : CacheGrows before.capture after.capture
  inject : after.world.inject = before.world.inject
  inbound : after.world.inbound = before.world.inbound
  outbound : after.outbound = before.outbound
  linkResults : after.linkResults = before.linkResults
  webhook : after.webhook = before.webhook
  journal : ∃ added, after.journal = before.journal ++ added ∧
    ∀ event ∈ added, ∃ job, event = .linkJobQueued job

theorem LinkStep.refl (mod : Mod) : LinkStep mod mod :=
  ⟨rfl, rfl, .of_eq rfl, rfl, rfl, rfl, rfl, rfl, [], by simp, by simp⟩

theorem LinkStep.trans {first second third : Mod} (left : LinkStep first second)
    (right : LinkStep second third) : LinkStep first third where
  filter := right.filter.trans left.filter
  pending := right.pending.trans left.pending
  names := left.names.trans right.names
  inject := right.inject.trans left.inject
  inbound := right.inbound.trans left.inbound
  outbound := right.outbound.trans left.outbound
  linkResults := right.linkResults.trans left.linkResults
  webhook := right.webhook.trans left.webhook
  journal := by
    rcases left.journal with ⟨leftAdded, leftJournal, leftJobs⟩
    rcases right.journal with ⟨rightAdded, rightJournal, rightJobs⟩
    refine ⟨leftAdded ++ rightAdded, ?_, ?_⟩
    · rw [rightJournal, leftJournal, List.append_assoc]
    · intro event member
      rcases List.mem_append.mp member with inLeft | inRight
      · exact leftJobs event inLeft
      · exact rightJobs event inRight

/-- A change of the clock and of the capture's other maps. -/
theorem LinkStep.capture (mod : Mod) (capture : ChatCapture) (moment : Nat)
    (audience : AudienceTracker)
    (pending : capture.pendingChatRelays = mod.capture.pendingChatRelays)
    (names : CacheGrows mod.capture capture) :
    LinkStep mod { mod with capture, world := { mod.world with moment, audience } } :=
  ⟨rfl, pending, names, rfl, rfl, rfl, rfl, rfl, [], by simp, by simp⟩

variable (engine : Engine) (mod : Mod)

theorem LinkStep.ask {α : Type} (question : Nat → α) : LinkStep mod (mod.ask question).2 :=
  .capture mod mod.capture _ mod.world.audience rfl (.of_eq rfl)

theorem resolvePlayerNameViaPE_linkStep (playerState : Option PlayerState) :
    LinkStep mod (mod.resolvePlayerNameViaPE engine playerState).2 := by
  rcases resolvePlayerNameViaPE_eq engine mod playerState with ⟨asked, equal⟩
  rw [equal]
  exact .capture mod mod.capture _ mod.world.audience rfl (.of_eq rfl)

theorem lookupPlatform_linkStep (uidKey : Bytes) (playerState : Option PlayerState) :
    LinkStep mod (mod.lookupPlatform engine uidKey playerState).2 := by
  rcases lookupPlatform_eq engine mod uidKey playerState with ⟨asked, platforms, equal⟩
  rw [equal]
  exact .capture mod _ _ mod.world.audience rfl (.of_eq rfl)

theorem cachePlayerName_linkStep (uidKey : Bytes) {name : Bytes} (clean : CleanName name) :
    LinkStep mod (mod.cachePlayerName uidKey name) := by
  refine .capture mod _ mod.world.moment mod.world.audience ?_
    (.cachePlayerName mod.capture uidKey clean)
  unfold ChatCapture.cachePlayerName
  split <;> rfl

theorem rememberRequester_linkStep (playerUid : Guid) (platformUserId : Bytes)
    (playerState : Option PlayerState) :
    LinkStep mod (mod.rememberRequester playerUid platformUserId playerState) := by
  rcases rememberRequester_eq mod playerUid platformUserId playerState with ⟨audience, equal⟩
  rw [equal]
  exact .capture mod mod.capture mod.world.moment audience rfl (.of_eq rfl)

theorem queueLinkJob_linkStep (controller : ObjectRef) (playerUid : Guid)
    (connectCode platformUserId playerName : Bytes) :
    LinkStep mod (mod.queueLinkJob controller playerUid connectCode platformUserId
      playerName) := by
  unfold queueLinkJob
  split
  · exact .refl mod
  · exact ⟨rfl, rfl, .of_eq rfl, rfl, rfl, rfl, rfl, rfl, [.linkJobQueued _], rfl, by simp⟩

theorem processSetDiscord_linkStep (controller : ObjectRef) (connectCode : Bytes) :
    LinkStep mod (mod.processSetDiscord engine controller connectCode) := by
  refine .trans ?_ (queueLinkJob_linkStep _ _ _ _ _ _)
  refine .trans ?_ (rememberRequester_linkStep _ _ _ _)
  refine .trans ?_ (lookupPlatform_linkStep engine _ _ _)
  refine .trans ?_ (cachePlayerName_linkStep _ _ (cleanName_cleanSenderName _))
  refine .trans ?_ (resolvePlayerNameViaPE_linkStep engine _ _)
  exact .ask mod fun moment => engine.playerState moment controller

theorem flushSetDiscord_linkStep (pending : PendingSetDiscord) :
    LinkStep mod (mod.flushSetDiscord engine pending) := by
  have popped : LinkStep mod { mod with capture := { mod.capture with
      pendingSetDiscord := mod.capture.pendingSetDiscord.pop } } :=
    .capture mod _ mod.world.moment mod.world.audience rfl (.of_eq rfl)
  unfold flushSetDiscord
  dsimp only [ask]
  cases (safeWeakGet engine mod.world.moment pending.controller).1 with
  | none => exact popped.trans (.ask _ id)
  | some controller =>
      exact (popped.trans (.ask _ id)).trans (processSetDiscord_linkStep engine _ _ _)

/-- The first loop of `FlushDeferred`. -/
theorem flushSetDiscords_linkStep (items : List PendingSetDiscord) :
    LinkStep mod (items.foldl (flushSetDiscord engine) mod) :=
  Execution.run_relation LinkStep .refl .trans (flushSetDiscord_linkStep engine) items

/-! ## Relays -/

def relayed (mod : Mod) (name : Bytes) (pending : PendingChatRelay) : Mod :=
  { mod with
    world := { mod.world with
      inject :=
        if pending.localTag then
          mod.world.inject.enqueueLocalTagged name pending.guildName pending.message
            pending.category pending.senderUid
        else mod.world.inject }
    outbound := mod.outbound.push
      { senderName := name
        senderId := pending.senderId
        guildName := pending.guildName
        message := pending.message }
    journal := mod.journal ++ [.outboundPushed
      { senderName := name
        senderId := pending.senderId
        guildName := pending.guildName
        message := pending.message }] }

theorem nameRelay_spec (pending : PendingChatRelay) (resolved : Bytes)
    (clean : CleanCache mod.capture) :
    CleanName (mod.nameRelay pending resolved).1 ∧
      LinkStep mod (mod.nameRelay pending resolved).2 := by
  have named : ∀ name : Bytes, (name ≠ [] → CleanName name) →
      CleanName (if name.isEmpty then (Bytes.ascii "Unknown", mod)
        else (name, mod.cachePlayerName pending.senderId name)).1 ∧
      LinkStep mod (if name.isEmpty then (Bytes.ascii "Unknown", mod)
        else (name, mod.cachePlayerName pending.senderId name)).2 := by
    intro name cleanName
    split
    · exact ⟨cleanName_unknown, .refl mod⟩
    · rename_i nonempty
      have isClean := cleanName (by simpa using nonempty)
      exact ⟨isClean, cachePlayerName_linkStep mod _ isClean⟩
  apply named
  split
  · exact clean.lookup
  · exact cleanName_sanitize

theorem resolveRelayName_spec (pending : PendingChatRelay)
    (clean : CleanCache mod.capture) :
    CleanName (mod.resolveRelayName engine pending).1 ∧
      LinkStep mod (mod.resolveRelayName engine pending).2 := by
  have asked := (LinkStep.ask mod fun moment =>
    safeWeakGet engine moment pending.controller).trans (.ask _ fun moment =>
      (safeWeakGet engine mod.world.moment pending.controller).1.bind
        (engine.playerState moment))
  have resolved := asked.trans (resolvePlayerNameViaPE_linkStep engine _
    ((safeWeakGet engine mod.world.moment pending.controller).1.bind
      (engine.playerState (mod.world.moment + 1))))
  have tail := fun text => nameRelay_spec _ pending text (clean.grow resolved.names)
  exact ⟨(tail _).1, resolved.trans (tail _).2⟩

structure NameStep (before after : Mod) : Prop where
  pending : after.capture.pendingChatRelays = before.capture.pendingChatRelays
  inject : after.world.inject = before.world.inject
  journal : after.journal = before.journal

theorem resolveRelayName_nameStep (pending : PendingChatRelay) :
    NameStep mod (mod.resolveRelayName engine pending).2 := by
  rcases resolveRelayName_eq engine mod pending with ⟨asked, names, equal⟩
  rw [equal]
  exact ⟨rfl, rfl, rfl⟩

theorem flushChatRelay_eq (pending : PendingChatRelay) :
    mod.flushChatRelay engine pending =
      relayed (mod.popChatRelay.resolveRelayName engine pending).2
        (mod.popChatRelay.resolveRelayName engine pending).1 pending := by
  unfold flushChatRelay relayed
  dsimp only
  split <;> simp [pushOutbound, updateInject]

/-- The direct path sends the same line under the name known in the hook. -/
theorem relayLine_eq (config : Config) (context : HookContext) (sender : Sender)
    (message : Bytes) :
    mod.relayLine config context sender message =
      if sender.haveDisplayName then
        relayed mod sender.name (pendingRelay config context sender message)
      else mod.deferRelay (pendingRelay config context sender message) := by
  unfold relayLine relayed pendingRelay
  cases sender.haveDisplayName with
  | false => rfl
  | true => cases localTag config context <;> rfl

/-! ## Link results -/

structure NoticeStep (before after : Mod) : Prop where
  filter : after.filter = before.filter
  pending : after.capture.pendingChatRelays = before.capture.pendingChatRelays
  names : after.capture.nameByPlayerUid = before.capture.nameByPlayerUid
  notices : before.world.inject.AppendsNotices after.world.inject
  inbound : after.world.inbound = before.world.inbound
  outbound : after.outbound = before.outbound
  linkJobs : after.linkJobs = before.linkJobs
  webhook : after.webhook = before.webhook
  journal : after.journal = before.journal

theorem NoticeStep.refl (mod : Mod) : NoticeStep mod mod :=
  ⟨rfl, rfl, rfl, .refl _, rfl, rfl, rfl, rfl, rfl⟩

theorem NoticeStep.trans {first second third : Mod} (left : NoticeStep first second)
    (right : NoticeStep second third) : NoticeStep first third where
  filter := right.filter.trans left.filter
  pending := right.pending.trans left.pending
  names := right.names.trans left.names
  notices := left.notices.trans right.notices
  inbound := right.inbound.trans left.inbound
  outbound := right.outbound.trans left.outbound
  linkJobs := right.linkJobs.trans left.linkJobs
  webhook := right.webhook.trans left.webhook
  journal := right.journal.trans left.journal

theorem deliverLinkResult_noticeStep (result : LinkResult) :
    NoticeStep mod (mod.deliverLinkResult engine result) := by
  rcases deliverLinkResult_eq engine mod result with ⟨clients, asked, inject, notices, equal⟩
  rw [equal]
  exact ⟨rfl, rfl, rfl, notices, rfl, rfl, rfl, rfl, rfl⟩

theorem deliverLinkResults_noticeStep :
    NoticeStep mod (mod.deliverLinkResults engine) := by
  refine Execution.run_relation NoticeStep .refl .trans ?_ mod.linkResults.items
  intro mod result
  have popped : NoticeStep mod { mod with linkResults := mod.linkResults.tryPop.2 } :=
    ⟨rfl, rfl, rfl, .refl _, rfl, rfl, rfl, rfl, rfl⟩
  exact popped.trans (deliverLinkResult_noticeStep engine _ result)

theorem audienceTick_eq : ∃ audience moment,
    mod.audienceTick engine = { mod with world := { mod.world with audience, moment } } :=
  ⟨_, _, rfl⟩

/-- The inject part of `on_update` touches nothing but the inject world. -/
theorem drainInject_eq (config : Config) :
    ∃ world, ChatInject.Ticked engine mod.world world ∧
      mod.drainInject engine config = { mod with world } :=
  ⟨_, ChatInject.drain_spec engine config mod.filter config.maxBroadcastsPerTick mod.world,
    rfl⟩

end Mod

end PalCrosschat
