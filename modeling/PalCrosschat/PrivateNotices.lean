import PalCrosschat.AccountRuns
import PalCrosschat.CallSources
import PalCrosschat.InjectTraffic
import PalCrosschat.LinkReplies
import PalCrosschat.MuteSteps
import PalCrosschat.RelaySoundness

/-! # Private notices

A mute banner is for the player whose line was blocked, and the answer to `!setdiscord` for
the player who typed it. Both wait in the deferred deque with nothing but an address; here
every address is traced back to the player it stands for, and with it every call the engine
ever gets. -/

namespace PalCrosschat

/-! ## What the engine says about a player -/

namespace Engine

variable (engine : Engine)

def uidOf (moment : Nat) (controller : ObjectRef) : Guid :=
  ((engine.playerState moment controller).bind (·.playerUId)).getD .nil

/-- The account was read through a controller: its `AccountName`, or its unique net id. -/
def AccountRead (moment : Nat) (controller : ObjectRef) (account : Bytes) : Prop :=
  ∃ state, engine.playerState moment controller = some state ∧
    (account = normalizePlatformUserId state.accountName ∨
      ∃ later text, engine.uniqueNetId later state.object = some text ∧
        account = normalizePlatformUserId text)

/-- The account of the player of a controller, read through it or, at another time, through
a controller of a player with the same uid. -/
def OwnAccount (moment : Nat) (controller : ObjectRef) (account : Bytes) : Prop :=
  engine.AccountRead moment controller account ∨
    engine.uidOf moment controller ≠ .nil ∧ ∃ other time,
      engine.uidOf time other = engine.uidOf moment controller ∧
        engine.AccountRead time other account

end Engine

/-- What the player of a blocked line is told: how long its mute lasts, by the third look at
the clock, or which pattern was hit. -/
def Mod.TellsMute (engine : Engine) (config : Config) (mod : Mod) (context : HookContext)
    (banner : Bytes) : Prop :=
  mod.hookBranch engine config context = .muted ∧ mod.warns engine context = true ∧
      banner = activeMuteBanner mod.filter
        (mod.filter.muteRemainingSeconds context.muteKey (mod.reading engine 2)).1 ∨
    ∃ hit, mod.hookBranch engine config context = .filtered hit ∧
      banner = initialMuteBanner mod.filter hit

/-- The call tells a text to one player: as a private message to its uid, or in the log of
its controller. A message without memory for its receiver goes to everybody. -/
inductive EngineCall.Tells (engine : Engine) (moment : Nat) (uid : Guid)
    (controller : Option ObjectRef) (text : Bytes) : EngineCall → Prop
  | chat (chat : PalChatMessage) (hasUid : uid ≠ .nil)
      (shows : ChatInject.DisplayCall.Shows engine moment chatCategoryGlobal
        ⟨Bytes.ascii "PalCrosschat", text, [uid], none⟩ chat)
      (only : chat.receiverPlayerUIds = [uid] ∨
        chat.receiverPlayerUIds = [] ∧ engine.AllocationFailed moment) :
      Tells engine moment uid controller text (.broadcastChatMessage chat)
  | log (object : ObjectRef) (message : WideText) (own : controller = some object)
      (writes : engine.Writes moment (sanitizeNotice text 512) message) :
      Tells engine moment uid controller text (.sendScreenLogToClient object message)

/-! ## What happened in a run -/

namespace World

section History

variable (engine : Engine) (config : Config) (start : World) (inputs : List WorldInput)

def HookCalled (mod : Mod) (context : HookContext) : Prop :=
  ∃ past rest, inputs = past ++ .hook context :: rest ∧ (run engine config start past).mod = mod

/-- A `!setdiscord` of this controller was accepted. -/
def AskedToLink (controller : ObjectRef) : Prop :=
  ∃ mod context code, HookCalled engine config start inputs mod context ∧
    mod.hookBranch engine config context = .setDiscord code ∧
    context.controller = some controller

def Requester (account : Bytes) (client : LinkClient) : Prop :=
  ∃ controller moment, client.controller = some controller ∧
    AskedToLink engine config start inputs controller ∧
    client.playerUid = engine.uidOf moment controller ∧
    engine.OwnAccount moment controller account

/-- Why a player is told a text; the player is given by its uid and its controller. -/
inductive Concerns (answers : List (LinkJob × Bytes)) :
    Guid → Option ObjectRef → Bytes → Prop
  /-- A line of the player was blocked. -/
  | banner (mod : Mod) (context : HookContext) (text : Bytes)
      (called : HookCalled engine config start inputs mod context)
      (tells : mod.TellsMute engine config context text) :
      Concerns answers (mod.capture.readSender context).uid context.controller text
  /-- The player asked for a link, and a job for its account was answered. -/
  | answer (client : LinkClient) (job : LinkJob) (notice : Bytes)
      (requester : Requester engine config start inputs job.platformUserId client)
      (answered : (job, notice) ∈ answers) :
      Concerns answers client.playerUid client.controller notice

def Notifies (answers : List (LinkJob × Bytes)) (action : DeferredAction) : Prop :=
  ∃ uid controller text, Concerns engine config start inputs answers uid controller text ∧
    action ∈ Mod.privateChat uid text ++ Mod.screenLog controller text

end History

section Later

variable {engine : Engine} {config : Config} {start : World} {inputs : List WorldInput}
  (more : List WorldInput)

theorem HookCalled.later {mod : Mod} {context : HookContext}
    (called : HookCalled engine config start inputs mod context) :
    HookCalled engine config start (inputs ++ more) mod context := by
  rcases called with ⟨past, rest, split, reached⟩
  exact ⟨past, rest ++ more, by rw [split, List.append_assoc, List.cons_append], reached⟩

theorem AskedToLink.later {controller : ObjectRef}
    (asked : AskedToLink engine config start inputs controller) :
    AskedToLink engine config start (inputs ++ more) controller := by
  rcases asked with ⟨mod, context, code, called, branch, typed⟩
  exact ⟨mod, context, code, called.later more, branch, typed⟩

theorem Requester.later {account : Bytes} {client : LinkClient}
    (requester : Requester engine config start inputs account client) :
    Requester engine config start (inputs ++ more) account client := by
  rcases requester with ⟨controller, moment, held, asked, uid, own⟩
  exact ⟨controller, moment, held, asked.later more, uid, own⟩

theorem Concerns.later {answers : List (LinkJob × Bytes)} {uid : Guid}
    {controller : Option ObjectRef} {text : Bytes}
    (concerns : Concerns engine config start inputs answers uid controller text)
    (added : List (LinkJob × Bytes)) :
    Concerns engine config start (inputs ++ more) (answers ++ added) uid controller text := by
  cases concerns with
  | banner mod context text called tells =>
      exact .banner mod context text (called.later more) tells
  | answer client job _ requester answered =>
      exact .answer client job text (requester.later more) (List.mem_append_left _ answered)

theorem Notifies.later {answers : List (LinkJob × Bytes)} {action : DeferredAction}
    (notifies : Notifies engine config start inputs answers action)
    (added : List (LinkJob × Bytes)) :
    Notifies engine config start (inputs ++ more) (answers ++ added) action := by
  rcases notifies with ⟨uid, controller, text, concerns, sent⟩
  exact ⟨uid, controller, text, concerns.later more added, sent⟩

end Later

end World

/-! ## The game thread -/

namespace Mod

section Addressed

variable (engine : Engine) (config : Config) (start : World) (inputs : List WorldInput)
  (answers : List (LinkJob × Bytes))

structure Addressed (mod : Mod) : Prop where
  pending : ∀ pending ∈ mod.capture.pendingSetDiscord.items, ∀ controller,
    pending.controller = some controller →
      World.AskedToLink engine config start inputs controller
  cached : ∀ key account, mod.capture.platformByPlayerUid key = some account →
    ∃ controller moment, key = formatGuid (engine.uidOf moment controller) ∧
      engine.AccountRead moment controller account
  clients : ∀ account client, mod.capture.linkClients account = some client →
    World.Requester engine config start inputs account client
  results : ∀ result ∈ mod.linkResults.items, ∃ job,
    (job, result.notice) ∈ answers ∧ job.platformUserId = result.platformUserId
  enqueued : ∀ action, .enqueued action ∈ mod.world.inject.journal →
    action.kind = .localTagged ∨ World.Notifies engine config start inputs answers action

structure AddressesNothing (before after : Mod) : Prop where
  pending : ∀ pending ∈ after.capture.pendingSetDiscord.items,
    pending ∈ before.capture.pendingSetDiscord.items
  cached : after.capture.platformByPlayerUid = before.capture.platformByPlayerUid
  clients : after.capture.linkClients = before.capture.linkClients
  results : ∀ result ∈ after.linkResults.items, result ∈ before.linkResults.items
  enqueued : ∀ action, .enqueued action ∈ after.world.inject.journal →
    .enqueued action ∈ before.world.inject.journal ∨ action.kind = .localTagged

end Addressed

namespace AddressesNothing

theorem refl (mod : Mod) : AddressesNothing mod mod :=
  ⟨fun _ => id, rfl, rfl, fun _ => id, fun _ => .inl⟩

theorem trans {first second third : Mod} (left : AddressesNothing first second)
    (right : AddressesNothing second third) : AddressesNothing first third where
  pending pending member := left.pending pending (right.pending pending member)
  cached := right.cached.trans left.cached
  clients := right.clients.trans left.clients
  results result member := left.results result (right.results result member)
  enqueued action member := by
    rcases right.enqueued action member with earlier | line
    · exact left.enqueued action earlier
    · exact .inr line

end AddressesNothing

section Steps

variable {engine : Engine} {config : Config} {start : World} {inputs : List WorldInput}
  {answers : List (LinkJob × Bytes)} {mod : Mod}

theorem Addressed.keep {after : Mod} (addressed : mod.Addressed engine config start inputs answers)
    (nothing : AddressesNothing mod after) :
    after.Addressed engine config start inputs answers where
  pending pending member := addressed.pending pending (nothing.pending pending member)
  cached key account found := addressed.cached key account (nothing.cached ▸ found)
  clients account client found := addressed.clients account client (nothing.clients ▸ found)
  results result member := addressed.results result (nothing.results result member)
  enqueued action member := by
    rcases nothing.enqueued action member with earlier | line
    · exact addressed.enqueued action earlier
    · exact .inl line

theorem Addressed.later (addressed : mod.Addressed engine config start inputs answers)
    (more : List WorldInput) (added : List (LinkJob × Bytes)) :
    mod.Addressed engine config start (inputs ++ more) (answers ++ added) where
  pending pending member controller held :=
    (addressed.pending pending member controller held).later more
  cached := addressed.cached
  clients account client found := (addressed.clients account client found).later more
  results result member := by
    rcases addressed.results result member with ⟨job, answered, same⟩
    exact ⟨job, List.mem_append_left _ answered, same⟩
  enqueued action member :=
    (addressed.enqueued action member).imp_right fun notifies => notifies.later more added

theorem mem_enqueueAll {inject : ChatInject} {actions : List DeferredAction}
    {action : DeferredAction} (member : .enqueued action ∈ (inject.enqueueAll actions).journal) :
    .enqueued action ∈ inject.journal ∨ action ∈ actions := by
  rw [ChatInject.enqueueAll_eq] at member
  rcases List.mem_append.mp member with old | new
  · exact .inl old
  · rcases List.mem_map.mp new with ⟨other, inActions, same⟩
    cases same
    exact .inr inActions

/-! ### Lines -/

theorem addressesNothing_relayed (name : Bytes) (pending : PendingChatRelay) :
    AddressesNothing mod (relayed mod name pending) where
  pending _ := id
  cached := rfl
  clients := rfl
  results _ := id
  enqueued action member := by
    rw [relayed_inject] at member
    exact (mem_enqueueAll member).imp_right kind_of_rebroadcastActions

theorem addressesNothing_flushChatRelay (pending : PendingChatRelay) :
    AddressesNothing mod (mod.flushChatRelay engine pending) := by
  rcases resolveRelayName_eq engine mod.popChatRelay pending with ⟨asked, names, equal⟩
  rw [flushChatRelay_eq, equal]
  have named : AddressesNothing mod
      { mod.popChatRelay with
        capture := { mod.popChatRelay.capture with nameByPlayerUid := names }
        world := { mod.popChatRelay.world with
          moment := mod.popChatRelay.world.moment + asked } } :=
    ⟨fun _ => id, rfl, rfl, fun _ => id, fun _ => .inl⟩
  exact named.trans (addressesNothing_relayed _ pending)

theorem addressesNothing_drainInject :
    AddressesNothing mod (mod.drainInject engine config) := by
  rcases drainInject_eq engine mod config with ⟨world, ticked, equal⟩
  rcases ticked.frame.1 with ⟨added, journal, noEnqueue⟩
  rw [equal]
  refine ⟨fun _ => id, rfl, rfl, fun _ => id, fun action member => .inl ?_⟩
  dsimp only at member
  rw [journal] at member
  exact (List.mem_append.mp member).resolve_right (noEnqueue action)

/-! ### The hook -/

/-- The commands that wait are those of before, and the one of this call. -/
theorem mem_pendingSetDiscord_handleHook {context : HookContext} {pending : PendingSetDiscord}
    (member : pending ∈
      (mod.handleHook engine config context).1.capture.pendingSetDiscord.items) :
    pending ∈ mod.capture.pendingSetDiscord.items ∨
      pending.controller = context.controller ∧
        ∃ code, mod.hookBranch engine config context = .setDiscord code := by
  rw [handleHook_eq] at member
  cases branch : mod.hookBranch engine config context with
  | setDiscord code =>
      rw [branch] at member
      rcases BoundedDeque.mem_push member with old | new
      · exact .inl old
      · rw [new]
        exact .inr ⟨rfl, code, rfl⟩
  | empty =>
      rw [branch] at member
      exact .inl member
  | command | otherCategory | tagged =>
      rw [branch] at member
      rw [mod.screened_capture] at member
      exact .inl member
  | muted =>
      rw [branch] at member
      dsimp only at member
      rcases suppressMuted_eq engine (mod.screened engine context) context
        (mod.capture.readSender context) with ⟨filter, moment, inject, -, -, equal⟩
      rw [equal] at member
      rw [mod.screened_capture] at member
      exact .inl member
  | filtered hit =>
      rw [branch] at member
      dsimp only at member
      rcases suppressFiltered_eq engine config (mod.screened engine context) context
        (mod.capture.readSender context) (context.line engine.codec) hit with
        ⟨filter, moment, inject, -, -, equal⟩
      rw [equal] at member
      unfold enqueueWebhook at member
      split at member
      · rw [mod.screened_capture] at member
        exact .inl member
      · rw [mod.screened_capture] at member
        exact .inl member
  | relayed =>
      rw [branch] at member
      dsimp only at member
      rw [relayLine_eq] at member
      split at member
      · change pending ∈ (mod.screened engine context).capture.pendingSetDiscord.items at member
        rw [mod.screened_capture] at member
        exact .inl member
      · change pending ∈ (mod.screened engine context).capture.pendingSetDiscord.items at member
        rw [mod.screened_capture] at member
        exact .inl member

/-- The deadline of the sender is the same after the throttle as before the call. -/
theorem deadlines_noticed {context : HookContext} {entry : MuteEntry} {noticed : MuteEntry}
    (muted : mod.senderMute engine context = some entry)
    (kept : noticed.mutedUntil = entry.mutedUntil) :
    (mod.filter.setMute context.muteKey (some noticed)).deadlines context.muteKey =
      mod.filter.deadlines context.muteKey := by
  rw [senderMute_eq, WordFilter.activeMute, if_neg (by simp [context.muteKey_ne_nil])] at muted
  rw [WordFilter.deadlines, WordFilter.deadlines, WordFilter.setMute_self,
    Option.eq_some_of_filter_eq_some muted]
  exact congrArg some kept

/-- The banner of the muted branch, when the throttle lets it through. -/
theorem mem_mutedActions {context : HookContext} {action : DeferredAction}
    (active : mod.filter.active = true)
    (member : action ∈ (mod.screened engine context).mutedActions engine context
      (mod.capture.readSender context)) :
    mod.warns engine context = true ∧
      action ∈ bannerActions context (mod.capture.readSender context)
        (activeMuteBanner mod.filter
          (mod.filter.muteRemainingSeconds context.muteKey (mod.reading engine 2)).1) := by
  have hasKey := context.muteKey_ne_nil
  have checked : mod.checkedAfter engine context = mod.senderMute engine context := by
    rw [checkedAfter, if_pos active]
  have moment : (mod.screened engine context).world.moment = mod.world.moment + 1 := by
    rw [screened_moment, if_pos active]
  unfold mutedActions at member
  rw [HookContext.muteKey_readSender, screened_filter, checked, moment,
    WordFilter.tryConsumeMuteNotify_eq hasKey, WordFilter.activeMute_setMute hasKey,
    WordFilter.setMute_setMute] at member
  dsimp only at member
  split at member
  · rename_i warns
    refine ⟨warns, ?_⟩
    cases muted : mod.senderMute engine context with
    | none =>
        rw [muted] at warns
        cases warns
    | some entry =>
        have inForce : engine.now (mod.world.moment + 1) < entry.mutedUntil := by
          rw [muted] at warns
          by_contra past
          simp [Option.filter, past] at warns
        have held : (some entry).filter (fun entry =>
            decide (engine.now (mod.world.moment + 1) < entry.mutedUntil)) = some entry := by
          simp [inForce]
        rw [muted, held, Option.map_some, WordFilter.muteRemainingSeconds_snd hasKey,
          WordFilter.muteRemainingSeconds_congr hasKey (deadlines_noticed muted ?_)] at member
        · exact member
        · split <;> rfl
  · cases member

theorem initialMuteNotification_muteSender {context : HookContext} {sender : Sender}
    (keyed : sender.muteKey ≠ []) (hit : FilterHit) :
    ((mod.screened engine context).muteSender engine sender
        hit).filter.initialMuteNotification =
      mod.filter.initialMuteNotification := by
  have screened : (mod.screened engine context).filter.initialMuteNotification =
      mod.filter.initialMuteNotification := by
    rw [screened_filter]
    rfl
  unfold muteSender
  split
  · rename_i timed
    dsimp only [ask]
    rw [WordFilter.mute_eq keyed timed]
    exact screened
  · exact screened

theorem mem_hookActions {context : HookContext} {action : DeferredAction}
    (member : action ∈ mod.hookActions engine config context) :
    action.kind = .localTagged ∨ ∃ text, mod.TellsMute engine config context text ∧
      action ∈ bannerActions context (mod.capture.readSender context) text := by
  have keyed : (mod.capture.readSender context).muteKey ≠ [] :=
    Sender.muteKey_ne_nil mod.capture context
  unfold hookActions at member
  cases branch : mod.hookBranch engine config context with
  | muted =>
      rw [branch] at member
      rcases mem_mutedActions (active_of_hookBranch_eq_muted branch) member with ⟨warns, sent⟩
      exact .inr ⟨_, .inl ⟨branch, warns, rfl⟩, sent⟩
  | filtered hit =>
      rw [branch] at member
      refine .inr ⟨initialMuteBanner mod.filter hit, .inr ⟨hit, branch, rfl⟩, ?_⟩
      simpa only [filteredActions, initialMuteBanner,
        initialMuteNotification_muteSender keyed] using member
  | relayed =>
      simp only [branch] at member
      split at member
      · exact .inl (kind_of_rebroadcastActions member)
      · cases member
  | _ =>
      rw [branch] at member
      cases member

theorem Addressed.handleHook (addressed : mod.Addressed engine config start inputs answers)
    {context : HookContext} (called : World.HookCalled engine config start inputs mod context) :
    (mod.handleHook engine config context).1.Addressed engine config start inputs answers := by
  have links := keepsLinks_handleHook engine config mod context
  have accounts := sameAccounts_handleHook engine config mod context
  constructor
  · intro pending member controller held
    rcases mem_pendingSetDiscord_handleHook member with old | ⟨own, code, branch⟩
    · exact addressed.pending pending old controller held
    · exact ⟨mod, context, code, called, branch, own ▸ held⟩
  · intro key account found
    exact addressed.cached key account (accounts.cached ▸ found)
  · intro account client found
    exact addressed.clients account client (links.clients ▸ found)
  · rw [links.linkResults]
    exact addressed.results
  · intro action member
    rw [handleHook_inject] at member
    rcases mem_enqueueAll member with old | new
    · exact addressed.enqueued action old
    · rcases mem_hookActions new with line | ⟨text, tells, sent⟩
      · exact .inl line
      · exact .inr ⟨_, _, text, .banner mod context text called tells, sent⟩

/-! ### `!setdiscord` -/

def uidKeyOf (uid : Guid) : Bytes := if uid = .nil then [] else formatGuid uid

theorem uidKeyOf_ne_nil {uid : Guid} (keyed : uidKeyOf uid ≠ []) :
    uid ≠ .nil ∧ uidKeyOf uid = formatGuid uid := by
  unfold uidKeyOf at keyed ⊢
  by_cases isNil : uid = .nil
  · exact absurd (if_pos isNil) keyed
  · exact ⟨isNil, if_neg isNil⟩

theorem accountRead_resolve (moment : Nat) (controller : ObjectRef) :
    (mod.resolvePlatformUserId engine (engine.playerState moment controller)).1 = [] ∨
      engine.AccountRead moment controller
        (mod.resolvePlatformUserId engine (engine.playerState moment controller)).1 := by
  cases read : engine.playerState moment controller with
  | none => exact .inl rfl
  | some state =>
      simp only [resolvePlatformUserId, ask]
      split
      · exact .inr ⟨state, read, .inl rfl⟩
      · cases asked : engine.uniqueNetId mod.world.moment state.object with
        | none => exact .inl rfl
        | some text => exact .inr ⟨state, read, .inr ⟨_, text, asked, rfl⟩⟩

theorem Addressed.lookupPlatform (addressed : mod.Addressed engine config start inputs answers)
    {moment : Nat} {controller : ObjectRef} {uidKey : Bytes}
    (key : uidKeyOf (engine.uidOf moment controller) = uidKey) :
    let looked := mod.lookupPlatform engine uidKey (engine.playerState moment controller)
    (looked.1 = [] ∨ engine.OwnAccount moment controller looked.1) ∧
      looked.2.Addressed engine config start inputs answers := by
  have read : (mod.resolvePlatformUserId engine (engine.playerState moment controller)).1 = [] ∨
      engine.AccountRead moment controller
        (mod.resolvePlatformUserId engine (engine.playerState moment controller)).1 :=
    accountRead_resolve moment controller
  have kept : (mod.resolvePlatformUserId engine
      (engine.playerState moment controller)).2.Addressed engine config start inputs answers := by
    rcases resolvePlatformUserId_eq engine mod (engine.playerState moment controller) with
      ⟨asked, equal⟩
    rw [equal]
    exact addressed.keep ⟨fun _ => id, rfl, rfl, fun _ => id, fun _ => .inl⟩
  have known : (if uidKey.isEmpty then []
      else (mod.capture.platformByPlayerUid uidKey).getD []) = [] ∨
      engine.OwnAccount moment controller (if uidKey.isEmpty then []
        else (mod.capture.platformByPlayerUid uidKey).getD []) := by
    split
    · exact .inl rfl
    · rename_i keyed
      rw [List.isEmpty_iff, ← key] at keyed
      rcases uidKeyOf_ne_nil keyed with ⟨hasUid, formatted⟩
      cases cached : mod.capture.platformByPlayerUid uidKey with
      | none => exact .inl rfl
      | some account =>
          rcases addressed.cached uidKey account cached with ⟨other, time, sameKey, accountRead⟩
          have sameUid : engine.uidOf time other = engine.uidOf moment controller := by
            apply formatGuid_injective
            rw [← sameKey, ← key, formatted]
          exact .inr (.inr ⟨hasUid, other, time, sameUid, accountRead⟩)
  simp only [Mod.lookupPlatform]
  generalize (if uidKey.isEmpty then []
    else (mod.capture.platformByPlayerUid uidKey).getD []) = cached at known ⊢
  split
  · exact ⟨known, addressed⟩
  · split
    · exact ⟨read.imp_right .inl, kept⟩
    · rename_i usable
      rw [Bool.or_eq_true, not_or, List.isEmpty_iff, List.isEmpty_iff] at usable
      have accountRead := read.resolve_left usable.1
      have formatted : uidKey = formatGuid (engine.uidOf moment controller) := by
        rw [← key] at usable ⊢
        exact (uidKeyOf_ne_nil usable.2).2
      refine ⟨.inr (.inl accountRead), { kept with cached := ?_ }⟩
      intro other account found
      dsimp only at found
      split at found
      · rename_i same
        cases found
        exact ⟨controller, moment, same.trans formatted, accountRead⟩
      · exact kept.cached other account found

theorem Addressed.queueLinkJob (addressed : mod.Addressed engine config start inputs answers)
    {moment : Nat} {controller : ObjectRef} {account : Bytes}
    (asked : World.AskedToLink engine config start inputs controller)
    (own : account = [] ∨ engine.OwnAccount moment controller account)
    (connectCode playerName : Bytes) :
    (mod.queueLinkJob controller (engine.uidOf moment controller) connectCode account
      playerName).Addressed engine config start inputs answers := by
  unfold Mod.queueLinkJob
  split
  · exact addressed
  · rename_i platform userId parts
    have named : account ≠ [] := by
      rintro rfl
      cases parts
    refine { addressed with clients := ?_ }
    intro other client found
    dsimp only at found
    split at found
    · rename_i same
      cases found
      rw [same]
      exact ⟨controller, moment, rfl, asked, rfl, own.resolve_left named⟩
    · exact addressed.clients other client found

theorem Addressed.processSetDiscord
    (addressed : mod.Addressed engine config start inputs answers) {controller : ObjectRef}
    (asked : World.AskedToLink engine config start inputs controller) (connectCode : Bytes) :
    (mod.processSetDiscord engine controller connectCode).Addressed engine config start inputs
      answers := by
  have named (mod : Mod) (playerState : Option PlayerState) :
      AddressesNothing mod (mod.resolvePlayerNameViaPE engine playerState).2 := by
    rcases resolvePlayerNameViaPE_eq engine mod playerState with ⟨asked, equal⟩
    rw [equal]
    exact ⟨fun _ => id, rfl, rfl, fun _ => id, fun _ => .inl⟩
  have cached (mod : Mod) (uidKey name : Bytes) :
      AddressesNothing mod (mod.cachePlayerName uidKey name) := by
    rcases cachePlayerName_eq mod uidKey name with ⟨names, equal⟩
    rw [equal]
    exact ⟨fun _ => id, rfl, rfl, fun _ => id, fun _ => .inl⟩
  have remembered (mod : Mod) (playerUid : Guid) (platformUserId : Bytes)
      (playerState : Option PlayerState) :
      AddressesNothing mod (mod.rememberRequester playerUid platformUserId playerState) := by
    rcases rememberRequester_eq mod playerUid platformUserId playerState with ⟨audience, equal⟩
    rw [equal]
    exact ⟨fun _ => id, rfl, rfl, fun _ => id, fun _ => .inl⟩
  have requested (mod : Mod) (moment : Nat) (playerName : Bytes)
      (addressed : mod.Addressed engine config start inputs answers) :
      (((mod.lookupPlatform engine (uidKeyOf (engine.uidOf moment controller))
        (engine.playerState moment controller)).2.rememberRequester
          (engine.uidOf moment controller)
          (mod.lookupPlatform engine (uidKeyOf (engine.uidOf moment controller))
            (engine.playerState moment controller)).1
          (engine.playerState moment controller)).queueLinkJob controller
            (engine.uidOf moment controller) connectCode
            (mod.lookupPlatform engine (uidKeyOf (engine.uidOf moment controller))
              (engine.playerState moment controller)).1
            playerName).Addressed engine config start inputs answers := by
    have looked := @Addressed.lookupPlatform engine config start inputs answers mod addressed
      moment controller _ rfl
    exact (looked.2.keep (remembered _ _ _ _)).queueLinkJob asked looked.1 _ _
  unfold Mod.processSetDiscord
  apply requested
  refine Addressed.keep ?_ (cached _ _ _)
  refine Addressed.keep ?_ (named _ _)
  exact addressed.keep ⟨fun _ => id, rfl, rfl, fun _ => id, fun _ => .inl⟩

theorem Addressed.flushSetDiscord
    (addressed : mod.Addressed engine config start inputs answers) {pending : PendingSetDiscord}
    (asked : ∀ controller, pending.controller = some controller →
      World.AskedToLink engine config start inputs controller) :
    (mod.flushSetDiscord engine pending).Addressed engine config start inputs answers := by
  have popped : AddressesNothing mod { mod with
      capture := { mod.capture with
        pendingSetDiscord := mod.capture.pendingSetDiscord.pop }
      world := { mod.world with moment := mod.world.moment + 1 } } :=
    ⟨fun _ => BoundedDeque.mem_of_mem_pop, rfl, rfl, fun _ => id, fun _ => .inl⟩
  unfold Mod.flushSetDiscord
  dsimp only [ask]
  cases resolved : (safeWeakGet engine mod.world.moment pending.controller).1 with
  | none => exact addressed.keep popped
  | some controller =>
      exact (addressed.keep popped).processSetDiscord
        (asked controller (eq_of_safeWeakGet resolved)) _

/-! ### Answers -/

/-- Where an answer goes: to the player who is known as the client of its account. -/
theorem mem_linkActions {result : LinkResult} {action : DeferredAction}
    (member : action ∈ mod.linkActions engine result) : ∃ client,
      mod.capture.linkClients result.platformUserId = some client ∧
        action ∈ privateChat client.playerUid result.notice ++
          screenLog client.controller result.notice := by
  unfold linkActions at member
  split at member
  · cases member
  · split at member
    · cases member
    · rename_i client found
      have known : mod.capture.linkClients result.platformUserId = some client := by
        split at found
        · cases found
        · exact found
      refine ⟨client, known, ?_⟩
      split at member
      · exact List.mem_append_left _ member
      · cases resolved : (safeWeakGet engine mod.world.moment client.controller).1 with
        | none =>
            rw [resolved] at member
            cases member
        | some object =>
            rw [resolved] at member
            rw [eq_of_safeWeakGet resolved]
            exact List.mem_append_right _ member

theorem linkClients_deliverLinkResult {result : LinkResult} {account : Bytes}
    {client : LinkClient}
    (found : (mod.deliverLinkResult engine result).capture.linkClients account = some client) :
    mod.capture.linkClients account = some client := by
  unfold deliverLinkResult at found
  split at found
  · exact found
  · dsimp only at found
    split at found
    · exact found
    · have forgotten : (if account = result.platformUserId then none
          else mod.capture.linkClients account) = some client := by
        split at found <;> exact found
      split at forgotten
      · cases forgotten
      · exact forgotten

theorem Addressed.deliverPopped (addressed : mod.Addressed engine config start inputs answers)
    {result : LinkResult} {job : LinkJob} (answered : (job, result.notice) ∈ answers)
    (own : job.platformUserId = result.platformUserId) :
    (mod.deliverPopped engine result).Addressed engine config start inputs answers := by
  have popped : ({ mod with linkResults := mod.linkResults.tryPop.2 } : Mod).Addressed
      engine config start inputs answers :=
    addressed.keep ⟨fun _ => id, rfl, rfl, fun _ => BoundedQueue.mem_of_mem_tryPop, fun _ => .inl⟩
  rcases deliverLinkResult_eq engine { mod with linkResults := mod.linkResults.tryPop.2 } result
    with ⟨clients, asked, inject, -, equal⟩
  constructor
  · rw [Mod.deliverPopped, equal]
    exact popped.pending
  · rw [Mod.deliverPopped, equal]
    exact popped.cached
  · intro account client found
    exact popped.clients account client (linkClients_deliverLinkResult found)
  · rw [Mod.deliverPopped, equal]
    exact popped.results
  · intro action member
    rw [Mod.deliverPopped, deliverLinkResult_inject] at member
    rcases mem_enqueueAll member with old | new
    · exact popped.enqueued action old
    · rcases mem_linkActions new with ⟨client, known, sent⟩
      have requester := popped.clients _ client known
      rw [← own] at requester
      exact .inr ⟨_, _, _, .answer client job result.notice requester answered, sent⟩

/-! ### The tick -/

theorem Addressed.onUpdate (addressed : mod.Addressed engine config start inputs answers) :
    (mod.onUpdate engine config).Addressed engine config start inputs answers := by
  have linked : (mod.capture.pendingSetDiscord.items.foldl (Mod.flushSetDiscord engine)
      mod).Addressed engine config start inputs answers :=
    Execution.run_relation_of_mem (fun before after : Mod =>
        before.Addressed engine config start inputs answers →
          after.Addressed engine config start inputs answers)
      (fun _ => id) (fun early late => late ∘ early) _
      (fun _ pending member addressedThen =>
        addressedThen.flushSetDiscord (addressed.pending pending member)) addressed
  have flushed : (mod.flushDeferred engine).Addressed engine config start inputs answers :=
    linked.keep (Execution.run_relation AddressesNothing .refl .trans
      (fun _ => addressesNothing_flushChatRelay) _)
  have ticked : ((mod.flushDeferred engine).audienceTick engine).Addressed engine config start
      inputs answers :=
    flushed.keep ⟨fun _ => id, rfl, rfl, fun _ => id, fun _ => .inl⟩
  have delivered : (((mod.flushDeferred engine).audienceTick engine).deliverLinkResults
      engine).Addressed engine config start inputs answers :=
    Execution.run_relation_of_mem (fun before after : Mod =>
        before.Addressed engine config start inputs answers →
          after.Addressed engine config start inputs answers)
      (fun _ => id) (fun early late => late ∘ early) _
      (fun _ result member addressedThen => by
        rcases ticked.results result member with ⟨job, answered, own⟩
        exact addressedThen.deliverPopped answered own) ticked
  exact delivered.keep addressesNothing_drainInject

end Steps

end Mod

/-! ## The database thread -/

namespace DbWorker

structure AnswersBacked (state after : DbState) : Prop where
  grows : ∃ added, linkAnswers after.worker.journal = linkAnswers state.worker.journal ++ added
  results : ∀ result ∈ after.linkResults.items, result ∈ state.linkResults.items ∨
    ∃ job, (job, result.notice) ∈ linkAnswers after.worker.journal ∧
      job.platformUserId = result.platformUserId

variable {state : DbState}

theorem answersBacked_same {after : DbState} (results : after.linkResults = state.linkResults)
    (answers : linkAnswers after.worker.journal = linkAnswers state.worker.journal) :
    AnswersBacked state after where
  grows := ⟨[], by rw [answers, List.append_nil]⟩
  results result member := .inl (results ▸ member)

theorem answersBacked_answerLink {middle : DbState} (job : LinkJob) (notice : Bytes)
    (results : middle.linkResults = state.linkResults)
    (answers : linkAnswers middle.worker.journal = linkAnswers state.worker.journal) :
    AnswersBacked state (answerLink middle job notice) where
  grows := ⟨[(job, notice)], by rw [answers_answerLink, answers]⟩
  results result member := by
    rcases BoundedQueue.mem_push member with old | new
    · exact .inl (results ▸ old)
    · refine .inr ⟨job, ?_, by rw [new]⟩
      rw [answers_answerLink, new]
      exact List.mem_append_right _ List.mem_cons_self

theorem answersBacked_step (config : Config) (state : DbState) (input : WorkerInput) :
    AnswersBacked state (step config state input) := by
  cases control : state.worker.control with
  | drainLinks =>
      simp only [step, control]
      split
      · exact answersBacked_same rfl rfl
      · split
        · exact answersBacked_same rfl rfl
        · rename_i job linkJobs popped
          unfold beginLink
          split
          · exact answersBacked_answerLink job _ rfl rfl
          · exact answersBacked_same rfl rfl
  | linkConflict job =>
      simp only [step, control, linkConflict]
      split
      · exact answersBacked_answerLink job _ rfl rfl
      · split
        · exact answersBacked_answerLink job _ rfl rfl
        · exact answersBacked_same rfl rfl
  | linkLookup job =>
      simp only [step, control, linkLookup]
      split
      · exact answersBacked_answerLink job _ rfl rfl
      · split
        · exact answersBacked_answerLink job _ rfl rfl
        · exact answersBacked_answerLink job _ rfl rfl
        · exact answersBacked_same rfl rfl
        · exact answersBacked_same rfl rfl
  | linkComplete job =>
      simp only [step, control, linkComplete]
      split
      · exact answersBacked_answerLink job _ rfl rfl
      · split
        · exact answersBacked_answerLink job _ rfl rfl
        · exact answersBacked_answerLink job _ rfl rfl
  | _ =>
      have elsewhere := step_elsewhere config input (by rw [control]; rfl)
        (by simp [control] : state.worker.control ≠ .drainLinks)
      exact answersBacked_same elsewhere.linkResults elsewhere.answers

end DbWorker

/-! ## Runs -/

namespace World

variable (engine : Engine) (config : Config) (compile : RegexCompiler) (startedAt : Nanoseconds)
  (players : List PlayerRow) (inputs : List WorldInput)

theorem addressed_run :
    let start := initial compile config startedAt players
    (run engine config start inputs).mod.Addressed engine config start inputs
      (linkAnswers (run engine config start inputs).worker.journal) := by
  intro start
  refine Execution.run_history_invariant (fun inputs (world : World) =>
    world.mod.Addressed engine config start inputs (linkAnswers world.worker.journal))
    ?_ (fun past input addressed => ?_) inputs
  · constructor
    · intro pending member
      cases member
    · intro key account found
      cases found
    · intro account client found
      cases found
    · intro result member
      cases member
    · intro action member
      cases member
  · have later := addressed.later [input] []
    rw [List.append_nil] at later
    cases input with
    | hook context => exact later.handleHook ⟨past, [], rfl, rfl⟩
    | update => exact later.onUpdate
    | join playerState =>
        exact later.keep ⟨fun _ => id, rfl, rfl, fun _ => id, fun _ => .inl⟩
    | remote action => exact later
    | webhookPopped => exact later.keep ⟨fun _ => id, rfl, rfl, fun _ => id, fun _ => .inl⟩
    | worker input =>
        have backed := DbWorker.answersBacked_step config
          (Execution.run (step engine config) start past).dbState input
        rcases backed.grows with ⟨added, grown⟩
        have answered := addressed.later [.worker input] added
        change Mod.Addressed engine config start _ (linkAnswers (DbWorker.step config
          (Execution.run (step engine config) start past).dbState input).worker.journal) _
        have results := backed.results
        rw [grown] at results ⊢
        refine { answered with results := fun result member => ?_ }
        rcases results result member with old | new
        · exact answered.results result old
        · exact new

/-- What the players are shown, and for what reason. -/
inductive Explained (start : World) (moment : Nat) (call : EngineCall) : Prop
  /-- A line that was typed on this server. -/
  | line (action : DeferredAction) (kind : action.kind = .localTagged)
      (typed : SoundAction (Stems engine config start inputs) action)
      (causes : action.Causes engine config moment call)
  /-- A row that `Drain` took from the inbound queue. -/
  | row (filter : WordFilter) (item : InboundMessage)
      (injecting : .injecting item ∈
        (run engine config start inputs).mod.world.inject.journal)
      (causes : item.Causes engine config filter moment call)
  /-- A notice for the player it concerns. -/
  | notice (uid : Guid) (controller : Option ObjectRef) (text : Bytes)
      (concerns : Concerns engine config start inputs
        (linkAnswers (run engine config start inputs).worker.journal) uid controller text)
      (tells : call.Tells engine moment uid controller text)

/-- Notices are private messages and screen logs. -/
theorem tells_of_causes {engine : Engine} {config : Config} {uid : Guid}
    {controller : Option ObjectRef} {text : Bytes} {action : DeferredAction}
    (sent : action ∈ Mod.privateChat uid text ++ Mod.screenLog controller text)
    {moment : Nat} {call : EngineCall} (causes : action.Causes engine config moment call) :
    call.Tells engine moment uid controller text := by
  rcases List.mem_append.mp sent with chat | log
  · unfold Mod.privateChat at chat
    split at chat
    · cases chat
    · rename_i told
      cases List.mem_singleton.mp chat
      cases causes with
      | privateChat chat _ shows =>
          refine .chat chat (fun isNil => told (.inl isNil)) shows ?_
          exact shows.receivers.imp_right fun everybody =>
            ⟨everybody.1, everybody.2.resolve_left (by simp [ChatInject.privateCall])⟩
      | line _ _ kind => cases kind
      | serverNotice _ kind => cases kind
      | screenLog _ _ kind => cases kind
  · cases held : controller with
    | none =>
        rw [held] at log
        cases log
    | some object =>
        rw [held] at log
        cases List.mem_singleton.mp log
        cases causes with
        | screenLog other message _ addressed writes =>
            exact .log other message addressed writes
        | line _ _ kind => cases kind
        | serverNotice _ kind => cases kind
        | privateChat _ kind => cases kind

end World

end PalCrosschat
