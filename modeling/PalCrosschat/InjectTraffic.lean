import PalCrosschat.Callbacks
import PalCrosschat.HookBranches

/-! # What the callbacks enqueue

Outside of `Drain` the mod touches `ChatInject` only through its Enqueue
functions. For every callback the actions are listed here; the deferred deque
afterwards is what these insertions make of it. -/

namespace PalCrosschat

/-! ## The actions of the hook -/

namespace Mod

variable (engine : Engine) (config : Config) (mod : Mod) (context : HookContext)

/-- `EnqueuePrivateChat` of a banner, when it enqueues anything. -/
def privateChat (receiver : Guid) (message : Bytes) : List DeferredAction :=
  if receiver = .nil ∨ message = [] then []
  else
    [{ kind := .privateChat
       message
       receivers := [receiver]
       category := chatCategoryGlobal }]

/-- `EnqueueScreenLog` of a banner, when it enqueues anything. -/
def screenLog (controller : Option ObjectRef) (message : Bytes) : List DeferredAction :=
  (controller.map fun object =>
    { kind := .screenLog, message, controller := some object }).toList

def bannerActions (sender : Sender) (banner : Bytes) : List DeferredAction :=
  privateChat sender.uid banner ++ screenLog context.controller banner

def mutedActions (sender : Sender) : List DeferredAction :=
  let (notify, filter) := mod.filter.tryConsumeMuteNotify sender.muteKey
    (15 * nanosecondsPerSecond) (engine.now mod.world.moment)
  if notify then
    let (remaining, filter) := filter.muteRemainingSeconds sender.muteKey
      (engine.now (mod.world.moment + 1))
    bannerActions context sender (activeMuteBanner filter remaining)
  else []

def filteredActions (sender : Sender) (hit : FilterHit) : List DeferredAction :=
  bannerActions context sender
    (initialMuteBanner (mod.muteSender engine sender hit).filter hit)

def rebroadcastActions (name : Bytes) (pending : PendingChatRelay) : List DeferredAction :=
  if pending.localTag then
    [{ kind := .localTagged
       senderName := name
       guildName := pending.guildName
       message := pending.message
       category := pending.category
       senderUid := pending.senderUid }]
  else []

theorem kind_of_rebroadcastActions {name : Bytes} {pending : PendingChatRelay}
    {action : DeferredAction} (member : action ∈ rebroadcastActions name pending) :
    action.kind = .localTagged := by
  unfold rebroadcastActions at member
  split at member
  · rw [List.mem_singleton.mp member]
  · cases member

def hookActions : List DeferredAction :=
  let sender := mod.capture.readSender context
  match mod.hookBranch engine config context with
  | .muted => (mod.screened engine context).mutedActions engine context sender
  | .filtered hit => (mod.screened engine context).filteredActions engine context sender hit
  | .relayed =>
      if sender.haveDisplayName then
        rebroadcastActions sender.name
          (pendingRelay config context sender (context.line engine.codec))
      else []
  | _ => []

section Hook

variable {mod context}

theorem enqueuePrivateChat_eq (inject : ChatInject) (receiver : Guid) (message : Bytes) :
    inject.enqueuePrivateChat receiver message =
      inject.enqueueAll (privateChat receiver message) := by
  unfold ChatInject.enqueuePrivateChat privateChat
  split <;> rfl

theorem enqueueScreenLog_eq (inject : ChatInject) (controller : Option ObjectRef)
    (message : Bytes) :
    inject.enqueueScreenLog controller message =
      inject.enqueueAll (screenLog controller message) := by
  cases controller <;> rfl

theorem showMuteBanner_inject (sender : Sender) (banner : Bytes) :
    (mod.showMuteBanner context sender banner).world.inject =
      mod.world.inject.enqueueAll (bannerActions context sender banner) := by
  rw [bannerActions, ChatInject.enqueueAll_append, ← enqueuePrivateChat_eq,
    ← enqueueScreenLog_eq]
  unfold showMuteBanner updateInject
  by_cases noUid : sender.uid = .nil
  · simp [noUid, ChatInject.enqueuePrivateChat]
  · simp [noUid]

theorem suppressMuted_inject (sender : Sender) :
    (mod.suppressMuted engine context sender).world.inject =
      mod.world.inject.enqueueAll (mod.mutedActions engine context sender) := by
  simp only [suppressMuted, mutedActions, ask]
  by_cases notify : (mod.filter.tryConsumeMuteNotify sender.muteKey
      (15 * nanosecondsPerSecond) (engine.now mod.world.moment)).1 = true
  · simp only [notify, if_true]
    exact showMuteBanner_inject sender _
  · simp only [notify, Bool.false_eq_true, if_false]
    rfl

theorem suppressFiltered_inject (sender : Sender) (message : Bytes) (hit : FilterHit) :
    (mod.suppressFiltered engine config context sender message hit).world.inject =
      mod.world.inject.enqueueAll (mod.filteredActions engine context sender hit) := by
  rcases muteSender_eq engine mod sender hit with ⟨filter, moment, -, -, muted⟩
  have shown : ((mod.muteSender engine sender hit).showMuteBanner context sender
      (initialMuteBanner (mod.muteSender engine sender hit).filter hit)).world.inject =
      mod.world.inject.enqueueAll (mod.filteredActions engine context sender hit) := by
    rw [showMuteBanner_inject, filteredActions, muted]
  simp only [suppressFiltered]
  split
  · exact shown
  · unfold enqueueWebhook
    split <;> exact shown

theorem relayed_inject (name : Bytes) (pending : PendingChatRelay) :
    (mod.relayed name pending).world.inject =
      mod.world.inject.enqueueAll (rebroadcastActions name pending) := by
  unfold relayed rebroadcastActions
  cases pending.localTag <;> rfl

theorem handleHook_inject :
    (mod.handleHook engine config context).1.world.inject =
      mod.world.inject.enqueueAll (mod.hookActions engine config context) := by
  rw [handleHook_eq, hookActions]
  cases mod.hookBranch engine config context with
  | empty => rfl
  | setDiscord connectCode => rfl
  | muted =>
      dsimp only
      rw [suppressMuted_inject, screened_inject]
  | filtered hit =>
      dsimp only
      rw [suppressFiltered_inject, screened_inject]
  | relayed =>
      dsimp only
      rw [relayLine_eq]
      split
      · rw [relayed_inject, screened_inject]
      · exact screened_inject
  | _ => exact screened_inject

end Hook

/-! ## The actions of the tick -/

/-- The rebroadcasts of `FlushPendingChatRelays`. -/
def flushActions : List PendingChatRelay → Mod → List DeferredAction
  | [], _ => []
  | pending :: rest, mod =>
      rebroadcastActions (mod.popChatRelay.resolveRelayName engine pending).1 pending ++
        flushActions rest (mod.flushChatRelay engine pending)

theorem kind_of_flushActions {items : List PendingChatRelay} {mod : Mod}
    {action : DeferredAction} (member : action ∈ flushActions engine items mod) :
    action.kind = .localTagged := by
  induction items generalizing mod with
  | nil => cases member
  | cons pending rest induction =>
      rcases List.mem_append.mp member with first | later
      · exact kind_of_rebroadcastActions first
      · exact induction later

def linkActions (result : LinkResult) : List DeferredAction :=
  if result.notice.isEmpty then []
  else
    match if result.platformUserId.isEmpty then none
      else mod.capture.linkClients result.platformUserId with
    | none => []
    | some client =>
        if client.playerUid ≠ .nil then privateChat client.playerUid result.notice
        else screenLog (safeWeakGet engine mod.world.moment client.controller).1 result.notice

def linkResultActions : List LinkResult → Mod → List DeferredAction
  | [], _ => []
  | result :: rest, mod =>
      let popped := { mod with linkResults := mod.linkResults.tryPop.2 }
      popped.linkActions engine result ++
        linkResultActions rest (popped.deliverLinkResult engine result)

/-- The mod when `on_update` reaches `Drain`. -/
def beforeDrain : Mod :=
  ((mod.flushDeferred engine).audienceTick engine).deliverLinkResults engine

/-- Everything `on_update` enqueues before `Drain`. -/
def updateActions : List DeferredAction :=
  let linked := mod.capture.pendingSetDiscord.items.foldl (flushSetDiscord engine) mod
  let ticked := (mod.flushDeferred engine).audienceTick engine
  flushActions engine linked.capture.pendingChatRelays.items linked ++
    linkResultActions engine ticked.linkResults.items ticked

section Update

variable {mod}

theorem flushChatRelays_inject (items : List PendingChatRelay) :
    (items.foldl (flushChatRelay engine) mod).world.inject =
      mod.world.inject.enqueueAll (flushActions engine items mod) := by
  induction items generalizing mod with
  | nil => rfl
  | cons pending rest induction =>
      have sent : (mod.flushChatRelay engine pending).world.inject =
          mod.world.inject.enqueueAll (rebroadcastActions
            (mod.popChatRelay.resolveRelayName engine pending).1 pending) := by
        rw [flushChatRelay_eq, relayed_inject, (resolveRelayName_nameStep engine _ pending).inject]
        rfl
      rw [List.foldl_cons, induction, flushActions, ChatInject.enqueueAll_append, sent]

theorem deliverLinkResult_inject (result : LinkResult) :
    (mod.deliverLinkResult engine result).world.inject =
      mod.world.inject.enqueueAll (mod.linkActions engine result) := by
  unfold deliverLinkResult linkActions
  cases result.notice.isEmpty with
  | true => rfl
  | false =>
      dsimp only
      generalize (if result.platformUserId.isEmpty then none
        else mod.capture.linkClients result.platformUserId) = client
      cases client with
      | none => rfl
      | some client =>
          by_cases hasUid : client.playerUid ≠ .nil
          · simp only [if_pos hasUid]
            exact enqueuePrivateChat_eq _ _ _
          · simp only [if_neg hasUid]
            exact enqueueScreenLog_eq _ _ _

theorem deliverLinkResults_inject :
    (mod.deliverLinkResults engine).world.inject =
      mod.world.inject.enqueueAll (linkResultActions engine mod.linkResults.items mod) := by
  have folded : ∀ (items : List LinkResult) (mod : Mod),
      (items.foldl (fun mod result => deliverLinkResult engine
        { mod with linkResults := mod.linkResults.tryPop.2 } result) mod).world.inject =
        mod.world.inject.enqueueAll (linkResultActions engine items mod) := by
    intro items
    induction items with
    | nil => exact fun mod => rfl
    | cons result rest induction =>
        intro mod
        rw [List.foldl_cons, induction, deliverLinkResult_inject, linkResultActions,
          ChatInject.enqueueAll_append]
  exact folded mod.linkResults.items mod

/-- Before `Drain` the tick touches inject by these actions only. -/
theorem beforeDrain_inject :
    (mod.beforeDrain engine).world.inject =
      mod.world.inject.enqueueAll (mod.updateActions engine) := by
  have linked := (flushSetDiscords_linkStep engine mod mod.capture.pendingSetDiscord.items).inject
  rw [beforeDrain, deliverLinkResults_inject, updateActions, ChatInject.enqueueAll_append]
  refine congrArg (ChatInject.enqueueAll · _) ?_
  change (mod.flushDeferred engine).world.inject = _
  rw [flushDeferred, flushChatRelays_inject, linked]

end Update

end Mod

end PalCrosschat
