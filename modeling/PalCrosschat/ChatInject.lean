import PalCrosschat.Audience
import PalCrosschat.ChatFormat
import PalCrosschat.Foundation.Program
import PalCrosschat.Queues
import PalCrosschat.Sanitize

/-! # Chat injection

`ChatInject`: deferred hook work and inbound rows become
`BroadcastChatMessage` calls on the game thread, behind a warm-up gate and a
circuit breaker that a fault opens for the rest of the process. -/

namespace PalCrosschat

open Bytes (ascii)

/-! ## State -/

inductive DeferredKind
  | localTagged
  | serverNotice
  | screenLog
  | privateChat
deriving DecidableEq, Repr

structure DeferredAction where
  kind : DeferredKind
  senderName : Bytes := []
  guildName : Bytes := []
  message : Bytes := []
  category : Category := 0
  controller : Option ObjectRef := none
  receivers : List Guid := []
  senderUid : Guid := .nil
deriving DecidableEq, Repr

/-- The `FPalChatMessage` fields that are not left zeroed. -/
structure PalChatMessage where
  category : Category
  sender : WideText
  senderPlayerUId : Guid
  message : WideText
  receiverPlayerUIds : List Guid
deriving DecidableEq, Repr

/-- The engine functions inject calls through `ProcessEvent`. -/
inductive EngineCall
  | broadcastChatMessage (chat : PalChatMessage)
  | broadcastServerNotice (notice : WideText)
  | sendScreenLogToClient (controller : ObjectRef) (message : WideText)
deriving DecidableEq, Repr

/-- What a run of inject leaves behind for an observer. -/
inductive InjectEvent
  /-- An action entered the deferred deque. -/
  | enqueued (action : DeferredAction)
  /-- `FlushDeferred` took the oldest action out of the deque. -/
  | flushing (action : DeferredAction)
  /-- `Drain` popped this inbound message and is about to broadcast it. -/
  | injecting (item : InboundMessage)
  /-- `BroadcastOne` is done with the message; one that was not sent goes back to
  the queue. -/
  | injected (item : InboundMessage) (sent : Bool)
  /-- `BroadcastDual` found nobody online and skipped the line. -/
  | rosterEmpty
  /-- `ProcessEvent` was issued at a moment; `returned` is false after a fault. -/
  | processEvent (moment : Nat) (call : EngineCall) (returned : Bool)
  /-- `CanInjectNow` resolved a GameState and read the clock at this moment. -/
  | gameStateReady (moment : Nat)
  /-- The inject circuit opened. -/
  | circuitOpened
deriving DecidableEq, Repr

def kMaxDeferredActions : Nat := 64

instance : NeZero kMaxDeferredActions := ⟨by decide⟩

def kInjectWarmup : Nanoseconds := 15 * nanosecondsPerSecond
def kInjectRamp : Nanoseconds := 60 * nanosecondsPerSecond

structure ChatInject where
  gameState : Option ObjectRef := none
  broadcastFnReady : Bool := false
  serverNoticeFnReady : Bool := false
  deferred : BoundedDeque kMaxDeferredActions DeferredAction := .empty
  /-- `m_world_ready_at`; zero until the first GameState sighting. -/
  worldReadyAt : Nanoseconds := 0
  /-- `s_find_faults` of `ResolveGameState`. -/
  findFaults : Nat := 0
  circuitOpen : Bool := false
  /-- History variable: everything observable so far, oldest first. -/
  journal : List InjectEvent := []

/-- What a `ChatInject` call on the game thread reads and writes. -/
structure InjectWorld where
  inject : ChatInject := {}
  audience : AudienceTracker := {}
  inbound : InboundQueue := .empty
  /-- The number of engine calls made so far. -/
  moment : Nat := 0

abbrev InjectProgram := StateM InjectWorld

/-! ## Enqueueing -/

namespace ChatInject

def note (inject : ChatInject) (event : InjectEvent) : ChatInject :=
  { inject with journal := inject.journal ++ [event] }

def enqueue (inject : ChatInject) (action : DeferredAction) : ChatInject :=
  { inject with deferred := inject.deferred.push action }.note (.enqueued action)

def enqueueLocalTagged (inject : ChatInject) (senderName guildName message : Bytes)
    (category : Category) (senderPlayerUid : Guid) : ChatInject :=
  inject.enqueue
    { kind := .localTagged
      senderName
      guildName
      message
      category
      senderUid := senderPlayerUid }

def enqueueServerNotice (inject : ChatInject) (noticeMessage : Bytes) : ChatInject :=
  inject.enqueue { kind := .serverNotice, message := noticeMessage }

def enqueueScreenLog (inject : ChatInject) (playerController : Option ObjectRef)
    (message : Bytes) : ChatInject :=
  match playerController with
  | none => inject
  | some controller =>
      inject.enqueue { kind := .screenLog, message, controller := some controller }

def enqueuePrivateChat (inject : ChatInject) (receiverPlayerUid : Guid)
    (message : Bytes) : ChatInject :=
  if receiverPlayerUid = .nil ∨ message = [] then inject
  else
    inject.enqueue
      { kind := .privateChat
        message
        receivers := [receiverPlayerUid]
        category := chatCategoryGlobal }

/-! ## Engine calls -/

def ask {α : Type} (question : Nat → α) : InjectProgram α := do
  let world ← get
  set { world with moment := world.moment + 1 }
  return question world.moment

def updateInject (change : ChatInject → ChatInject) : InjectProgram Unit :=
  modify fun world => { world with inject := change world.inject }

def tripInjectCircuit : InjectProgram Unit :=
  updateInject fun inject =>
    if inject.circuitOpen then inject
    else { inject with circuitOpen := true, gameState := none }.note .circuitOpened

section Inject

variable (engine : Engine)

/-- `SafeProcessEvent` on non-null arguments. -/
def processEvent (call : EngineCall) : InjectProgram Bool := do
  let world ← get
  let returned ← ask engine.processEvent
  updateInject fun inject => inject.note (.processEvent world.moment call returned)
  return returned

def resolveGameState : InjectProgram (Option ObjectRef) := do
  let world ← get
  let (cached, weak) ← ask fun moment =>
    safeWeakGet engine moment world.inject.gameState
  if cached.isSome then
    updateInject fun inject => { inject with gameState := weak }
    return cached
  else
    updateInject fun inject => { inject with gameState := none }
    match ← ask engine.findGameState with
    | .faulted =>
        updateInject fun inject => { inject with findFaults := inject.findFaults + 1 }
        if 3 ≤ (← get).inject.findFaults then
          tripInjectCircuit
        return none
    | .missing => return none
    | .found object =>
        if ← ask engine.cacheWeak then
          updateInject fun inject => { inject with gameState := some object }
          return some object
        else return none

def ensureBroadcastFunction : InjectProgram Bool := do
  if (← get).inject.broadcastFnReady then
    return true
  else
    let found ← ask engine.findBroadcastFunction
    updateInject fun inject => { inject with broadcastFnReady := found }
    return found

def ensureServerNoticeFunction : InjectProgram Bool := do
  if (← get).inject.serverNoticeFnReady then
    return true
  else
    let found ← ask engine.findServerNoticeFunction
    updateInject fun inject => { inject with serverNoticeFnReady := found }
    return found

/-- `FillInitFString` on a zeroed string: the text, or nothing when the game
allocator fails. An empty text allocates nothing. -/
def fillInitFString (text : Bytes) : InjectProgram WideText := do
  let wide := engine.codec.ensureStr text
  if wide.isEmpty then
    return []
  else if ← ask engine.gameMalloc then
    return wide
  else return []

/-- The `ReceiverPlayerUIds` array: filled for one to 511 receivers. -/
def fillReceivers (receivers : List Guid) : InjectProgram (List Guid) := do
  if receivers.isEmpty || decide (512 ≤ receivers.length) then
    return []
  else if ← ask engine.gameMalloc then
    return receivers
  else return []

/-! ## Broadcasting -/

def broadcastDisplay (displaySender message : Bytes) (category : Category)
    (receivers : List Guid) (senderPlayerUid : Option Guid) : InjectProgram Bool := do
  if (← get).inject.circuitOpen then
    return true
  else if (← resolveGameState engine).isNone then
    return false
  else if !(← ensureBroadcastFunction engine) then
    return false
  else
    let sender ← fillInitFString engine displaySender
    let text ← fillInitFString engine message
    let receiverPlayerUIds ← fillReceivers engine receivers
    -- Resolved again right before the call, in case objects were collected.
    if (← resolveGameState engine).isNone then
      return false
    else
      let returned ← processEvent engine (.broadcastChatMessage
        { category
          sender
          senderPlayerUId := senderPlayerUid.getD .nil
          message := text
          receiverPlayerUIds })
      if returned then
        return true
      else
        modify fun world =>
          { world with audience := world.audience.forgetMany receivers }
        tripInjectCircuit
        return true

def snapshotAudience : InjectProgram (List Guid × List Guid) := do
  let alive ← ask fun moment object => decide (engine.weakGet moment object = .live)
  let world ← get
  let (audience, xbox, others) := world.audience.snapshot alive
  set { world with audience }
  return (xbox, others)

def bootstrapAudience : InjectProgram Unit := do
  let findAll ← ask engine.findAllPlayerStates
  let joinReading ← ask engine.joinReading
  modify fun world =>
    { world with audience := world.audience.tryBootstrapOnce findAll joinReading }

def broadcastDual (xboxSender xboxMessage formattedSender formattedMessage : Bytes)
    (category : Category) (senderPlayerUid : Option Guid) : InjectProgram Bool := do
  bootstrapAudience engine
  let (xbox, others) ← snapshotAudience engine
  let xboxUid := senderPlayerUid.filter (← get).audience.isOnlinePlayerUid
  if xbox.isEmpty && others.isEmpty then
    updateInject fun inject => inject.note .rosterEmpty
    return true
  else if xbox.isEmpty then
    broadcastDisplay engine formattedSender formattedMessage category others none
  else
    let othersOk ←
      if others.isEmpty then pure true
      else broadcastDisplay engine formattedSender formattedMessage category others none
    let xboxOk ←
      if xboxUid.isNone then pure true
      else broadcastDisplay engine xboxSender xboxMessage category xbox xboxUid
    return othersOk && xboxOk

def showServerNotice (noticeMessage : Bytes) : InjectProgram Bool := do
  if (← get).inject.circuitOpen then
    return true
  else
    let clean := sanitizeNotice noticeMessage 512
    if clean.isEmpty then
      return false
    else if (← resolveGameState engine).isNone then
      return false
    else if !(← ensureServerNoticeFunction engine) then
      return false
    else
      let notice ← fillInitFString engine clean
      if (← resolveGameState engine).isNone then
        return false
      else if ← processEvent engine (.broadcastServerNotice notice) then
        return true
      else
        tripInjectCircuit
        return true

def sendScreenLog (playerController : ObjectRef) (message : Bytes) :
    InjectProgram Bool := do
  if (← get).inject.circuitOpen then
    return false
  else
    let clean := sanitizeNotice message 512
    if clean.isEmpty then
      return false
    else if !(← ask fun moment => engine.findScreenLogFunction moment playerController) then
      return false
    else
      let text ← fillInitFString engine clean
      processEvent engine (.sendScreenLogToClient playerController text)

/-! ## Lines -/

variable (config : Config)

def prefixForOrigin (origin : Bytes) : Bytes :=
  if origin = ascii "pal-na" then config.prefixNa
  else if origin = ascii "pal-eu" then config.prefixEu
  else if origin = ascii "discord" then config.prefixDiscord
  else []

def localServerPrefix : Bytes := prefixForOrigin config config.serverOrigin

/-- `SanitizeMessage(name, 64)`, with the fallback for an empty result. -/
def cleanSenderName (senderName : Bytes) : Bytes :=
  let clean := sanitizeMessage senderName 64
  if clean.isEmpty then ascii "Unknown" else clean

def broadcastLocalTagged (senderName guildName message : Bytes)
    (category : Category) (senderPlayerUid : Guid) : InjectProgram Bool := do
  let chatPrefix := localServerPrefix config
  let cleanSender := cleanSenderName senderName
  let cleanMessage := sanitizeMessage message
  if cleanMessage.isEmpty then
    return false
  else
    let cleanGuild := sanitizeMessage guildName 64
    let display := applyChatFormat config.chatFormat chatPrefix cleanGuild
      cleanSender cleanMessage
    if display.2.isEmpty then
      return false
    else
      let plain := applyChatFormatAttributed config.chatFormat chatPrefix cleanGuild
        cleanSender cleanMessage
      let plainMessage := if plain.2.isEmpty then cleanMessage else plain.2
      broadcastDual engine plain.1 plainMessage display.1 display.2 category
        (if senderPlayerUid = .nil then none else some senderPlayerUid)

def broadcastOne (filter : WordFilter) (msg : InboundMessage) : InjectProgram Bool := do
  let cleanMessage := sanitizeMessage msg.message
  if cleanMessage.isEmpty then
    return true
  else if filter.active && (filter.findMatch cleanMessage).isSome then
    return true
  else
    let cleanSender := cleanSenderName msg.senderName
    let chatPrefix := prefixForOrigin config msg.origin
    let cleanGuild := sanitizeMessage msg.guildName 64
    let display := applyChatFormat config.chatFormat chatPrefix cleanGuild
      cleanSender cleanMessage
    let displayMessage := if display.2.isEmpty then cleanMessage else display.2
    let plain := applyChatFormatAttributed config.chatFormat chatPrefix cleanGuild
      cleanSender cleanMessage
    let plainMessage := if plain.2.isEmpty then cleanMessage else plain.2
    broadcastDual engine plain.1 plainMessage display.1 displayMessage
      config.injectCategory (tryParseGuid msg.senderId)

/-! ## The tick -/

/-- The `switch` of `FlushDeferred`. The results of the calls are dropped. -/
def runAction (action : DeferredAction) : InjectProgram Unit :=
  match action.kind with
  | .localTagged => do
      let _ ← broadcastLocalTagged engine config action.senderName action.guildName
        action.message action.category action.senderUid
  | .serverNotice => do
      let _ ← showServerNotice engine action.message
  | .screenLog => do
      let (controller, _) ← ask fun moment =>
        safeWeakGet engine moment action.controller
      match controller with
      | none => return ()
      | some controller =>
          let _ ← sendScreenLog engine controller action.message
  | .privateChat =>
      if action.receivers.isEmpty then
        return ()
      else do
        let _ ← broadcastDisplay engine (ascii "PalCrosschat") action.message
          action.category action.receivers none

def popDeferred (action : DeferredAction) : InjectProgram Unit :=
  updateInject fun inject =>
    { inject with deferred := inject.deferred.pop }.note (.flushing action)

/-- `FlushDeferred(max_actions)`. -/
def flushDeferred : (maxActions : Nat) → InjectProgram Unit
  | 0 => return ()
  | remaining + 1 => do
      match (← get).inject.deferred.items with
      | [] => return ()
      | action :: _ =>
          popDeferred action
          runAction engine config action
          flushDeferred remaining

/-- The lines a tick may inject, by the time since the world became ready: none
during the warm-up, one during the ramp, then the configured number. -/
def tickLimit (configuredMax : Int) (elapsed : Nanoseconds) : Option Nat :=
  if elapsed < kInjectWarmup then none
  else if elapsed < kInjectRamp then some 1
  else some (if 0 < configuredMax then configuredMax else 1).toNat

/-- `CanInjectNow`: the number of lines this tick may inject, if any. -/
def canInjectNow (configuredMax : Int) : InjectProgram (Option Nat) := do
  if (← get).inject.circuitOpen then
    return none
  else if (← resolveGameState engine).isNone then
    return none
  else
    let world ← get
    let now ← ask engine.now
    updateInject fun inject =>
      { inject with
        worldReadyAt := if inject.worldReadyAt = 0 then now else inject.worldReadyAt
      }.note (.gameStateReady world.moment)
    return tickLimit configuredMax (now - (← get).inject.worldReadyAt)

/-- The inbound loop of `Drain`: a line that could not be sent goes back to the
end of the queue and ends the loop. -/
def drainInbound (filter : WordFilter) : (limit : Nat) → InjectProgram Unit
  | 0 => return ()
  | remaining + 1 => do
      let world ← get
      match world.inbound.tryPop with
      | (none, _) => return ()
      | (some item, inbound) =>
          set { world with inbound, inject := world.inject.note (.injecting item) }
          let sent ← broadcastOne engine config filter item
          updateInject fun inject => inject.note (.injected item sent)
          if sent then
            drainInbound filter remaining
          else
            modify fun world => { world with inbound := world.inbound.push item }

def drain (filter : WordFilter) (maxPerTick : Int) : InjectProgram Unit := do
  match ← canInjectNow engine maxPerTick with
  | none => return ()
  | some limit =>
      flushDeferred engine config (if 0 < limit then limit else 1)
      drainInbound engine config filter limit

end Inject

/-! ## Insertions -/

/-- `Enqueue*` calls in a row. -/
def enqueueAll (inject : ChatInject) (actions : List DeferredAction) : ChatInject :=
  actions.foldl enqueue inject

theorem enqueueAll_append (inject : ChatInject) (first second : List DeferredAction) :
    inject.enqueueAll (first ++ second) = (inject.enqueueAll first).enqueueAll second :=
  List.foldl_append

theorem enqueueAll_eq (inject : ChatInject) (actions : List DeferredAction) :
    inject.enqueueAll actions =
      { inject with
        deferred := actions.foldl BoundedDeque.push inject.deferred
        journal := inject.journal ++ actions.map .enqueued } := by
  induction actions generalizing inject with
  | nil => simp [enqueueAll]
  | cons action rest induction =>
      rw [enqueueAll, List.foldl_cons, ← enqueueAll, induction]
      simp [enqueue, note]

theorem enqueueAll_deferred (inject : ChatInject) (actions : List DeferredAction) :
    (inject.enqueueAll actions).deferred.items =
      (inject.deferred.items ++ actions).drop
        (inject.deferred.items.length + actions.length - kMaxDeferredActions) := by
  rw [enqueueAll_eq]
  exact BoundedDeque.items_foldl_push inject.deferred actions

/-! ## Notices -/

/-- `after` is `before` with actions enqueued that do not rebroadcast a line. -/
def AppendsNotices (before after : ChatInject) : Prop :=
  ∃ notices : List DeferredAction,
    (∀ action ∈ notices, action.kind ≠ .localTagged) ∧
    after = notices.foldl enqueue before

namespace AppendsNotices

theorem refl (inject : ChatInject) : AppendsNotices inject inject :=
  ⟨[], by simp, rfl⟩

theorem trans {first second third : ChatInject}
    (left : AppendsNotices first second) (right : AppendsNotices second third) :
    AppendsNotices first third := by
  rcases left with ⟨leftNotices, leftKinds, rfl⟩
  rcases right with ⟨rightNotices, rightKinds, rfl⟩
  refine ⟨leftNotices ++ rightNotices, ?_, List.foldl_append.symm⟩
  intro action member
  rcases List.mem_append.mp member with inLeft | inRight
  · exact leftKinds action inLeft
  · exact rightKinds action inRight

theorem enqueue {action : DeferredAction} (kind : action.kind ≠ .localTagged)
    (inject : ChatInject) : AppendsNotices inject (inject.enqueue action) :=
  ⟨[action], by simpa using kind, rfl⟩

theorem enqueueScreenLog (inject : ChatInject) (controller : Option ObjectRef)
    (message : Bytes) : AppendsNotices inject (inject.enqueueScreenLog controller message) := by
  cases controller with
  | none => exact refl inject
  | some controller => exact enqueue (by simp) inject

theorem enqueuePrivateChat (inject : ChatInject) (receiver : Guid) (message : Bytes) :
    AppendsNotices inject (inject.enqueuePrivateChat receiver message) := by
  unfold ChatInject.enqueuePrivateChat
  split
  · exact refl inject
  · exact enqueue (by simp) inject

theorem journal {before after : ChatInject} (notices : AppendsNotices before after) :
    ∃ added, after.journal = before.journal ++ added ∧
      ∀ action, .enqueued action ∈ added → action.kind ≠ .localTagged := by
  rcases notices with ⟨actions, kinds, rfl⟩
  refine ⟨actions.map .enqueued, ?_, fun action member => ?_⟩
  · rw [← enqueueAll, enqueueAll_eq]
  · apply kinds
    simpa using member

end AppendsNotices

end ChatInject

end PalCrosschat
