import PalCrosschat.ChatInject
import PalCrosschat.HookContext

/-! # Chat capture

`ChatCapture`: the pre-hook on `EnterChat_Receive` gates every chat line and
relays what passes, directly or one tick later when the sender's display name
must first be resolved. `Mod` is everything the game thread owns, together with
the queues it shares with the other threads. -/

namespace PalCrosschat

open Bytes (ascii)

/-! ## State -/

structure PendingSetDiscord where
  controller : Option ObjectRef
  connectCode : Bytes
deriving DecidableEq, Repr

/-- A chat relay that waits for `GetPlayerName`, which must not be called from
inside the hook. -/
structure PendingChatRelay where
  controller : Option ObjectRef
  message : Bytes
  guildName : Bytes
  senderId : Bytes
  senderUid : Guid
  category : Category
  localTag : Bool
deriving DecidableEq, Repr

structure LinkClient where
  controller : Option ObjectRef
  playerUid : Guid
deriving DecidableEq, Repr

def kMaxPendingSetDiscord : Nat := 32
def kMaxPendingChatRelays : Nat := 64

instance : NeZero kMaxPendingSetDiscord := ⟨by decide⟩
instance : NeZero kMaxPendingChatRelays := ⟨by decide⟩

structure ChatCapture where
  pendingSetDiscord : BoundedDeque kMaxPendingSetDiscord PendingSetDiscord := .empty
  pendingChatRelays : BoundedDeque kMaxPendingChatRelays PendingChatRelay := .empty
  linkClients : Bytes → Option LinkClient := fun _ => none
  platformByPlayerUid : Bytes → Option Bytes := fun _ => none
  nameByPlayerUid : Bytes → Option Bytes := fun _ => none

/-- What the game thread hands to the other threads or puts off to its next tick. -/
inductive ModEvent
  | outboundPushed (msg : OutboundMessage)
  | relayDeferred (pending : PendingChatRelay)
  | webhookQueued (job : WebhookJob)
  | linkJobQueued (job : LinkJob)
deriving DecidableEq, Repr

/-- `PalCrosschatMod` as the game thread sees it. The constructor wires every
component, so no component pointer is null. -/
structure Mod where
  capture : ChatCapture := {}
  filter : WordFilter
  world : InjectWorld := {}
  outbound : OutboundQueue := .empty
  linkJobs : LinkQueue := .empty
  linkResults : LinkResultQueue := .empty
  webhook : WebhookQueue := .empty
  /-- History variable: what was handed out so far, oldest first. -/
  journal : List ModEvent := []

/-! ## Texts -/

/-- `TryParseSetDiscord`: the connect code after the command word. -/
def tryParseSetDiscord (message : Bytes) : Option Bytes :=
  let command := ascii "!setdiscord"
  if message.length < command.length then none
  else if (message.take command.length).map Bytes.toLower ≠ command then none
  else
    let rest := (message.drop command.length).dropWhile Bytes.isSpace
    if rest.isEmpty then none
    else some (rest.takeWhile fun byte => !Bytes.isSpace byte)

/-- `FormatDuration`. -/
def formatDuration (totalSeconds : Int) : Bytes :=
  let totalSeconds := if totalSeconds < 0 then 0 else totalSeconds
  let minutes := totalSeconds / 60
  let seconds := totalSeconds % 60
  if minutes ≤ 0 then Bytes.decimal seconds ++ ascii "s"
  else if seconds = 0 then Bytes.decimal minutes ++ ascii "m"
  else Bytes.decimal minutes ++ ascii "m " ++ Bytes.decimal seconds ++ ascii "s"

/-- `ReplacePlaceholder` runs the loop of `ReplaceAll` on the braced key. -/
def replacePlaceholder (text key value : Bytes) : Bytes :=
  replaceAllLoop (ascii "\x7b" ++ key ++ ascii "\x7d") value (text.length + 1) text 0

def buildNoticeBanner (notificationLine muteMessage : Bytes)
    (includeMuteMessage : Bool) : Bytes :=
  if includeMuteMessage && !muteMessage.isEmpty then
    notificationLine ++ ascii "\n" ++ muteMessage
  else notificationLine

def truncateForLog (input : Bytes) (maxChars : Nat) : Bytes :=
  if input.length ≤ maxChars then input else input.take maxChars ++ ascii "..."

def activeMuteBanner (filter : WordFilter) (remaining : Option Int) : Bytes :=
  let remaining := (remaining.map formatDuration).getD (ascii "?")
  buildNoticeBanner
    (replacePlaceholder filter.activeMuteNotification (ascii "remainingtime") remaining)
    [] false

def initialMuteBanner (filter : WordFilter) (hit : FilterHit) : Bytes :=
  let mutetime := formatDuration (int32 (hit.muteMinutes * 60))
  let line := replacePlaceholder filter.initialMuteNotification (ascii "mutetime") mutetime
  let line := replacePlaceholder line (ascii "mutemessage") hit.muteMessage
  let line := replacePlaceholder line (ascii "remainingtime") mutetime
  buildNoticeBanner line hit.muteMessage true

def filterLogContent (config : Config) (senderName senderId message : Bytes)
    (hit : FilterHit) : Bytes :=
  ascii "**[PalCrosschat] ChatFilter**\n" ++
    ascii "Server: `" ++ config.serverOrigin ++ ascii "`\n" ++
    ascii "Player: `" ++ senderName ++ ascii "`" ++
    (if senderId.isEmpty then [] else ascii " (`" ++ senderId ++ ascii "`)") ++
    ascii "\n" ++
    (if 0 < hit.muteMinutes then
      ascii "Muted: `" ++ Bytes.decimal hit.muteMinutes ++ ascii "m`\n"
    else ascii "Action: `blocked` (MuteMinutes=0)\n") ++
    (if hit.muteMessage.isEmpty then []
    else ascii "MuteMessage: `" ++ truncateForLog hit.muteMessage 120 ++ ascii "`\n") ++
    ascii "Pattern: `" ++ truncateForLog hit.patternSource 120 ++ ascii "`\n" ++
    ascii "Message: `" ++ truncateForLog message 200 ++ ascii "`"

/-- `message.front() == '/' || message.front() == '!'`. -/
def isCommand (message : Bytes) : Bool :=
  message.head? == some 0x2F || message.head? == some 0x21

/-- The prefix list of the loop guard: each configured prefix, and its bracketed
spelling unless the prefix already starts with a bracket. -/
def loopGuardPrefixes (config : Config) : List Bytes :=
  config.prefixes ++
    (config.prefixes.filter fun configured =>
      !configured.isEmpty && configured.head? != some 0x5B).map
      fun configured => ascii "[" ++ configured ++ ascii "]"

/-! ## Name cache -/

namespace ChatCapture

def lookupCachedPlayerName (capture : ChatCapture) (uidKey : Bytes) : Bytes :=
  if uidKey.isEmpty then [] else (capture.nameByPlayerUid uidKey).getD []

def cachePlayerName (capture : ChatCapture) (uidKey name : Bytes) : ChatCapture :=
  if uidKey.isEmpty || name.isEmpty || name == ascii "Unknown" then capture
  else
    { capture with
      nameByPlayerUid := fun key =>
        if key = uidKey then some name else capture.nameByPlayerUid key }

end ChatCapture

/-! ## Hook -/

structure Sender where
  uid : Guid
  id : Bytes
  name : Bytes
  haveDisplayName : Bool
deriving DecidableEq, Repr

/-- The key of the mute table: the player uid, else the display name. -/
def Sender.muteKey (sender : Sender) : Bytes :=
  if sender.id.isEmpty then sender.name else sender.id

namespace HookContext

/-- `TryReadPlayerUId`: the uid property, nil when it cannot be read. -/
def senderUid (context : HookContext) : Guid :=
  (context.playerState.bind (·.playerUId)).getD .nil

def senderId (context : HookContext) : Bytes :=
  if context.senderUid = .nil then [] else formatGuid context.senderUid

/-- `SanitizeMessage(ReadPlayerNameProperty(player_state), 64)`. -/
def propertyName (context : HookContext) : Bytes :=
  sanitizeMessage ((context.playerState.map (·.playerName)).getD []) 64

def guildName (context : HookContext) : Bytes :=
  sanitizeMessage ((context.playerState.map (·.guildName)).getD []) 64

end HookContext

namespace ChatCapture

/-- The display name inside the hook: the property, else the cache. -/
def displayName (capture : ChatCapture) (context : HookContext) : Bytes :=
  if context.propertyName.isEmpty then
    capture.lookupCachedPlayerName context.senderId
  else context.propertyName

def readSender (capture : ChatCapture) (context : HookContext) : Sender :=
  let name := capture.displayName context
  { uid := context.senderUid
    id := context.senderId
    name := if name.isEmpty then ascii "Unknown" else name
    haveDisplayName := !name.isEmpty }

end ChatCapture

namespace Mod

def ask {α : Type} (mod : Mod) (question : Nat → α) : α × Mod :=
  (question mod.world.moment,
    { mod with world := { mod.world with moment := mod.world.moment + 1 } })

def pushOutbound (mod : Mod) (msg : OutboundMessage) : Mod :=
  { mod with
    outbound := mod.outbound.push msg
    journal := mod.journal ++ [.outboundPushed msg] }

def deferRelay (mod : Mod) (pending : PendingChatRelay) : Mod :=
  { mod with
    capture :=
      { mod.capture with
        pendingChatRelays := mod.capture.pendingChatRelays.push pending }
    journal := mod.journal ++ [.relayDeferred pending] }

def updateInject (mod : Mod) (change : ChatInject → ChatInject) : Mod :=
  { mod with world := { mod.world with inject := change mod.world.inject } }

/-- `WebhookWorker::Enqueue`. -/
def enqueueWebhook (mod : Mod) (webhookUrl content : Bytes) : Mod :=
  if webhookUrl.isEmpty || content.isEmpty then mod
  else
    { mod with
      webhook := mod.webhook.push { webhookUrl, content }
      journal := mod.journal ++ [.webhookQueued { webhookUrl, content }] }

/-- The `!setdiscord` branch of the hook. -/
def acceptSetDiscord (mod : Mod) (context : HookContext) (connectCode : Bytes) : Mod :=
  { mod with
    capture :=
      { mod.capture with
        pendingSetDiscord := mod.capture.pendingSetDiscord.push
          { controller := context.controller
            connectCode := sanitizeMessage connectCode 16 } } }

/-- The roster `Upsert` of a chatting player. -/
def rememberSender (mod : Mod) (context : HookContext) : Mod :=
  if context.senderUid = .nil then mod
  else
    let platform := normalizePlatformUserId
      ((context.playerState.map (·.accountName)).getD [])
    { mod with
      world := { mod.world with
        audience := mod.world.audience.upsert context.senderUid platform
          (context.playerState.map (·.object)) } }

/-- `show_mute_banner`: private feedback for the sender only. -/
def showMuteBanner (mod : Mod) (context : HookContext) (sender : Sender)
    (banner : Bytes) : Mod :=
  mod.updateInject fun inject =>
    (if sender.uid = .nil then inject
      else inject.enqueuePrivateChat sender.uid banner).enqueueScreenLog
        context.controller banner

variable (engine : Engine)

/-- The mute branch: a throttled banner with the remaining time. -/
def suppressMuted (mod : Mod) (context : HookContext) (sender : Sender) : Mod :=
  let (now, mod) := mod.ask engine.now
  let (notify, filter) := mod.filter.tryConsumeMuteNotify sender.muteKey
    (15 * nanosecondsPerSecond) now
  let mod := { mod with filter }
  if notify then
    let (now, mod) := mod.ask engine.now
    let (remaining, filter) := mod.filter.muteRemainingSeconds sender.muteKey now
    let mod := { mod with filter }
    mod.showMuteBanner context sender (activeMuteBanner mod.filter remaining)
  else mod

/-- The mute of a filter hit, when its pattern has any minutes. -/
def muteSender (mod : Mod) (sender : Sender) (hit : FilterHit) : Mod :=
  if 0 < hit.muteMinutes then
    let (now, mod) := mod.ask engine.now
    { mod with
      filter := mod.filter.mute sender.muteKey hit.muteMessage hit.muteMinutes now }
  else mod

/-- The filter branch: a mute, the initial banner and the moderation log. -/
def suppressFiltered (config : Config) (mod : Mod) (context : HookContext)
    (sender : Sender) (message : Bytes) (hit : FilterHit) : Mod :=
  let mod := mod.muteSender engine sender hit
  let mod := mod.showMuteBanner context sender (initialMuteBanner mod.filter hit)
  if mod.filter.muteLogWebhook.isEmpty then mod
  else
    mod.enqueueWebhook mod.filter.muteLogWebhook
      (filterLogContent config sender.name sender.id message hit)

/-- The outcome of the block under `m_filter->Active()`. -/
inductive FilterVerdict
  | muted
  | hit (hit : FilterHit)
  | pass
deriving DecidableEq, Repr

/-- `IsMuted`, then `FindMatch`, when any pattern is configured. -/
def filterVerdict (mod : Mod) (muteKey message : Bytes) : FilterVerdict × Mod :=
  if mod.filter.active then
    let (now, mod) := mod.ask engine.now
    let (muted, filter) := mod.filter.isMuted muteKey now
    let mod := { mod with filter }
    if muted then (.muted, mod)
    else
      match mod.filter.findMatch message with
      | some hit => (.hit hit, mod)
      | none => (.pass, mod)
  else (.pass, mod)

/-- `local_tag`: the line is cleared and will be rebroadcast with this server's
tag. -/
def localTag (config : Config) (context : HookContext) : Bool :=
  config.showLocalServerTag && context.categoryByte == chatCategoryGlobal

def pendingRelay (config : Config) (context : HookContext) (sender : Sender)
    (message : Bytes) : PendingChatRelay where
  controller := context.controller
  message
  guildName := context.guildName
  senderId := sender.id
  senderUid := sender.uid
  category := context.categoryByte
  localTag := localTag config context

/-- The end of the hook, for a line that passed every gate: queue the local
rebroadcast and the outbound message, or defer both. -/
def relayLine (config : Config) (mod : Mod) (context : HookContext)
    (sender : Sender) (message : Bytes) : Mod :=
  if !sender.haveDisplayName then
    mod.deferRelay (pendingRelay config context sender message)
  else
    let mod :=
      if localTag config context then
        mod.updateInject fun inject =>
          inject.enqueueLocalTagged sender.name context.guildName message
            context.categoryByte sender.uid
      else mod
    mod.pushOutbound
      { senderName := sender.name
        senderId := sender.id
        guildName := context.guildName
        message }

/-- `ChatCapture::HandleHook`: the mod afterwards, and the parameters as the
hook leaves them to the game. -/
def handleHook (config : Config) (mod : Mod) (context : HookContext) :
    Mod × HookContext :=
  let message := context.line engine.codec
  if message.isEmpty then (mod, context)
  else
    match tryParseSetDiscord message with
    | some connectCode => (mod.acceptSetDiscord context connectCode, context.clearMessage)
    | none =>
        let sender := mod.capture.readSender context
        let mod := mod.rememberSender context
        match mod.filterVerdict engine sender.muteKey message with
        | (.muted, mod) => (mod.suppressMuted engine context sender, context.clearMessage)
        | (.hit hit, mod) =>
            (mod.suppressFiltered engine config context sender message hit,
              context.clearMessage)
        | (.pass, mod) =>
            if isCommand message then (mod, context.setCategory chatCategoryNone)
            else if !isRelayedCategory context.categoryByte then (mod, context)
            else if startsWithAnyPrefix message (loopGuardPrefixes config) then
              (mod, context)
            else
              (mod.relayLine config context sender message,
                if localTag config context then context.clearMessage else context)

/-! ## Deferred work -/

/-- `ResolvePlayerNameViaPE`. -/
def resolvePlayerNameViaPE (mod : Mod) (playerState : Option PlayerState) :
    Bytes × Mod :=
  match playerState with
  | none => ([], mod)
  | some state =>
      match mod.ask fun moment => engine.getPlayerName moment state.object with
      | (.name text, mod) => (text, mod)
      | (.noFunction, mod) | (.faulted, mod) | (.noReturnValue, mod) =>
          (state.playerName, mod)

/-- `ResolvePlatformUserId`. -/
def resolvePlatformUserId (mod : Mod) (playerState : Option PlayerState) :
    Bytes × Mod :=
  match playerState with
  | none => ([], mod)
  | some state =>
      let account := normalizePlatformUserId state.accountName
      if !account.isEmpty then (account, mod)
      else
        match mod.ask fun moment => engine.uniqueNetId moment state.object with
        | (none, mod) => ([], mod)
        | (some text, mod) => (normalizePlatformUserId text, mod)

/-- `m_platform_by_player_uid` in front of `ResolvePlatformUserId`. -/
def lookupPlatform (mod : Mod) (uidKey : Bytes) (playerState : Option PlayerState) :
    Bytes × Mod :=
  let cached :=
    if uidKey.isEmpty then [] else (mod.capture.platformByPlayerUid uidKey).getD []
  if !cached.isEmpty then (cached, mod)
  else
    let (platform, mod) := mod.resolvePlatformUserId engine playerState
    if platform.isEmpty || uidKey.isEmpty then (platform, mod)
    else
      (platform, { mod with
        capture := { mod.capture with
          platformByPlayerUid := fun key =>
            if key = uidKey then some platform
            else mod.capture.platformByPlayerUid key } })

/-- The roster `Upsert` of a linking player. -/
def rememberRequester (mod : Mod) (playerUid : Guid) (platformUserId : Bytes)
    (playerState : Option PlayerState) : Mod :=
  if playerUid = .nil then mod
  else
    { mod with world := { mod.world with
      audience := mod.world.audience.upsert playerUid platformUserId
        (playerState.map (·.object)) } }

/-- The end of `ProcessSetDiscord`: a platform account that can be split is
handed to the database thread. -/
def queueLinkJob (mod : Mod) (controller : ObjectRef) (playerUid : Guid)
    (connectCode platformUserId playerName : Bytes) : Mod :=
  match splitPlatformUserId platformUserId with
  | none => mod
  | some (platform, userId) =>
      let job : LinkJob :=
        { connectCode := sanitizeMessage connectCode 16
          platform
          userId
          platformUserId
          playerName }
      { mod with
        capture := { mod.capture with
          linkClients := fun key =>
            if key = platformUserId then
              some { controller := some controller, playerUid }
            else mod.capture.linkClients key }
        linkJobs := mod.linkJobs.push job
        journal := mod.journal ++ [.linkJobQueued job] }

/-- `CachePlayerName` on the capture of the mod. -/
def cachePlayerName (mod : Mod) (uidKey name : Bytes) : Mod :=
  { mod with capture := mod.capture.cachePlayerName uidKey name }

/-- `ProcessSetDiscord`. -/
def processSetDiscord (mod : Mod) (controller : ObjectRef) (connectCode : Bytes) : Mod :=
  let (playerState, mod) := mod.ask fun moment => engine.playerState moment controller
  let (resolved, mod) := mod.resolvePlayerNameViaPE engine playerState
  let senderName := ChatInject.cleanSenderName resolved
  let playerUid := (playerState.bind (·.playerUId)).getD .nil
  let uidKey := if playerUid = .nil then [] else formatGuid playerUid
  let mod := mod.cachePlayerName uidKey senderName
  let (platformUserId, mod) := mod.lookupPlatform engine uidKey playerState
  let mod := mod.rememberRequester playerUid platformUserId playerState
  mod.queueLinkJob controller playerUid connectCode platformUserId senderName

/-- One round of the first loop of `FlushDeferred`. -/
def flushSetDiscord (mod : Mod) (pending : PendingSetDiscord) : Mod :=
  let mod := { mod with capture := { mod.capture with
    pendingSetDiscord := mod.capture.pendingSetDiscord.pop } }
  let ((controller, _), mod) := mod.ask fun moment =>
    safeWeakGet engine moment pending.controller
  match controller with
  | none => mod
  | some controller => mod.processSetDiscord engine controller pending.connectCode

/-- The name for a resolved text: its sanitized form, else the cached name, else
`Unknown`. A name that was found enters the cache. -/
def nameRelay (mod : Mod) (pending : PendingChatRelay) (resolved : Bytes) : Bytes × Mod :=
  let clean := sanitizeMessage resolved 64
  let name :=
    if clean.isEmpty then mod.capture.lookupCachedPlayerName pending.senderId else clean
  if name.isEmpty then (ascii "Unknown", mod)
  else (name, mod.cachePlayerName pending.senderId name)

/-- The name a deferred relay is sent under, and the cache afterwards. -/
def resolveRelayName (mod : Mod) (pending : PendingChatRelay) : Bytes × Mod :=
  let ((controller, _), mod) := mod.ask fun moment =>
    safeWeakGet engine moment pending.controller
  let (playerState, mod) := mod.ask fun moment =>
    controller.bind (engine.playerState moment)
  let (resolved, mod) := mod.resolvePlayerNameViaPE engine playerState
  mod.nameRelay pending resolved

def popChatRelay (mod : Mod) : Mod :=
  { mod with capture := { mod.capture with
    pendingChatRelays := mod.capture.pendingChatRelays.pop } }

/-- One round of the loop of `FlushPendingChatRelays`. -/
def flushChatRelay (mod : Mod) (pending : PendingChatRelay) : Mod :=
  let (senderName, mod) := mod.popChatRelay.resolveRelayName engine pending
  let mod :=
    if pending.localTag then
      mod.updateInject fun inject =>
        inject.enqueueLocalTagged senderName pending.guildName pending.message
          pending.category pending.senderUid
    else mod
  mod.pushOutbound
    { senderName
      senderId := pending.senderId
      guildName := pending.guildName
      message := pending.message }

/-- `ChatCapture::FlushDeferred`. Both loops pop until their deque is empty;
nothing they call pushes to it, so they run once over its items. -/
def flushDeferred (mod : Mod) : Mod :=
  let mod := mod.capture.pendingSetDiscord.items.foldl (flushSetDiscord engine) mod
  mod.capture.pendingChatRelays.items.foldl (flushChatRelay engine) mod

/-- `DeliverLinkResult`. -/
def deliverLinkResult (mod : Mod) (result : LinkResult) : Mod :=
  if result.notice.isEmpty then mod
  else
    let client :=
      if result.platformUserId.isEmpty then none
      else mod.capture.linkClients result.platformUserId
    match client with
    | none => mod
    | some client =>
        let mod := { mod with capture := { mod.capture with
          linkClients := fun key =>
            if key = result.platformUserId then none else mod.capture.linkClients key } }
        if client.playerUid ≠ .nil then
          mod.updateInject fun inject =>
            inject.enqueuePrivateChat client.playerUid result.notice
        else
          let ((controller, _), mod) := mod.ask fun moment =>
            safeWeakGet engine moment client.controller
          mod.updateInject fun inject => inject.enqueueScreenLog controller result.notice

/-! ## Callbacks -/

def onRequestJoinPlayer (mod : Mod) (playerState : Option ObjectRef) : Mod :=
  let (weakGet, mod) := mod.ask engine.weakGet
  { mod with world := { mod.world with
    audience := mod.world.audience.enqueueJoin weakGet playerState } }

def audienceTick (mod : Mod) : Mod :=
  let (weakGet, mod) := mod.ask engine.weakGet
  let (joinReading, mod) := mod.ask engine.joinReading
  { mod with world := { mod.world with
    audience := mod.world.audience.tick (fun object => weakGet object = .live)
      joinReading } }

/-- The `while (auto result = m_link_results->TryPop())` loop of `on_update`. -/
def deliverLinkResults (mod : Mod) : Mod :=
  mod.linkResults.items.foldl
    (fun mod result =>
      deliverLinkResult engine { mod with linkResults := mod.linkResults.tryPop.2 } result)
    mod

def drainInject (config : Config) (mod : Mod) : Mod :=
  { mod with
    world := ((ChatInject.drain engine config mod.filter
      config.maxBroadcastsPerTick).run mod.world).2 }

def onUpdate (config : Config) (mod : Mod) : Mod :=
  (((mod.flushDeferred engine).audienceTick engine).deliverLinkResults engine).drainInject
    engine config

end Mod

end PalCrosschat
