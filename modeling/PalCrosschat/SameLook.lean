import PalCrosschat.IssuedChats
import PalCrosschat.RelayPaths

/-! # The look of a line, here and there

A tagged line is rendered twice, by two functions: `BroadcastLocalTagged` on the server
where it was typed, from the deferred action, and `BroadcastOne` on every other server,
from the row. -/

namespace PalCrosschat

open Bytes (ascii)

/-! ## Rendering -/

namespace ChatInject

/-- What the players see of a broadcast: the Sender and Message fields of the players who
are not on Xbox, and those of the Xbox players. -/
structure Look where
  formatted : Bytes × Bytes
  xbox : Bytes × Bytes
deriving DecidableEq, Repr

def DualCall.look (dual : DualCall) : Look where
  formatted := (dual.formattedSender, dual.formattedMessage)
  xbox := (dual.xboxSender, dual.xboxMessage)

/-- Two servers with the same `Format` settings. -/
structure SameFormat (config other : Config) : Prop where
  prefixNa : other.prefixNa = config.prefixNa
  prefixEu : other.prefixEu = config.prefixEu
  prefixDiscord : other.prefixDiscord = config.prefixDiscord
  chatFormat : other.chatFormat = config.chatFormat

/-- `BroadcastOne` drops the line for a pattern. -/
def Filtered (filter : WordFilter) (msg : InboundMessage) : Prop :=
  filter.active = true ∧ (filter.findMatch (sanitizeMessage msg.message)).isSome = true

instance (filter : WordFilter) (msg : InboundMessage) : Decidable (Filtered filter msg) :=
  inferInstanceAs (Decidable (_ ∧ _))

section Look

variable {config other : Config} {filter : WordFilter} {action : DeferredAction}
  {msg : InboundMessage}

def lookUnder (config : Config) (chatPrefix guildName senderName message : Bytes) : Look where
  formatted := applyChatFormat config.chatFormat chatPrefix (sanitizeMessage guildName 64)
    (cleanSenderName senderName) (sanitizeMessage message)
  xbox := (cleanSenderName senderName, sanitizeMessage message)

theorem cleanSenderName_ne_nil (senderName : Bytes) : cleanSenderName senderName ≠ [] :=
  (cleanName_cleanSenderName senderName).nonempty

/-- The local tag. -/
theorem taggedDual_look :
    (taggedDual config action).map DualCall.look =
      if sanitizeMessage action.message = [] then none
      else some (lookUnder config (localServerPrefix config) action.guildName action.senderName
        action.message) := by
  unfold taggedDual
  by_cases empty : sanitizeMessage action.message = []
  · simp [empty]
  · have shown := applyChatFormat_message_ne_nil config.chatFormat (localServerPrefix config)
      (sanitizeMessage action.guildName 64) (cleanSenderName action.senderName) empty
    have named := cleanSenderName_ne_nil action.senderName
    simp [empty, shown, named, applyChatFormatAttributed, DualCall.look, lookUnder]

/-- The remote line. -/
theorem rowDual_look (kept : ¬Filtered filter msg) :
    (rowDual config filter msg).map DualCall.look =
      if sanitizeMessage msg.message = [] then none
      else some (lookUnder config (prefixForOrigin config msg.origin) msg.guildName
        msg.senderName msg.message) := by
  unfold rowDual
  by_cases empty : sanitizeMessage msg.message = []
  · simp [empty]
  · have shown := applyChatFormat_message_ne_nil config.chatFormat
      (prefixForOrigin config msg.origin) (sanitizeMessage msg.guildName 64)
      (cleanSenderName msg.senderName) empty
    have named := cleanSenderName_ne_nil msg.senderName
    have unfiltered : (filter.active &&
        (filter.findMatch (sanitizeMessage msg.message)).isSome) = false := by
      rw [Bool.eq_false_iff, Ne, Bool.and_eq_true]
      exact kept
    simp [empty, unfiltered, shown, named, applyChatFormatAttributed, DualCall.look, lookUnder]

theorem lookUnder_of_sameFormat (same : SameFormat config other)
    (origin guildName senderName message : Bytes) :
    lookUnder other (prefixForOrigin other origin) guildName senderName message =
      lookUnder config (prefixForOrigin config origin) guildName senderName message := by
  have chatPrefix : prefixForOrigin other origin = prefixForOrigin config origin := by
    simp only [prefixForOrigin, same.prefixNa, same.prefixEu, same.prefixDiscord]
  rw [chatPrefix, lookUnder, lookUnder, same.chatFormat]

end Look

end ChatInject

/-! ## From a line to its rows -/

def InboundMessage.row (msg : InboundMessage) : Row where
  id := msg.id
  origin := some msg.origin
  senderName := some msg.senderName
  senderId := some msg.senderId
  guildName := some msg.guildName
  message := some msg.message

/-- Every line that a run hands out with a local tag looks the same on this server and on
every other one with the same `Format` settings, whose filter lets it pass.
`BroadcastLocalTagged` on the one and `BroadcastOne` on the other each make one
`BroadcastDual`, with the same fields, or neither makes one. -/
theorem sameLook (engine : Engine) (config : Config) (compile : RegexCompiler)
    (startedAt : Nanoseconds) (players : List PlayerRow) (inputs : List WorldInput)
    (other : Config) (same : ChatInject.SameFormat config other) :
    let initial := World.initial compile config startedAt players
    let desk := relayDesk engine config initial inputs
    let mod := (World.run engine config initial inputs).mod
    pushedMessages mod.journal = desk.delivered.map (outboundOf engine) ∧
    enqueuedLines mod.world.inject.journal =
      desk.delivered.filterMap (rebroadcastOf engine config) ∧
    ∀ delivery ∈ desk.delivered, ∀ action ∈ rebroadcastOf engine config delivery,
      ∀ (filter : WordFilter) (msg : InboundMessage) (receiver : Engine),
        msg.row = { DbWorker.outboundRow config (outboundOf engine delivery) with id := msg.id } →
        ¬ChatInject.Filtered filter msg →
        ChatInject.broadcastLocalTagged engine config action.senderName action.guildName
            action.message action.category action.senderUid =
          (ChatInject.taggedDual config action).elim (pure false)
            (ChatInject.DualCall.perform engine action.category) ∧
        ChatInject.broadcastOne receiver other filter msg =
          (ChatInject.rowDual other filter msg).elim (pure true)
            (ChatInject.DualCall.perform receiver other.injectCategory) ∧
        (ChatInject.taggedDual config action).map ChatInject.DualCall.look =
          (ChatInject.rowDual other filter msg).map ChatInject.DualCall.look := by
  have describes := describes_run engine config compile startedAt players inputs
  refine ⟨describes.pushed, describes.enqueued, ?_⟩
  intro delivery _ action tagged filter msg receiver read kept
  refine ⟨ChatInject.broadcastLocalTagged_eq engine config action,
    ChatInject.broadcastOne_eq receiver other filter msg, ?_⟩
  have rebroadcast : action = delivery.ticket.item.rebroadcastUnder engine delivery.name := by
    unfold rebroadcastOf HookContext.rebroadcast at tagged
    split at tagged
    · exact (Option.some.inj tagged).symm
    · cases tagged
  have origin : msg.origin = config.serverOrigin :=
    Option.some.inj (congrArg Row.origin read)
  have senderName : msg.senderName = delivery.name :=
    Option.some.inj (congrArg Row.senderName read)
  have guildName : msg.guildName = delivery.ticket.item.guildName :=
    Option.some.inj (congrArg Row.guildName read)
  have message : msg.message = delivery.ticket.item.line engine.codec :=
    Option.some.inj (congrArg Row.message read)
  rw [ChatInject.taggedDual_look, ChatInject.rowDual_look kept,
    ChatInject.lookUnder_of_sameFormat same, origin, senderName, guildName, message, rebroadcast]
  rfl

/-- A tagged line of a player called `Zoe`, and a second server with the same settings. -/
theorem sameLook_greeting :
    let initial := World.initial literalRegex taggingConfig 0 []
    let inputs : List WorldInput := [.hook (namelessLine (ascii "hi")), .update]
    let delivered := (relayDesk namingEngine taggingConfig initial inputs).delivered
    delivered.map (fun delivery => delivery.name) = [ascii "Zoe"] ∧
    ∀ delivery ∈ delivered, ∀ action ∈ rebroadcastOf namingEngine taggingConfig delivery,
      ∀ (filter : WordFilter) (msg : InboundMessage),
        msg.row = { DbWorker.outboundRow taggingConfig (outboundOf namingEngine delivery) with
          id := msg.id } →
        ¬ChatInject.Filtered filter msg →
        (ChatInject.taggedDual taggingConfig action).map ChatInject.DualCall.look =
          (ChatInject.rowDual { plainConfig with serverOrigin := ascii "pal-eu" } filter
            msg).map ChatInject.DualCall.look := by
  refine ⟨by decide +kernel, ?_⟩
  intro delivery delivered action tagged filter msg read kept
  have looks := sameLook namingEngine taggingConfig literalRegex 0 []
    [.hook (namelessLine (ascii "hi")), .update]
    { plainConfig with serverOrigin := ascii "pal-eu" } ⟨rfl, rfl, rfl, rfl⟩
  exact (looks.2.2 delivery delivered action tagged filter msg quietEngine read kept).2.2

end PalCrosschat
