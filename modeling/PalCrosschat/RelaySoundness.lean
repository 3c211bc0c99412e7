import PalCrosschat.Callbacks
import PalCrosschat.InjectTraffic
import PalCrosschat.WorkerSteps
import PalCrosschat.World

/-! # Relay soundness

Whatever reaches the outbound queue, the database or a local rebroadcast was
typed as a Global line that passed every gate of the hook. The invariant follows
a line through the deferred relays, the deferred actions, the queue and the
database thread. -/

namespace PalCrosschat

open Bytes (ascii)

/-! ## Lines -/

structure ChatLine where
  message : Bytes
  guildName : Bytes
  senderId : Bytes
  senderUid : Guid
  category : Category
  localTag : Bool
deriving DecidableEq, Repr

def PendingChatRelay.chatLine (pending : PendingChatRelay) : ChatLine where
  message := pending.message
  guildName := pending.guildName
  senderId := pending.senderId
  senderUid := pending.senderUid
  category := pending.category
  localTag := pending.localTag

def HookContext.chatLine (engine : Engine) (config : Config) (context : HookContext) :
    ChatLine where
  message := context.line engine.codec
  guildName := context.guildName
  senderId := context.senderId
  senderUid := context.senderUid
  category := context.categoryByte
  localTag := Mod.localTag config context

/-- The line starts with a configured prefix, or with such a prefix in brackets
when the prefix does not bring a bracket of its own. -/
def LooksTagged (config : Config) (line : Bytes) : Prop :=
  ∃ configured ∈ config.prefixes, configured ≠ [] ∧
    (configured.IsPrefix line ∨
      configured.head? ≠ some 0x5B ∧
        (ascii "[" ++ configured ++ ascii "]").IsPrefix line)

structure Relayable (engine : Engine) (config : Config) (mod : Mod)
    (context : HookContext) : Prop where
  category : context.categoryByte = chatCategoryGlobal
  nonempty : context.line engine.codec ≠ []
  notCommand : isCommand (context.line engine.codec) = false
  untagged : ¬LooksTagged config (context.line engine.codec)
  noHit : mod.filter.active = true →
    mod.filter.findMatch (context.line engine.codec) = none
  notMuted : mod.senderMute engine context = none

theorem startsWithAnyPrefix_iff (message : Bytes) (prefixes : List Bytes) :
    startsWithAnyPrefix message prefixes = true ↔
      ∃ candidate ∈ prefixes, candidate ≠ [] ∧ candidate.IsPrefix message := by
  simp [startsWithAnyPrefix, List.isPrefixOf_iff_prefix]

theorem mem_loopGuardPrefixes {config : Config} {candidate : Bytes} :
    candidate ∈ loopGuardPrefixes config ↔
      candidate ∈ config.prefixes ∨ ∃ configured ∈ config.prefixes,
        configured ≠ [] ∧ configured.head? ≠ some 0x5B ∧
          ascii "[" ++ configured ++ ascii "]" = candidate := by
  simp only [loopGuardPrefixes, List.mem_append, List.mem_map, List.mem_filter,
    Bool.and_eq_true, Bool.not_eq_true', List.isEmpty_eq_false_iff, bne_iff_ne, and_assoc]

theorem startsWithAnyPrefix_loopGuard_iff (config : Config) (line : Bytes) :
    startsWithAnyPrefix line (loopGuardPrefixes config) = true ↔
      LooksTagged config line := by
  rw [startsWithAnyPrefix_iff]
  constructor
  · intro given
    rcases given with ⟨candidate, listed, nonempty, isPrefix⟩
    rcases mem_loopGuardPrefixes.mp listed with
      bare | ⟨configured, member, hasText, noBracket, rfl⟩
    · exact ⟨candidate, bare, nonempty, .inl isPrefix⟩
    · exact ⟨configured, member, hasText, .inr ⟨noBracket, isPrefix⟩⟩
  · intro given
    rcases given with ⟨configured, member, nonempty, bare | ⟨noBracket, bracketed⟩⟩
    · exact ⟨configured, mem_loopGuardPrefixes.mpr (.inl member), nonempty, bare⟩
    · have listed := mem_loopGuardPrefixes.mpr
        (.inr ⟨configured, member, nonempty, noBracket, rfl⟩)
      refine ⟨_, listed, ?_, bracketed⟩
      simp [nonempty]

/-! ## The invariant -/

/-- The four texts of an outbound message. -/
structure SoundMessage (Stems : ChatLine → Prop) (msg : OutboundMessage) : Prop where
  stems : ∃ line, Stems line ∧ msg.senderId = line.senderId ∧
    msg.guildName = line.guildName ∧ msg.message = line.message
  sender : CleanName msg.senderName
  guild : msg.guildName.length ≤ 64 ∧ ∀ byte ∈ msg.guildName, Bytes.isControl byte = false
  message : msg.message.length ≤ 512 ∧ ∀ byte ∈ msg.message, Bytes.isControl byte = false

structure SoundAction (Stems : ChatLine → Prop) (action : DeferredAction) : Prop where
  stems : ∃ line, Stems line ∧ action.senderUid = line.senderUid ∧
    action.category = line.category ∧ action.guildName = line.guildName ∧
    action.message = line.message
  sender : CleanName action.senderName
  guild : action.guildName.length ≤ 64 ∧
    ∀ byte ∈ action.guildName, Bytes.isControl byte = false
  message : action.message.length ≤ 512 ∧
    ∀ byte ∈ action.message, Bytes.isControl byte = false

structure CleanLine (line : ChatLine) : Prop where
  guild : line.guildName.length ≤ 64 ∧ ∀ byte ∈ line.guildName, Bytes.isControl byte = false
  message : line.message.length ≤ 512 ∧ ∀ byte ∈ line.message, Bytes.isControl byte = false

theorem cleanLine_chatLine (engine : Engine) (config : Config) (context : HookContext) :
    CleanLine (context.chatLine engine config) where
  guild := ⟨sanitizeMessage_length_le _ _, fun _ => not_isControl_of_mem_sanitize⟩
  message := ⟨sanitizeMessage_length_le _ _, fun _ => not_isControl_of_mem_sanitize⟩

structure SoundInject (Stems : ChatLine → Prop) (inject : ChatInject) : Prop where
  deferred : ∀ action ∈ inject.deferred.items,
    action.kind = .localTagged → SoundAction Stems action
  enqueued : ∀ action, .enqueued action ∈ inject.journal →
    action.kind = .localTagged → SoundAction Stems action

structure SoundMod (Stems : ChatLine → Prop) (mod : Mod) : Prop where
  /-- Nobody is muted when no pattern is configured. -/
  unmuted : mod.filter.active = false → ∀ key, mod.filter.mutes key = none
  cache : CleanCache mod.capture
  pending : ∀ pending ∈ mod.capture.pendingChatRelays.items,
    Stems pending.chatLine ∧ CleanLine pending.chatLine
  inject : SoundInject Stems mod.world.inject
  outbound : ∀ msg ∈ mod.outbound.items, SoundMessage Stems msg
  pushed : ∀ msg, .outboundPushed msg ∈ mod.journal → SoundMessage Stems msg

structure SoundThread (Stems : ChatLine → Prop) (config : Config) (state : DbState) :
    Prop where
  outbound : ∀ msg ∈ state.outbound.items, SoundMessage Stems msg
  inserting : ∀ msg, state.worker.control = .inserting msg → SoundMessage Stems msg
  inserted : ∀ msg row, .inserted msg row ∈ state.worker.journal →
    SoundMessage Stems msg ∧ row = { DbWorker.outboundRow config msg with id := row.id }

structure SoundWorld (Stems : ChatLine → Prop) (config : Config) (world : World) : Prop where
  mod : SoundMod Stems world.mod
  thread : SoundThread Stems config world.dbState

/-! ## More stems -/

section Mono

variable {Stems Others : ChatLine → Prop}

theorem SoundMessage.mono (more : ∀ line, Stems line → Others line) {msg : OutboundMessage}
    (sound : SoundMessage Stems msg) : SoundMessage Others msg := by
  rcases sound.stems with ⟨line, stems, equal⟩
  exact { sound with stems := ⟨line, more line stems, equal⟩ }

theorem SoundAction.mono (more : ∀ line, Stems line → Others line) {action : DeferredAction}
    (sound : SoundAction Stems action) : SoundAction Others action := by
  rcases sound.stems with ⟨line, stems, equal⟩
  exact { sound with stems := ⟨line, more line stems, equal⟩ }

theorem SoundWorld.mono (more : ∀ line, Stems line → Others line) {config : Config}
    {world : World} (sound : SoundWorld Stems config world) :
    SoundWorld Others config world where
  mod :=
    { unmuted := sound.mod.unmuted
      cache := sound.mod.cache
      pending := fun pending member =>
        ⟨more _ (sound.mod.pending pending member).1, (sound.mod.pending pending member).2⟩
      inject :=
        ⟨fun action member tagged => (sound.mod.inject.deferred action member tagged).mono more,
          fun action member tagged => (sound.mod.inject.enqueued action member tagged).mono more⟩
      outbound := fun msg member => (sound.mod.outbound msg member).mono more
      pushed := fun msg member => (sound.mod.pushed msg member).mono more }
  thread :=
    { outbound := fun msg member => (sound.thread.outbound msg member).mono more
      inserting := fun msg held => (sound.thread.inserting msg held).mono more
      inserted := fun msg row member =>
        ⟨(sound.thread.inserted msg row member).1.mono more,
          (sound.thread.inserted msg row member).2⟩ }

end Mono

/-! ## Inject -/

namespace SoundInject

variable {Stems : ChatLine → Prop} {inject : ChatInject}

theorem enqueue (sound : SoundInject Stems inject) {action : DeferredAction}
    (soundAction : action.kind = .localTagged → SoundAction Stems action) :
    SoundInject Stems (inject.enqueue action) where
  deferred other member tagged := by
    rcases BoundedDeque.mem_push member with old | rfl
    · exact sound.deferred other old tagged
    · exact soundAction tagged
  enqueued other member tagged := by
    have split : .enqueued other ∈ inject.journal ∨ other = action := by
      simpa [ChatInject.enqueue, ChatInject.note] using member
    rcases split with old | rfl
    · exact sound.enqueued other old tagged
    · exact soundAction tagged

theorem notices (sound : SoundInject Stems inject) {after : ChatInject}
    (notices : inject.AppendsNotices after) : SoundInject Stems after := by
  rcases notices with ⟨actions, kinds, rfl⟩
  induction actions generalizing inject with
  | nil => exact sound
  | cons action rest induction =>
      refine induction (sound.enqueue fun tagged => ?_) fun other member =>
        kinds other (by simp [member])
      exact absurd tagged (kinds action (by simp))

theorem tick {engine : Engine} {world after : InjectWorld}
    (sound : SoundInject Stems world.inject)
    (ticked : ChatInject.Ticked engine world after) : SoundInject Stems after.inject := by
  rcases ticked.frame with ⟨⟨added, grown, noEnqueue⟩, left⟩
  refine ⟨fun action member => sound.deferred action (left.subset member), ?_⟩
  intro action member tagged
  rw [grown] at member
  rcases List.mem_append.mp member with old | new
  · exact sound.enqueued action old tagged
  · exact absurd new (noEnqueue action)

end SoundInject

/-! ## Callbacks -/

namespace SoundMod

variable {Stems : ChatLine → Prop} {mod : Mod}

theorem linkStep (sound : SoundMod Stems mod) {after : Mod} (step : mod.LinkStep after) :
    SoundMod Stems after where
  unmuted := by rw [step.filter]; exact sound.unmuted
  cache := sound.cache.grow step.names
  pending := by rw [step.pending]; exact sound.pending
  inject := by rw [step.inject]; exact sound.inject
  outbound := by rw [step.outbound]; exact sound.outbound
  pushed msg member := by
    rcases step.journal with ⟨added, grown, jobs⟩
    rw [grown] at member
    rcases List.mem_append.mp member with old | new
    · exact sound.pushed msg old
    · rcases jobs _ new with ⟨job, impossible⟩
      cases impossible

theorem noticeStep (sound : SoundMod Stems mod) {after : Mod} (step : mod.NoticeStep after) :
    SoundMod Stems after where
  unmuted := by rw [step.filter]; exact sound.unmuted
  cache := by
    intro key name cached
    rw [step.names] at cached
    exact sound.cache key name cached
  pending := by rw [step.pending]; exact sound.pending
  inject := sound.inject.notices step.notices
  outbound := by rw [step.outbound]; exact sound.outbound
  pushed := by rw [step.journal]; exact sound.pushed

theorem relayed (sound : SoundMod Stems mod) {name : Bytes} (clean : CleanName name)
    {pending : PendingChatRelay} (stems : Stems pending.chatLine)
    (cleanLine : CleanLine pending.chatLine) :
    SoundMod Stems (mod.relayed name pending) := by
  have soundMessage : SoundMessage Stems
      { senderName := name
        senderId := pending.senderId
        guildName := pending.guildName
        message := pending.message } :=
    ⟨⟨pending.chatLine, stems, rfl, rfl, rfl⟩, clean, cleanLine.guild, cleanLine.message⟩
  refine ⟨sound.unmuted, sound.cache, sound.pending, ?_, ?_, ?_⟩
  · unfold Mod.relayed
    dsimp only
    split
    · exact sound.inject.enqueue fun _ =>
        ⟨⟨pending.chatLine, stems, rfl, rfl, rfl, rfl⟩, clean, cleanLine.guild,
          cleanLine.message⟩
    · exact sound.inject
  · intro msg member
    rcases BoundedQueue.mem_push member with old | rfl
    · exact sound.outbound msg old
    · exact soundMessage
  · intro msg member
    rcases List.mem_append.mp member with old | new
    · exact sound.pushed msg old
    · cases List.mem_singleton.mp new
      exact soundMessage

theorem deferRelay (sound : SoundMod Stems mod) {pending : PendingChatRelay}
    (stems : Stems pending.chatLine) (cleanLine : CleanLine pending.chatLine) :
    SoundMod Stems (mod.deferRelay pending) :=
  { sound with
    pending := fun other member => by
      rcases BoundedDeque.mem_push member with old | rfl
      · exact sound.pending other old
      · exact ⟨stems, cleanLine⟩
    pushed := fun msg member => by
      rcases List.mem_append.mp member with old | new
      · exact sound.pushed msg old
      · cases List.mem_singleton.mp new }

theorem flushChatRelay (engine : Engine) (sound : SoundMod Stems mod)
    {pending : PendingChatRelay} (stems : Stems pending.chatLine)
    (cleanLine : CleanLine pending.chatLine) :
    SoundMod Stems (mod.flushChatRelay engine pending) := by
  have popped : SoundMod Stems mod.popChatRelay :=
    { sound with pending := fun other member =>
        sound.pending other (BoundedDeque.mem_of_mem_pop member) }
  rcases Mod.resolveRelayName_spec engine mod.popChatRelay pending popped.cache with
    ⟨clean, step⟩
  rw [Mod.flushChatRelay_eq]
  exact (popped.linkStep step).relayed clean stems cleanLine

theorem flushDeferred (engine : Engine) (sound : SoundMod Stems mod) :
    SoundMod Stems (mod.flushDeferred engine) := by
  have linked := sound.linkStep
    (Mod.flushSetDiscords_linkStep engine mod mod.capture.pendingSetDiscord.items)
  have folded : ∀ (items : List PendingChatRelay) (mod : Mod), SoundMod Stems mod →
      (∀ pending ∈ items, Stems pending.chatLine ∧ CleanLine pending.chatLine) →
      SoundMod Stems (items.foldl (Mod.flushChatRelay engine) mod) := by
    intro items
    induction items with
    | nil => exact fun mod sound _ => sound
    | cons pending rest induction =>
        intro mod sound lines
        rcases lines pending (by simp) with ⟨stems, cleanLine⟩
        exact induction _ (sound.flushChatRelay engine stems cleanLine)
          fun other member => lines other (by simp [member])
  exact folded _ _ linked linked.pending

/-- A new filter that mutes nobody while inactive, and new notices. -/
theorem screenedWith (sound : SoundMod Stems mod) {filter : WordFilter}
    {audience : AudienceTracker} {moment : Nat} {inject : ChatInject}
    (unmuted : filter.active = false → ∀ key, filter.mutes key = none)
    (notices : mod.world.inject.AppendsNotices inject) :
    SoundMod Stems
      { mod with filter, world := { mod.world with audience, moment, inject } } :=
  { sound with unmuted := unmuted, inject := sound.inject.notices notices }

theorem screened (engine : Engine) (context : HookContext) (sound : SoundMod Stems mod) :
    SoundMod Stems (mod.screened engine context) := by
  rcases Mod.screened_eq engine mod context with
    ⟨filter, audience, moment, equal, patterns, -, inactive⟩
  rw [equal]
  refine sound.screenedWith (fun off => ?_) (.refl _)
  have wasOff : mod.filter.active = false := by
    simpa [WordFilter.active, patterns] using off
  rw [inactive wasOff]
  exact sound.unmuted wasOff

theorem enqueueWebhook (sound : SoundMod Stems mod) (webhookUrl content : Bytes) :
    SoundMod Stems (mod.enqueueWebhook webhookUrl content) := by
  unfold Mod.enqueueWebhook
  split
  · exact sound
  · refine { sound with pushed := fun msg member => ?_ }
    rcases List.mem_append.mp member with old | new
    · exact sound.pushed msg old
    · cases List.mem_singleton.mp new

theorem cleanName_readSender (sound : SoundMod Stems mod) {context : HookContext}
    (known : (mod.capture.readSender context).haveDisplayName = true) :
    CleanName (mod.capture.readSender context).name := by
  have nonempty : mod.capture.displayName context ≠ [] := by
    simpa [ChatCapture.readSender] using known
  have named : (mod.capture.readSender context).name =
      mod.capture.displayName context := by
    simp [ChatCapture.readSender, nonempty]
  rw [named]
  unfold ChatCapture.displayName at nonempty ⊢
  split
  · rename_i noProperty
    rw [if_pos noProperty] at nonempty
    exact sound.cache.lookup nonempty
  · rename_i hasProperty
    exact cleanName_sanitize fun noName => hasProperty (by
      rw [HookContext.propertyName, noName]
      rfl)

theorem relayable (engine : Engine) (config : Config) {context : HookContext}
    (sound : SoundMod Stems mod)
    (branch : mod.hookBranch engine config context = .relayed) :
    Relayable engine config mod context := by
  rcases Mod.hookBranch_eq_relayed_iff.mp branch with
    ⟨nonempty, -, unmuted, noHit, notCommand, category, untagged⟩
  refine ⟨category, nonempty, notCommand, ?_, fun _ => noHit, ?_⟩
  · rw [← startsWithAnyPrefix_loopGuard_iff]
    simpa using untagged
  · cases active : mod.filter.active with
    | true => simpa [active] using unmuted
    | false => simp [Mod.senderMute, WordFilter.activeMute, sound.unmuted active]

theorem handleHook (engine : Engine) (config : Config) (context : HookContext)
    (sound : SoundMod Stems mod)
    (stems : Relayable engine config mod context →
      Stems (context.chatLine engine config)) :
    SoundMod Stems (mod.handleHook engine config context).1 := by
  have screened := sound.screened engine context
  have active : ∀ {filter : WordFilter}, filter.patterns = mod.filter.patterns →
      mod.filter.active = true → filter.active = false →
        ∀ key, filter.mutes key = none := by
    intro filter patterns on off
    simp [WordFilter.active, patterns] at on off
    exact absurd off on
  rw [Mod.handleHook_eq]
  cases branch : mod.hookBranch engine config context with
  | empty => exact sound
  | setDiscord connectCode => exact { sound with }
  | muted =>
      rcases Mod.suppressMuted_eq engine (mod.screened engine context) context
        (mod.capture.readSender context) with
        ⟨filter, moment, inject, patterns, notices, equal⟩
      dsimp only
      rw [equal]
      exact screened.screenedWith (active (patterns.trans Mod.screened_patterns)
        (Mod.active_of_hookBranch_eq_muted branch)) notices
  | filtered hit =>
      rcases Mod.suppressFiltered_eq engine config (mod.screened engine context) context
        (mod.capture.readSender context) (context.line engine.codec) hit with
        ⟨filter, moment, inject, patterns, notices, equal⟩
      dsimp only
      rw [equal]
      exact (screened.screenedWith (active (patterns.trans Mod.screened_patterns)
        (Mod.active_of_hookBranch_eq_filtered branch)) notices).enqueueWebhook _ _
  | command => exact screened
  | otherCategory => exact screened
  | tagged => exact screened
  | relayed =>
      have line := stems (sound.relayable engine config branch)
      have clean := cleanLine_chatLine engine config context
      dsimp only
      rw [Mod.relayLine_eq]
      split
      · rename_i known
        exact screened.relayed (sound.cleanName_readSender known) line clean
      · exact screened.deferRelay line clean

/-- The mod when `on_update` reaches `Drain`. -/
theorem beforeDrain (engine : Engine) (sound : SoundMod Stems mod) :
    SoundMod Stems (mod.beforeDrain engine) := by
  have flushed := sound.flushDeferred engine
  have ticked : SoundMod Stems ((mod.flushDeferred engine).audienceTick engine) :=
    { flushed with }
  exact ticked.noticeStep (Mod.deliverLinkResults_noticeStep engine _)

theorem onUpdate (engine : Engine) (config : Config) (sound : SoundMod Stems mod) :
    SoundMod Stems (mod.onUpdate engine config) := by
  have delivered := sound.beforeDrain engine
  rcases Mod.drainInject_eq engine (mod.beforeDrain engine) config with
    ⟨world, drained, equal⟩
  change SoundMod Stems ((mod.beforeDrain engine).drainInject engine config)
  rw [equal]
  exact { delivered with inject := delivered.inject.tick drained }

end SoundMod

/-! ## The database thread -/

namespace SoundThread

variable {Stems : ChatLine → Prop} {config : Config} {state after : DbState}

theorem quiet (sound : SoundThread Stems config state)
    (quiet : DbWorker.Quiet state after) : SoundThread Stems config after where
  outbound := by rw [quiet.outbound]; exact sound.outbound
  inserting msg held := by
    have free := quiet.holds
    rw [held] at free
    cases free
  inserted msg row member := by
    rcases quiet.journal with ⟨added, grown, others⟩
    rw [grown] at member
    rcases List.mem_append.mp member with old | new
    · exact sound.inserted msg row old
    · cases others _ new

theorem noted (sound : SoundThread Stems config state) (event : WorkerEvent)
    (control : Control) (noInsert : ∀ msg row, event ≠ .inserted msg row)
    (noItem : ∀ msg, control ≠ .inserting msg) :
    SoundThread Stems config (DbWorker.goTo (DbWorker.note state event) control) where
  outbound := sound.outbound
  inserting msg held := absurd held (noItem msg)
  inserted msg row member := by
    rcases List.mem_append.mp member with old | new
    · exact sound.inserted msg row old
    · exact absurd (List.mem_singleton.mp new).symm (noInsert msg row)

theorem move (sound : SoundThread Stems config state)
    (moved : DbWorker.Move config state after) : SoundThread Stems config after := by
  cases moved with
  | quiet quiet => exact sound.quiet quiet
  | readMaxId control => exact sound.noted _ _ nofun nofun
  | armCursor maxId control => exact ⟨sound.outbound, nofun, sound.inserted⟩
  | pop item control popped =>
      refine ⟨fun msg member => sound.outbound msg (BoundedQueue.mem_of_mem_tryPop member),
        fun msg held => ?_, sound.inserted⟩
      cases held
      exact sound.outbound item (BoundedQueue.mem_of_tryPop popped)
  | store item control =>
      refine ⟨sound.outbound, nofun, fun msg row member => ?_⟩
      rcases List.mem_append.mp member with old | new
      · exact sound.inserted msg row old
      · cases List.mem_singleton.mp new
        exact ⟨sound.inserting item control, rfl⟩
  | requeue item control =>
      have requeued : SoundThread Stems config
          { state with outbound := state.outbound.push item } := by
        refine ⟨fun msg member => ?_, sound.inserting, sound.inserted⟩
        rcases BoundedQueue.mem_push member with old | rfl
        · exact sound.outbound msg old
        · exact sound.inserting _ control
      exact requeued.quiet DbWorker.quiet_markFailure
  | select now control => exact sound.noted _ _ nofun nofun
  | fetch batch row rest beyond control rows =>
      have pushed := sound.noted
        (.inboundPushed row ((batch.buffers.fetch row).decode beyond row))
        (.updatingCursor row.id
          { batch with rows := rest, buffers := batch.buffers.fetch row }) nofun nofun
      exact ⟨pushed.outbound, pushed.inserting, pushed.inserted⟩
  | advance id batch control => exact ⟨sound.outbound, nofun, sound.inserted⟩

end SoundThread

/-! ## Runs -/

/-- The line came from a hook call of the run that passed every gate. -/
def Stems (engine : Engine) (config : Config) (initial : World)
    (inputs : List WorldInput) (line : ChatLine) : Prop :=
  ∃ past context rest, inputs = past ++ .hook context :: rest ∧
    Relayable engine config (World.run engine config initial past).mod context ∧
    line = context.chatLine engine config

theorem SoundWorld.initial {Stems : ChatLine → Prop} (compile : RegexCompiler)
    (config : Config) (startedAt : Nanoseconds) (players : List PlayerRow) :
    SoundWorld Stems config (.initial compile config startedAt players) where
  mod :=
    { unmuted := fun _ _ => rfl
      cache := nofun
      pending := nofun
      inject := ⟨nofun, nofun⟩
      outbound := nofun
      pushed := nofun }
  thread := ⟨nofun, nofun, nofun⟩

section Runs

variable {engine : Engine} {config : Config} {initial : World}

theorem Stems.snoc {past : List WorldInput} {line : ChatLine}
    (stems : Stems engine config initial past line) (input : WorldInput) :
    Stems engine config initial (past ++ [input]) line := by
  rcases stems with ⟨before, context, rest, split, relayable, equal⟩
  exact ⟨before, context, rest ++ [input], by simp [split], relayable, equal⟩

/-- A step keeps what it needs, when the line of a hook call that passes is a stem. -/
theorem SoundWorld.step_of_stems {Stems : ChatLine → Prop} {world : World}
    (sound : SoundWorld Stems config world) (input : WorldInput)
    (stems : ∀ context, input = .hook context → Relayable engine config world.mod context →
      Stems (context.chatLine engine config)) :
    SoundWorld Stems config (world.step engine config input) := by
  cases input with
  | hook context =>
      have hooked := sound.mod.handleHook engine config context (stems context rfl)
      exact ⟨hooked, hooked.outbound, sound.thread.inserting, sound.thread.inserted⟩
  | update =>
      have updated := sound.mod.onUpdate engine config
      exact ⟨updated, updated.outbound, sound.thread.inserting, sound.thread.inserted⟩
  | join playerState => exact ⟨{ sound.mod with }, { sound.thread with }⟩
  | worker input =>
      have stepped := sound.thread.move (DbWorker.step_move config _ input)
      exact ⟨{ sound.mod with outbound := stepped.outbound }, stepped⟩
  | remote action => exact ⟨{ sound.mod with }, { sound.thread with }⟩
  | webhookPopped => exact ⟨{ sound.mod with }, { sound.thread with }⟩

theorem SoundWorld.step (past : List WorldInput) (input : WorldInput)
    (sound : SoundWorld (Stems engine config initial past) config
      (World.run engine config initial past)) :
    SoundWorld (Stems engine config initial (past ++ [input])) config
      ((World.run engine config initial past).step engine config input) := by
  have kept := sound.mono fun line stems => stems.snoc input
  refine kept.step_of_stems input fun context hooked relayable => ?_
  exact ⟨past, context, [], by rw [hooked], relayable, rfl⟩

end Runs

theorem soundWorld_run (engine : Engine) (config : Config) (compile : RegexCompiler)
    (startedAt : Nanoseconds) (players : List PlayerRow) (inputs : List WorldInput) :
    SoundWorld (Stems engine config (.initial compile config startedAt players) inputs) config
      (World.run engine config (.initial compile config startedAt players) inputs) := by
  exact Execution.run_history_invariant
    (fun inputs world => SoundWorld
      (Stems engine config (.initial compile config startedAt players) inputs) config world)
    (.initial compile config startedAt players) SoundWorld.step inputs

/-- Every message that was ever queued or stored, and every rebroadcast, is a
Global line that passed the gates of the hook, with sanitized texts. -/
theorem relaySoundness (engine : Engine) (config : Config) (compile : RegexCompiler)
    (startedAt : Nanoseconds) (players : List PlayerRow) (inputs : List WorldInput) :
    let initial := World.initial compile config startedAt players
    let world := World.run engine config initial inputs
    (∀ msg, msg ∈ world.mod.outbound.items ∨ .outboundPushed msg ∈ world.mod.journal →
      SoundMessage (Stems engine config initial inputs) msg) ∧
    (∀ msg row, .inserted msg row ∈ world.worker.journal →
      SoundMessage (Stems engine config initial inputs) msg ∧
        row = { DbWorker.outboundRow config msg with id := row.id }) ∧
    (∀ action, action.kind = .localTagged →
      action ∈ world.mod.world.inject.deferred.items ∨
        .enqueued action ∈ world.mod.world.inject.journal →
      SoundAction (Stems engine config initial inputs) action) := by
  have sound := soundWorld_run engine config compile startedAt players inputs
  refine ⟨?_, sound.thread.inserted, ?_⟩
  · intro msg either
    rcases either with waiting | pushed
    · exact sound.mod.outbound msg waiting
    · exact sound.mod.pushed msg pushed
  · intro action tagged either
    rcases either with waiting | enqueued
    · exact sound.mod.inject.deferred action waiting tagged
    · exact sound.mod.inject.enqueued action enqueued tagged

def bracketConfig : Config where
  serverOrigin := ascii "pal-na"
  prefixNa := ascii "[NA]"

/-- A prefix that brings its own brackets is not guarded in further brackets. -/
theorem doubleBracket_relayed :
    bracketConfig.prefixNa ∈ bracketConfig.prefixes ∧ bracketConfig.prefixNa ≠ [] ∧
    ∃ msg ∈ (World.run quietEngine bracketConfig
      (.initial literalRegex bracketConfig 0 [])
      [.hook (typed (ascii "[[NA]] hi")), .update]).mod.outbound.items,
      (ascii "[" ++ bracketConfig.prefixNa ++ ascii "]").IsPrefix msg.message := by
  decide

end PalCrosschat
