import PalCrosschat.Callbacks
import PalCrosschat.Foundation.Deferral
import PalCrosschat.HookBranches
import PalCrosschat.World

/-! # The relay as a desk

The two paths of a relayed line, directly out of the hook and through the pending
deque, are a deferral desk: the hook submits lines, `FlushDeferred` is the flush,
and the display name is the name. What the desk delivers is what the mod pushes
to the outbound queue and, with a local tag, enqueues for rebroadcast. -/

namespace PalCrosschat

/-! ## A line under a name -/

namespace HookContext

variable (engine : Engine) (config : Config) (context : HookContext)

def senderNamed (name : Bytes) : Sender where
  uid := context.senderUid
  id := context.senderId
  name
  haveDisplayName := true

def relay : PendingChatRelay :=
  Mod.pendingRelay config context (context.senderNamed []) (context.line engine.codec)

def outboundUnder (name : Bytes) : OutboundMessage where
  senderName := name
  senderId := context.senderId
  guildName := context.guildName
  message := context.line engine.codec

def rebroadcastUnder (name : Bytes) : DeferredAction where
  kind := .localTagged
  senderName := name
  guildName := context.guildName
  message := context.line engine.codec
  category := context.categoryByte
  senderUid := context.senderUid

def rebroadcast (name : Bytes) : Option DeferredAction :=
  if Mod.localTag config context then some (context.rebroadcastUnder engine name) else none

end HookContext

/-! ## The journals -/

def pushedMessages (journal : List ModEvent) : List OutboundMessage :=
  journal.filterMap fun
    | .outboundPushed msg => some msg
    | _ => none

def enqueuedLines (journal : List InjectEvent) : List DeferredAction :=
  journal.filterMap fun
    | .enqueued action => if action.kind = .localTagged then some action else none
    | _ => none

theorem pushedMessages_append (journal added : List ModEvent) :
    pushedMessages (journal ++ added) = pushedMessages journal ++ pushedMessages added :=
  List.filterMap_append

theorem enqueuedLines_append (journal added : List InjectEvent) :
    enqueuedLines (journal ++ added) = enqueuedLines journal ++ enqueuedLines added :=
  List.filterMap_append

theorem filterMap_cons_toList {α β : Type} (choose : α → Option β) (head : α)
    (tail : List α) :
    (head :: tail).filterMap choose = (choose head).toList ++ tail.filterMap choose := by
  rw [List.filterMap_cons]
  cases choose head <;> rfl

theorem pushedMessages_eq_nil {added : List ModEvent}
    (noPush : ∀ msg, .outboundPushed msg ∉ added) : pushedMessages added = [] := by
  rw [pushedMessages, List.filterMap_eq_nil_iff]
  intro event member
  cases event with
  | outboundPushed msg => exact absurd member (noPush msg)
  | _ => rfl

theorem enqueuedLines_eq_nil {added : List InjectEvent}
    (noLine : ∀ action, .enqueued action ∈ added → action.kind ≠ .localTagged) :
    enqueuedLines added = [] := by
  rw [enqueuedLines, List.filterMap_eq_nil_iff]
  intro event member
  cases event with
  | enqueued action => exact if_neg (noLine action member)
  | _ => rfl

/-! ## Steps beside the relay -/

namespace Mod

structure Aside (before after : Mod) : Prop where
  pending : after.capture.pendingChatRelays = before.capture.pendingChatRelays
  pushed : pushedMessages after.journal = pushedMessages before.journal
  lines : enqueuedLines after.world.inject.journal = enqueuedLines before.world.inject.journal

theorem Aside.refl (mod : Mod) : Aside mod mod := ⟨rfl, rfl, rfl⟩

theorem Aside.trans {first second third : Mod} (left : Aside first second)
    (right : Aside second third) : Aside first third :=
  ⟨right.pending.trans left.pending, right.pushed.trans left.pushed,
    right.lines.trans left.lines⟩

theorem enqueuedLines_notices {before after : ChatInject}
    (notices : before.AppendsNotices after) :
    enqueuedLines after.journal = enqueuedLines before.journal := by
  rcases notices.journal with ⟨added, grown, kinds⟩
  rw [grown, enqueuedLines_append, enqueuedLines_eq_nil kinds, List.append_nil]

theorem LinkStep.aside {before after : Mod} (step : LinkStep before after) :
    Aside before after where
  pending := step.pending
  pushed := by
    rcases step.journal with ⟨added, grown, jobs⟩
    have none : pushedMessages added = [] := pushedMessages_eq_nil fun msg member => by
      rcases jobs _ member with ⟨job, impossible⟩
      cases impossible
    rw [grown, pushedMessages_append, none, List.append_nil]
  lines := by rw [step.inject]

theorem NoticeStep.aside {before after : Mod} (step : NoticeStep before after) :
    Aside before after where
  pending := step.pending
  pushed := by rw [step.journal]
  lines := enqueuedLines_notices step.notices

theorem NameStep.aside {before after : Mod} (step : NameStep before after) :
    Aside before after :=
  ⟨step.pending, by rw [step.journal], by rw [step.inject]⟩

theorem drainInject_aside (engine : Engine) (config : Config) (mod : Mod) :
    Aside mod (mod.drainInject engine config) := by
  rcases drainInject_eq engine mod config with ⟨world, ticked, equal⟩
  rcases ticked.frame with ⟨⟨added, grown, noEnqueue⟩, -⟩
  rw [equal]
  refine ⟨rfl, rfl, ?_⟩
  have none : enqueuedLines added = [] :=
    enqueuedLines_eq_nil fun action member => absurd member (noEnqueue action)
  change enqueuedLines world.inject.journal = _
  rw [grown, enqueuedLines_append, none, List.append_nil]

section Hook

variable {engine : Engine} {config : Config} {mod : Mod} {context : HookContext}

theorem enqueueWebhook_aside (mod : Mod) (webhookUrl content : Bytes) :
    Aside mod (mod.enqueueWebhook webhookUrl content) := by
  unfold enqueueWebhook
  split
  · exact .refl mod
  · refine ⟨rfl, ?_, rfl⟩
    rw [pushedMessages_append]
    exact List.append_nil _

theorem screened_aside : Aside mod (mod.screened engine context) :=
  ⟨by rw [screened_capture], by rw [screened_journal], by rw [screened_inject]⟩

theorem handleHook_aside (other : mod.hookBranch engine config context ≠ .relayed) :
    Aside mod (mod.handleHook engine config context).1 := by
  rw [handleHook_eq]
  cases branch : mod.hookBranch engine config context with
  | empty => exact .refl mod
  | setDiscord connectCode => exact ⟨rfl, rfl, rfl⟩
  | muted =>
      rcases suppressMuted_eq engine (mod.screened engine context) context
        (mod.capture.readSender context) with ⟨filter, moment, inject, -, notices, equal⟩
      dsimp only
      rw [equal]
      exact screened_aside.trans ⟨rfl, rfl, enqueuedLines_notices notices⟩
  | filtered hit =>
      rcases suppressFiltered_eq engine config (mod.screened engine context) context
        (mod.capture.readSender context) (context.line engine.codec) hit with
        ⟨filter, moment, inject, -, notices, equal⟩
      dsimp only
      rw [equal]
      refine .trans ?_ (enqueueWebhook_aside _ _ _)
      exact screened_aside.trans ⟨rfl, rfl, enqueuedLines_notices notices⟩
  | command => exact screened_aside
  | otherCategory => exact screened_aside
  | tagged => exact screened_aside
  | relayed => exact absurd branch other

end Hook

/-! ## Relaying -/

section Relayed

variable {engine : Engine} {config : Config} {mod : Mod} {context : HookContext}

theorem relayed_pending (name : Bytes) (pending : PendingChatRelay) :
    (mod.relayed name pending).capture.pendingChatRelays =
      mod.capture.pendingChatRelays := rfl

theorem relayed_pushed (name : Bytes) :
    pushedMessages (mod.relayed name (context.relay engine config)).journal =
      pushedMessages mod.journal ++ [context.outboundUnder engine name] :=
  pushedMessages_append _ _

theorem relayed_lines (name : Bytes) :
    enqueuedLines (mod.relayed name (context.relay engine config)).world.inject.journal =
      enqueuedLines mod.world.inject.journal ++
        (context.rebroadcast engine config name).toList := by
  unfold relayed HookContext.rebroadcast
  change enqueuedLines (if localTag config context then _ else mod.world.inject).journal = _
  split
  · exact enqueuedLines_append _ _
  · exact (List.append_nil _).symm

theorem relayLine_senderNamed (config : Config) (mod : Mod) (context : HookContext)
    (name : Bytes) :
    mod.relayLine config context (context.senderNamed name) (context.line engine.codec) =
      mod.relayed name (context.relay engine config) :=
  relayLine_eq mod config context (context.senderNamed name) (context.line engine.codec)

end Relayed

/-! ## Names -/

/-- The display names that `FlushPendingChatRelays` finds, by position. -/
def relayName (engine : Engine) : List PendingChatRelay → Mod → Nat → Bytes
  | [], _, _ => []
  | pending :: _, mod, 0 => (mod.popChatRelay.resolveRelayName engine pending).1
  | pending :: rest, mod, position + 1 =>
      relayName engine rest (mod.flushChatRelay engine pending) position

end Mod

/-! ## The desk of a run -/

abbrev RelayDesk := Deferral.Desk kMaxPendingChatRelays HookContext Bytes
abbrev RelayEvent := Deferral.Event HookContext Bytes
abbrev RelayTicket := Deferral.Ticket HookContext Bytes
abbrev RelayDelivery := Deferral.Delivery HookContext Bytes

section Desk

variable (engine : Engine) (config : Config)

def Mod.knownName (mod : Mod) (context : HookContext) : Option Bytes :=
  if (mod.capture.displayName context).isEmpty then none
  else some (mod.capture.displayName context)

def relayEvent (world : World) : WorldInput → RelayEvent
  | .hook context =>
      if world.mod.hookBranch engine config context = .relayed then
        .submit context (world.mod.knownName context)
      else .idle
  | .update =>
      let linked := world.mod.capture.pendingSetDiscord.items.foldl
        (Mod.flushSetDiscord engine) world.mod
      .flush (Mod.relayName engine linked.capture.pendingChatRelays.items linked)
  | _ => .idle

def relayEvents (initial : World) (inputs : List WorldInput) : List RelayEvent :=
  Execution.trace (World.step engine config) (relayEvent engine config) initial inputs

def relayDesk (initial : World) (inputs : List WorldInput) : RelayDesk :=
  .after kMaxPendingChatRelays (relayEvents engine config initial inputs)

def outboundOf (delivery : RelayDelivery) : OutboundMessage :=
  delivery.ticket.item.outboundUnder engine delivery.name

def rebroadcastOf (delivery : RelayDelivery) : Option DeferredAction :=
  delivery.ticket.item.rebroadcast engine config delivery.name

structure Describes (desk : RelayDesk) (mod : Mod) : Prop where
  waiting : mod.capture.pendingChatRelays.items =
    desk.waiting.items.map fun ticket => ticket.item.relay engine config
  pushed : pushedMessages mod.journal = desk.delivered.map (outboundOf engine)
  enqueued : enqueuedLines mod.world.inject.journal =
    desk.delivered.filterMap (rebroadcastOf engine config)

end Desk

namespace Describes

variable {engine : Engine} {config : Config} {desk : RelayDesk} {mod : Mod}

theorem aside (describes : Describes engine config desk mod) {after : Mod}
    (aside : mod.Aside after) : Describes engine config desk after :=
  ⟨aside.pending ▸ describes.waiting, aside.pushed.trans describes.pushed,
    aside.lines.trans describes.enqueued⟩

theorem relayed (describes : Describes engine config desk mod) (context : HookContext)
    (name : Bytes) :
    Describes engine config (desk.submit context (some name))
      (mod.relayed name (context.relay engine config)) where
  waiting := describes.waiting
  pushed := by
    rw [Mod.relayed_pushed, describes.pushed, Deferral.Desk.submit, List.map_append]
    rfl
  enqueued := by
    rw [Mod.relayed_lines, describes.enqueued, Deferral.Desk.submit, List.filterMap_append,
      filterMap_cons_toList]
    exact congrArg (_ ++ ·) (List.append_nil _).symm

theorem deferRelay (describes : Describes engine config desk mod) (context : HookContext) :
    Describes engine config (desk.submit context none)
      (mod.deferRelay (context.relay engine config)) where
  waiting := by
    have survivors : mod.capture.pendingChatRelays.survivors =
        desk.waiting.survivors.map fun ticket => ticket.item.relay engine config := by
      simp only [BoundedDeque.survivors, describes.waiting, List.length_map]
      split
      · exact List.map_tail.symm
      · rfl
    change mod.capture.pendingChatRelays.survivors ++ _ = _
    rw [survivors, Deferral.Desk.submit, BoundedDeque.push_items, List.map_append]
    rfl
  pushed := by
    refine Eq.trans ?_ describes.pushed
    rw [Mod.deferRelay, pushedMessages_append]
    exact List.append_nil _
  enqueued := describes.enqueued

end Describes

/-! ## Flushing -/

section Flush

variable {engine : Engine} {config : Config}

/-- The loop of `FlushPendingChatRelays` sends the waiting lines in order. -/
theorem flushChatRelays_spec (tickets : List RelayTicket) (mod : Mod) (time : Nat)
    (waiting : mod.capture.pendingChatRelays.items =
      tickets.map fun ticket => ticket.item.relay engine config) :
    let pending := tickets.map fun ticket => ticket.item.relay engine config
    let deliveries : List RelayDelivery := tickets.mapIdx fun position ticket =>
      { ticket, name := Mod.relayName engine pending mod position, time }
    let after := pending.foldl (Mod.flushChatRelay engine) mod
    after.capture.pendingChatRelays.items = [] ∧
      pushedMessages after.journal =
        pushedMessages mod.journal ++ deliveries.map (outboundOf engine) ∧
      enqueuedLines after.world.inject.journal =
        enqueuedLines mod.world.inject.journal ++
          deliveries.filterMap (rebroadcastOf engine config) := by
  induction tickets generalizing mod with
  | nil => simpa using waiting
  | cons ticket rest induction =>
      let relay := ticket.item.relay engine config
      let named := (mod.popChatRelay.resolveRelayName engine relay).2
      let name := (mod.popChatRelay.resolveRelayName engine relay).1
      have aside : mod.popChatRelay.Aside named :=
        (Mod.resolveRelayName_nameStep engine mod.popChatRelay relay).aside
      have flushed : mod.flushChatRelay engine relay = named.relayed name relay :=
        Mod.flushChatRelay_eq engine mod relay
      have stillWaiting : (mod.flushChatRelay engine relay).capture.pendingChatRelays.items =
          rest.map fun ticket => ticket.item.relay engine config := by
        rw [flushed, Mod.relayed_pending, aside.pending]
        exact congrArg List.tail waiting
      have pushed : pushedMessages (mod.flushChatRelay engine relay).journal =
          pushedMessages mod.journal ++ [ticket.item.outboundUnder engine name] := by
        rw [flushed, Mod.relayed_pushed, aside.pushed]
        rfl
      have lines : enqueuedLines (mod.flushChatRelay engine relay).world.inject.journal =
          enqueuedLines mod.world.inject.journal ++
            (ticket.item.rebroadcast engine config name).toList := by
        rw [flushed, Mod.relayed_lines, aside.lines]
        rfl
      rcases induction (mod.flushChatRelay engine relay) stillWaiting with
        ⟨noneLeft, restPushed, restLines⟩
      simp only [List.mapIdx_cons, List.map_cons, List.foldl_cons]
      refine ⟨noneLeft, ?_, ?_⟩
      · rw [restPushed, pushed, List.append_assoc]
        rfl
      · rw [restLines, lines, List.append_assoc, filterMap_cons_toList]
        rfl

end Flush

/-! ## Runs -/

section Run

variable {engine : Engine} {config : Config}

theorem Describes.timed {desk : RelayDesk} {mod : Mod} (time : Nat)
    (describes : Describes engine config desk mod) :
    Describes engine config { desk with time } mod :=
  ⟨describes.waiting, describes.pushed, describes.enqueued⟩

theorem Describes.hook {desk : RelayDesk} {mod : Mod}
    (describes : Describes engine config desk mod) (context : HookContext)
    (branch : mod.hookBranch engine config context = .relayed) :
    Describes engine config (desk.submit context (mod.knownName context))
      (mod.handleHook engine config context).1 := by
  have screened : Describes engine config desk (mod.screened engine context) :=
    describes.aside Mod.screened_aside
  rw [Mod.handleHook_eq, branch]
  dsimp only
  rw [Mod.relayLine_eq]
  cases unknown : (mod.capture.displayName context).isEmpty with
  | true =>
      have deferred := screened.deferRelay context
      simp only [Mod.knownName, ChatCapture.readSender, unknown, if_true, Bool.not_true,
        Bool.false_eq_true, if_false]
      exact deferred
  | false =>
      have sent := screened.relayed context (mod.capture.displayName context)
      simp only [Mod.knownName, ChatCapture.readSender, unknown, if_true, Bool.not_false,
        Bool.false_eq_true, if_false]
      exact sent

theorem Describes.update {desk : RelayDesk} {world : World}
    (describes : Describes engine config desk world.mod) :
    Describes engine config (desk.handle (relayEvent engine config world .update))
      (world.mod.onUpdate engine config) := by
  let linked := world.mod.capture.pendingSetDiscord.items.foldl
    (Mod.flushSetDiscord engine) world.mod
  let names := Mod.relayName engine linked.capture.pendingChatRelays.items linked
  have linkedDescribes : Describes engine config desk linked :=
    describes.aside (Mod.flushSetDiscords_linkStep engine world.mod _).aside
  have flushed : Describes engine config (desk.flush names)
      (world.mod.flushDeferred engine) := by
    rcases flushChatRelays_spec desk.waiting.items linked desk.time
      linkedDescribes.waiting with ⟨noneLeft, pushed, lines⟩
    rw [← linkedDescribes.waiting] at noneLeft pushed lines
    refine ⟨noneLeft, ?_, ?_⟩
    · rw [linkedDescribes.pushed, ← List.map_append] at pushed
      exact pushed
    · rw [linkedDescribes.enqueued, ← List.filterMap_append] at lines
      exact lines
  rcases Mod.audienceTick_eq engine (world.mod.flushDeferred engine) with
    ⟨audience, moment, equal⟩
  have ticked : (world.mod.flushDeferred engine).Aside
      ((world.mod.flushDeferred engine).audienceTick engine) := by
    rw [equal]
    exact ⟨rfl, rfl, rfl⟩
  exact flushed.aside ((ticked.trans (Mod.deliverLinkResults_noticeStep engine _).aside).trans
    (Mod.drainInject_aside engine config _))

theorem Describes.step {desk : RelayDesk} {world : World}
    (describes : Describes engine config desk world.mod) (input : WorldInput) :
    Describes engine config (desk.step (relayEvent engine config world input))
      (world.step engine config input).mod := by
  refine .timed _ ?_
  cases input with
  | hook context =>
      by_cases branch : world.mod.hookBranch engine config context = .relayed
      · simp only [relayEvent, if_pos branch]
        exact describes.hook context branch
      · simp only [relayEvent, if_neg branch]
        exact describes.aside (Mod.handleHook_aside branch)
  | update => exact describes.update
  | join playerState => exact describes.aside ⟨rfl, rfl, rfl⟩
  | worker input => exact describes.aside ⟨rfl, rfl, rfl⟩
  | remote action => exact describes
  | webhookPopped => exact describes.aside ⟨rfl, rfl, rfl⟩

theorem relayDesk_snoc (initial : World) (past : List WorldInput) (input : WorldInput) :
    relayDesk engine config initial (past ++ [input]) =
      (relayDesk engine config initial past).step
        (relayEvent engine config (World.run engine config initial past) input) := by
  rw [relayDesk, relayEvents, Execution.trace_snoc]
  exact Execution.run_snoc _ _

/-- In every run the mod does what the desk says. -/
theorem describes_run (engine : Engine) (config : Config) (compile : RegexCompiler)
    (startedAt : Nanoseconds) (players : List PlayerRow) (inputs : List WorldInput) :
    Describes engine config
      (relayDesk engine config (.initial compile config startedAt players) inputs)
      (World.run engine config (.initial compile config startedAt players) inputs).mod := by
  refine Execution.run_history_invariant
    (fun inputs (world : World) => Describes engine config
      (relayDesk engine config (.initial compile config startedAt players) inputs) world.mod)
    ⟨rfl, rfl, rfl⟩ (fun past input describes => ?_) inputs
  rw [relayDesk_snoc]
  exact describes.step input

end Run

end PalCrosschat
