import PalCrosschat.ChatInject

/-! # Rules for the inject programs

Much of what `ChatInject` does is to look things up and to fill caches, which
leaves no trace. The deferred actions and the inbound lines are made of that and of
three functions that call the engine; a relation between the worlds before and
after that these respect is respected by all of them. -/

namespace PalCrosschat

/-- Only caches, counters, the roster and the inbound queue may differ, and engine
calls may have been made. -/
structure Unseen (start world : InjectWorld) : Prop where
  journal : world.inject.journal = start.inject.journal
  deferred : world.inject.deferred = start.inject.deferred
  readyAt : world.inject.worldReadyAt = start.inject.worldReadyAt
  circuit : world.inject.circuitOpen = start.inject.circuitOpen
  moment : start.moment ≤ world.moment

instance : IsPreorder InjectWorld Unseen where
  refl _ := ⟨rfl, rfl, rfl, rfl, Nat.le_refl _⟩
  trans _ _ _ left right :=
    ⟨right.journal.trans left.journal, right.deferred.trans left.deferred,
      right.readyAt.trans left.readyAt, right.circuit.trans left.circuit,
      Nat.le_trans left.moment right.moment⟩

theorem Unseen.audience (world : InjectWorld) (audience : AudienceTracker) :
    Unseen world { world with audience } :=
  ⟨rfl, rfl, rfl, rfl, Nat.le_refl _⟩

theorem Unseen.inbound (world : InjectWorld) (inbound : InboundQueue) :
    Unseen world { world with inbound } :=
  ⟨rfl, rfl, rfl, rfl, Nat.le_refl _⟩

namespace ChatInject

variable {α : Type}

/-! ## Silent programs -/

abbrev Silent (program : InjectProgram α) : Prop := Respects Unseen program

namespace Silent

theorem ask (question : Nat → α) : Silent (ChatInject.ask question) :=
  fun _ => ⟨rfl, rfl, rfl, rfl, Nat.le_succ _⟩

theorem modify {change : InjectWorld → InjectWorld}
    (unseen : ∀ world, Unseen world (change world)) :
    Silent (modify change : InjectProgram PUnit) :=
  unseen

/-- Updates of caches and counters are silent. -/
theorem updateInject {change : ChatInject → ChatInject}
    (frame : ∀ inject, (change inject).journal = inject.journal ∧
      (change inject).deferred = inject.deferred ∧
      (change inject).worldReadyAt = inject.worldReadyAt ∧
      (change inject).circuitOpen = inject.circuitOpen) :
    Silent (ChatInject.updateInject change) := by
  intro start
  rcases frame start.inject with ⟨journal, deferred, readyAt, circuit⟩
  exact ⟨journal, deferred, readyAt, circuit, Nat.le_refl _⟩

end Silent

section Programs

variable (engine : Engine) (config : Config)

theorem ensureBroadcastFunction_silent : Silent (ensureBroadcastFunction engine) := by
  unfold ensureBroadcastFunction
  refine .bind .get fun world => .ite (.pure true) ?_
  refine .bind (Silent.ask _) fun found => ?_
  exact .bind (Silent.updateInject (by simp)) fun _ => .pure found

theorem ensureServerNoticeFunction_silent :
    Silent (ensureServerNoticeFunction engine) := by
  unfold ensureServerNoticeFunction
  refine .bind .get fun world => .ite (.pure true) ?_
  refine .bind (Silent.ask _) fun found => ?_
  exact .bind (Silent.updateInject (by simp)) fun _ => .pure found

theorem fillInitFString_silent (text : Bytes) : Silent (fillInitFString engine text) := by
  unfold fillInitFString
  refine .ite (.pure _) ?_
  exact .bind (Silent.ask _) fun allocated => .ite (.pure _) (.pure _)

theorem fillReceivers_silent (receivers : List Guid) :
    Silent (fillReceivers engine receivers) := by
  unfold fillReceivers
  refine .ite (.pure _) ?_
  exact .bind (Silent.ask _) fun allocated => .ite (.pure _) (.pure _)

theorem bootstrapAudience_silent : Silent (bootstrapAudience engine) :=
  .bind (Silent.ask _) fun _ => .bind (Silent.ask _) fun _ =>
    Silent.modify fun world => .audience world _

theorem snapshotAudience_silent : Silent (snapshotAudience engine) :=
  .bind (Silent.ask _) fun _ world => .audience world _

end Programs

/-! ## Actions and lines -/

/-- What the actions and the inbound lines are made of: a relation that these
respect is respected by all of them. -/
structure ActionRules (engine : Engine) (Relation : InjectWorld → InjectWorld → Prop) :
    Prop where
  ask : ∀ {α : Type} (question : Nat → α), Respects Relation (ChatInject.ask question)
  bootstrap : Respects Relation (bootstrapAudience engine)
  snapshot : Respects Relation (snapshotAudience engine)
  rosterEmpty : Respects Relation (updateInject fun inject => inject.note .rosterEmpty)
  display : ∀ displaySender message category receivers senderPlayerUid,
    Respects Relation (broadcastDisplay engine displaySender message category receivers
      senderPlayerUid)
  notice : ∀ noticeMessage, Respects Relation (showServerNotice engine noticeMessage)
  screenLog : ∀ playerController message,
    Respects Relation (sendScreenLog engine playerController message)

namespace ActionRules

variable {engine : Engine} (config : Config) {Relation : InjectWorld → InjectWorld → Prop}
  [IsPreorder InjectWorld Relation] (rules : ActionRules engine Relation)
include rules

theorem broadcastDual (xboxSender xboxMessage formattedSender formattedMessage : Bytes)
    (category : Category) (senderPlayerUid : Option Guid) :
    Respects Relation (ChatInject.broadcastDual engine xboxSender xboxMessage formattedSender
      formattedMessage category senderPlayerUid) := by
  unfold ChatInject.broadcastDual
  refine .bind rules.bootstrap fun _ => .bind rules.snapshot fun lists => ?_
  refine .bind .get fun world => ?_
  dsimp only
  refine .ite ?_ (.ite (rules.display _ _ _ _ _) ?_)
  · exact .bind rules.rosterEmpty fun _ => .pure _
  · have xboxPart : ∀ othersOk, Respects Relation
        (if (senderPlayerUid.filter world.audience.isOnlinePlayerUid).isNone then
          (do let xboxOk ← Pure.pure true; return othersOk && xboxOk)
        else do
          let xboxOk ← broadcastDisplay engine xboxSender xboxMessage category lists.1
            (senderPlayerUid.filter world.audience.isOnlinePlayerUid)
          return othersOk && xboxOk) := fun othersOk =>
      .ite (.pure _) (.bind (rules.display _ _ _ _ _) fun _ => .pure _)
    refine .ite (.bind (.pure true) xboxPart) ?_
    exact .bind (rules.display _ _ _ _ _) xboxPart

theorem broadcastLocalTagged (senderName guildName message : Bytes)
    (category : Category) (senderPlayerUid : Guid) :
    Respects Relation (ChatInject.broadcastLocalTagged engine config senderName guildName
      message category senderPlayerUid) := by
  unfold ChatInject.broadcastLocalTagged
  exact .ite (.pure _) (.ite (.pure _) (rules.broadcastDual _ _ _ _ _ _))

theorem broadcastOne (filter : WordFilter) (msg : InboundMessage) :
    Respects Relation (ChatInject.broadcastOne engine config filter msg) := by
  unfold ChatInject.broadcastOne
  exact .ite (.pure _) (.ite (.pure _) (rules.broadcastDual _ _ _ _ _ _))

theorem runAction (action : DeferredAction) :
    Respects Relation (ChatInject.runAction engine config action) := by
  unfold ChatInject.runAction
  cases action.kind with
  | localTagged =>
      exact .bind (rules.broadcastLocalTagged config _ _ _ _ _) fun _ => .pure _
  | serverNotice => exact .bind (rules.notice _) fun _ => .pure _
  | screenLog =>
      refine .bind (rules.ask _) fun answer => ?_
      rcases answer with ⟨controller, weak⟩
      cases controller with
      | none => exact .pure _
      | some controller => exact .bind (rules.screenLog _ _) fun _ => .pure _
  | privateChat =>
      exact .ite (.pure _) (.bind (rules.display _ _ _ _ _) fun _ => .pure _)

end ActionRules

structure InjectRules (engine : Engine) (Relation : InjectWorld → InjectWorld → Prop) :
    Prop where
  unseen : ∀ {start world}, Unseen start world → Relation start world
  rosterEmpty : Respects Relation (updateInject fun inject => inject.note .rosterEmpty)
  display : ∀ displaySender message category receivers senderPlayerUid,
    Respects Relation (broadcastDisplay engine displaySender message category receivers
      senderPlayerUid)
  notice : ∀ noticeMessage, Respects Relation (showServerNotice engine noticeMessage)
  screenLog : ∀ playerController message,
    Respects Relation (sendScreenLog engine playerController message)

theorem InjectRules.actionRules {engine : Engine}
    {Relation : InjectWorld → InjectWorld → Prop} (rules : InjectRules engine Relation) :
    ActionRules engine Relation where
  ask question := (Silent.ask question).mono rules.unseen
  bootstrap := (bootstrapAudience_silent engine).mono rules.unseen
  snapshot := (snapshotAudience_silent engine).mono rules.unseen
  rosterEmpty := rules.rosterEmpty
  display := rules.display
  notice := rules.notice
  screenLog := rules.screenLog

structure FieldRules (engine : Engine) (Relation : InjectWorld → InjectWorld → Prop) :
    Prop where
  ask : ∀ {α : Type} (question : Nat → α), Respects Relation (ChatInject.ask question)
  update : ∀ change, Respects Relation (updateInject change)
  bootstrap : Respects Relation (bootstrapAudience engine)
  snapshot : Respects Relation (snapshotAudience engine)
  /-- A faulted broadcast forgets its receivers. -/
  forget : ∀ receivers, Respects Relation (modify fun world : InjectWorld =>
    { world with audience := world.audience.forgetMany receivers })

namespace FieldRules

variable {engine : Engine} {Relation : InjectWorld → InjectWorld → Prop}
  [IsPreorder InjectWorld Relation] (rules : FieldRules engine Relation)
include rules

theorem resolveGameState : Respects Relation (ChatInject.resolveGameState engine) := by
  unfold ChatInject.resolveGameState
  refine .bind .get fun world => .bind (rules.ask _) fun answer => ?_
  refine .ite (.bind (rules.update _) fun _ => .pure _) ?_
  refine .bind (rules.update _) fun _ => .bind (rules.ask _) fun answer => ?_
  cases answer with
  | faulted =>
      refine .bind (rules.update _) fun _ => .bind .get fun counted => ?_
      exact .ite (.bind (rules.update _) fun _ => .pure _) (.pure _)
  | missing => exact .pure _
  | found object =>
      refine .bind (rules.ask _) fun cached => .ite ?_ (.pure _)
      exact .bind (rules.update _) fun _ => .pure _

theorem ensureBroadcastFunction :
    Respects Relation (ChatInject.ensureBroadcastFunction engine) := by
  unfold ChatInject.ensureBroadcastFunction
  refine .bind .get fun world => .ite (.pure true) (.bind (rules.ask _) fun found => ?_)
  exact .bind (rules.update _) fun _ => .pure found

theorem ensureServerNoticeFunction :
    Respects Relation (ChatInject.ensureServerNoticeFunction engine) := by
  unfold ChatInject.ensureServerNoticeFunction
  refine .bind .get fun world => .ite (.pure true) (.bind (rules.ask _) fun found => ?_)
  exact .bind (rules.update _) fun _ => .pure found

theorem fillInitFString (text : Bytes) :
    Respects Relation (ChatInject.fillInitFString engine text) := by
  unfold ChatInject.fillInitFString
  exact .ite (.pure _) (.bind (rules.ask _) fun allocated => .ite (.pure _) (.pure _))

theorem fillReceivers (receivers : List Guid) :
    Respects Relation (ChatInject.fillReceivers engine receivers) := by
  unfold ChatInject.fillReceivers
  exact .ite (.pure _) (.bind (rules.ask _) fun allocated => .ite (.pure _) (.pure _))

theorem processEvent (call : EngineCall) :
    Respects Relation (ChatInject.processEvent engine call) :=
  .bind .get fun _ => .bind (rules.ask _) fun _ => .bind (rules.update _) fun _ => .pure _

theorem broadcastDisplay (displaySender message : Bytes) (category : Category)
    (receivers : List Guid) (senderPlayerUid : Option Guid) :
    Respects Relation (ChatInject.broadcastDisplay engine displaySender message category
      receivers senderPlayerUid) := by
  unfold ChatInject.broadcastDisplay
  refine .bind .get fun world => .ite (.pure _) ?_
  refine .bind rules.resolveGameState fun gameState => .ite (.pure _) ?_
  refine .bind rules.ensureBroadcastFunction fun ready => .ite (.pure _) ?_
  refine .bind (rules.fillInitFString _) fun sender => ?_
  refine .bind (rules.fillInitFString _) fun text => ?_
  refine .bind (rules.fillReceivers _) fun uids => ?_
  refine .bind rules.resolveGameState fun again => .ite (.pure _) ?_
  refine .bind (rules.processEvent _) fun returned => .ite (.pure _) ?_
  exact .bind (rules.forget receivers) fun _ => .bind (rules.update _) fun _ => .pure _

theorem showServerNotice (noticeMessage : Bytes) :
    Respects Relation (ChatInject.showServerNotice engine noticeMessage) := by
  unfold ChatInject.showServerNotice
  dsimp only
  refine .bind .get fun world => .ite (.pure _) (.ite (.pure _) ?_)
  refine .bind rules.resolveGameState fun gameState => .ite (.pure _) ?_
  refine .bind rules.ensureServerNoticeFunction fun ready => .ite (.pure _) ?_
  refine .bind (rules.fillInitFString _) fun notice => ?_
  refine .bind rules.resolveGameState fun again => .ite (.pure _) ?_
  refine .bind (rules.processEvent _) fun returned => .ite (.pure _) ?_
  exact .bind (rules.update _) fun _ => .pure _

theorem sendScreenLog (playerController : ObjectRef) (message : Bytes) :
    Respects Relation (ChatInject.sendScreenLog engine playerController message) := by
  unfold ChatInject.sendScreenLog
  refine .bind .get fun world => .ite (.pure _) (.ite (.pure _) ?_)
  refine .bind (rules.ask _) fun found => .ite (.pure _) ?_
  exact .bind (rules.fillInitFString _) fun text => rules.processEvent _

theorem actionRules : ActionRules engine Relation where
  ask := rules.ask
  bootstrap := rules.bootstrap
  snapshot := rules.snapshot
  rosterEmpty := rules.update _
  display := rules.broadcastDisplay
  notice := rules.showServerNotice
  screenLog := rules.sendScreenLog

theorem canInjectNow (configuredMax : Int) :
    Respects Relation (ChatInject.canInjectNow engine configuredMax) := by
  unfold ChatInject.canInjectNow
  refine .bind .get fun world => .ite (.pure _) ?_
  refine .bind rules.resolveGameState fun gameState => .ite (.pure _) ?_
  refine .bind .get fun world => .bind (rules.ask _) fun now => ?_
  exact .bind (rules.update _) fun _ => .bind .get fun world => .pure _

theorem flushDeferred (config : Config) (maxActions : Nat) :
    Respects Relation (ChatInject.flushDeferred engine config maxActions) := by
  induction maxActions with
  | zero => exact .pure _
  | succ remaining induction =>
      refine .bind .get fun world => ?_
      cases world.inject.deferred.items with
      | nil => exact .pure _
      | cons action rest =>
          exact .bind (rules.update _) fun _ =>
            .bind (rules.actionRules.runAction config action) fun _ => induction

end FieldRules

end ChatInject

end PalCrosschat
