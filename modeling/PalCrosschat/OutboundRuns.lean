import PalCrosschat.OutboundRetry
import PalCrosschat.RelayDesk

/-! # Outbound messages of the running mod

Whatever the callbacks of the game thread do, the outbound queue sees them as pushes.
So a run of the mod is, for the outbound side, a run of `OutboundWorld`, and what
holds of the latter holds of every line the relay delivers. -/

namespace PalCrosschat

namespace Mod

def HandsOut (before after : Mod) : Prop :=
  ∃ msgs : List OutboundMessage, after.outbound = msgs.foldl BoundedQueue.push before.outbound ∧
    pushedMessages after.journal = pushedMessages before.journal ++ msgs

theorem HandsOut.trans {first second third : Mod} (left : HandsOut first second)
    (right : HandsOut second third) : HandsOut first third := by
  rcases left with ⟨leftMsgs, leftQueue, leftJournal⟩
  rcases right with ⟨rightMsgs, rightQueue, rightJournal⟩
  refine ⟨leftMsgs ++ rightMsgs, ?_, ?_⟩
  · rw [rightQueue, leftQueue, List.foldl_append]
  · rw [rightJournal, leftJournal, List.append_assoc]

theorem HandsOut.nothing {before after : Mod} (outbound : after.outbound = before.outbound)
    (pushed : pushedMessages after.journal = pushedMessages before.journal) :
    HandsOut before after :=
  ⟨[], outbound, pushed.trans (List.append_nil _).symm⟩

section Callbacks

variable (engine : Engine) (config : Config) (mod : Mod)

theorem handsOut_relayed (name : Bytes) (pending : PendingChatRelay) :
    HandsOut mod (mod.relayed name pending) :=
  ⟨[_], rfl, pushedMessages_append _ _⟩

theorem handsOut_flushChatRelay (pending : PendingChatRelay) :
    HandsOut mod (mod.flushChatRelay engine pending) := by
  rw [flushChatRelay_eq]
  refine .trans ?_ (handsOut_relayed _ _ _)
  apply HandsOut.nothing
  · rcases resolveRelayName_eq engine mod.popChatRelay pending with ⟨asked, names, equal⟩
    rw [equal]
    rfl
  · rw [(resolveRelayName_nameStep engine mod.popChatRelay pending).journal]
    rfl

theorem handsOut_flushDeferred : HandsOut mod (mod.flushDeferred engine) := by
  have linked := flushSetDiscords_linkStep engine mod mod.capture.pendingSetDiscord.items
  refine (HandsOut.nothing linked.outbound linked.aside.pushed).trans ?_
  exact Execution.run_relation HandsOut (fun _ => .nothing rfl rfl) .trans
    (handsOut_flushChatRelay engine) _

theorem outbound_handleHook (context : HookContext)
    (other : mod.hookBranch engine config context ≠ .relayed) :
    (mod.handleHook engine config context).1.outbound = mod.outbound := by
  have unscreened : (mod.screened engine context).outbound = mod.outbound := screened_outbound
  rw [handleHook_eq]
  cases branch : mod.hookBranch engine config context with
  | empty => rfl
  | setDiscord connectCode => rfl
  | muted =>
      rcases suppressMuted_eq engine (mod.screened engine context) context
        (mod.capture.readSender context) with ⟨filter, moment, inject, -, notices, equal⟩
      dsimp only
      rw [equal]
      exact unscreened
  | filtered hit =>
      rcases suppressFiltered_eq engine config (mod.screened engine context) context
        (mod.capture.readSender context) (context.line engine.codec) hit with
        ⟨filter, moment, inject, -, notices, equal⟩
      dsimp only
      rw [equal]
      unfold enqueueWebhook
      split <;> exact unscreened
  | command => exact unscreened
  | otherCategory => exact unscreened
  | tagged => exact unscreened
  | relayed => exact absurd branch other

theorem handsOut_handleHook (context : HookContext) :
    HandsOut mod (mod.handleHook engine config context).1 := by
  by_cases branch : mod.hookBranch engine config context = .relayed
  · have screened : HandsOut mod (mod.screened engine context) :=
      .nothing screened_outbound screened_aside.pushed
    rw [handleHook_eq, branch]
    dsimp only
    rw [relayLine_eq]
    refine screened.trans ?_
    split
    · exact handsOut_relayed _ _ _
    · exact .nothing rfl ((pushedMessages_append _ _).trans (List.append_nil _))
  · apply HandsOut.nothing
    · exact outbound_handleHook engine config mod context branch
    · exact (handleHook_aside branch).pushed

theorem handsOut_onUpdate : HandsOut mod (mod.onUpdate engine config) := by
  refine (handsOut_flushDeferred engine mod).trans ?_
  have delivered := deliverLinkResults_noticeStep engine
    ((mod.flushDeferred engine).audienceTick engine)
  refine (HandsOut.nothing delivered.outbound delivered.aside.pushed).trans ?_
  exact .nothing rfl (drainInject_aside engine config _).pushed

end Callbacks

end Mod

namespace OutboundWorld

section Simulation

variable (engine : Engine) (config : Config)

structure Follows (world : World) (outbound : OutboundWorld) : Prop where
  state : outbound.state = world.dbState
  pushed : outbound.pushed = PalCrosschat.pushedMessages world.mod.journal

theorem run_pushes (outbound : OutboundWorld) (msgs : List OutboundMessage) :
    (Execution.run (step config) outbound (msgs.map .pushed)).state =
        { outbound.state with outbound := msgs.foldl BoundedQueue.push outbound.state.outbound } ∧
      (Execution.run (step config) outbound (msgs.map .pushed)).pushed =
        outbound.pushed ++ msgs := by
  induction msgs generalizing outbound with
  | nil => exact ⟨rfl, (List.append_nil _).symm⟩
  | cons msg rest induction =>
      rcases induction (outbound.step config (.pushed msg)) with ⟨state, pushed⟩
      refine ⟨state, pushed.trans ?_⟩
      exact List.append_assoc _ _ _

theorem follows_callback {world : World} {outbound : OutboundWorld}
    (follows : Follows world outbound) {mod : Mod} (handsOut : world.mod.HandsOut mod) :
    ∃ actions, Follows { world with mod } (Execution.run (step config) outbound actions) := by
  rcases handsOut with ⟨msgs, queue, journal⟩
  rcases run_pushes config outbound msgs with ⟨state, pushed⟩
  refine ⟨msgs.map .pushed ++ [.elsewhere mod.world.inbound mod.linkJobs mod.linkResults], ?_⟩
  rw [Execution.run_snoc]
  constructor
  · change { (Execution.run (step config) outbound (msgs.map .pushed)).state with
      inbound := mod.world.inbound, linkJobs := mod.linkJobs, linkResults := mod.linkResults } = _
    rw [state, follows.state]
    simp [World.dbState, queue]
  · change (Execution.run (step config) outbound (msgs.map .pushed)).pushed = _
    rw [pushed, follows.pushed, journal]

theorem follows_step {world : World} {outbound : OutboundWorld} (input : WorldInput)
    (follows : Follows world outbound) :
    ∃ actions, Follows (world.step engine config input)
      (Execution.run (step config) outbound actions) := by
  cases input with
  | hook context =>
      exact follows_callback config follows (Mod.handsOut_handleHook engine config _ context)
  | update => exact follows_callback config follows (Mod.handsOut_onUpdate engine config _)
  | join playerState => exact follows_callback config follows (.nothing rfl rfl)
  | worker input =>
      refine ⟨[.worker input], ?_, follows.pushed⟩
      change DbWorker.step config outbound.state input = _
      rw [follows.state]
      rfl
  | remote action =>
      refine ⟨[.remote action], ?_, follows.pushed⟩
      change { outbound.state with database := outbound.state.database.remote action } = _
      rw [follows.state]
      rfl
  | webhookPopped => exact ⟨[], follows.state, follows.pushed⟩

end Simulation

end OutboundWorld

end PalCrosschat
