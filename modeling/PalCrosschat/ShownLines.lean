import PalCrosschat.BudgetSpent
import PalCrosschat.InboundOnce
import PalCrosschat.InboundRuns
import PalCrosschat.NetworkDelivery

/-! # Lines are shown

On an engine where no call fails a tick after the warm-up broadcasts the oldest rows of the
inbound queue, and each call that a row makes issues its message. -/

namespace PalCrosschat

open Bytes (ascii)

namespace ChatInject

/-! ## A tick without failures -/

structure LeavesRows (start world : InjectWorld) : Prop where
  inbound : world.inbound = start.inbound
  rows : injectedRows world.inject.journal = injectedRows start.inject.journal

instance : IsPreorder InjectWorld LeavesRows where
  refl _ := ⟨rfl, rfl⟩
  trans _ _ _ left right :=
    ⟨right.inbound.trans left.inbound, right.rows.trans left.rows⟩

structure ShowsRows (count : Nat) (start world : InjectWorld) : Prop where
  waiting : world.inbound.items = start.inbound.items.drop count
  drops : world.inbound.drops = start.inbound.drops
  completed : broadcastRows world.inject.journal =
    broadcastRows start.inject.journal ++ start.inbound.items.take count

theorem LeavesRows.broadcastRows {start world : InjectWorld} (leaves : LeavesRows start world) :
    broadcastRows world.inject.journal = broadcastRows start.inject.journal := by
  rw [broadcastRows_eq, broadcastRows_eq, leaves.rows]

theorem LeavesRows.shows {start world : InjectWorld} (leaves : LeavesRows start world) :
    ShowsRows 0 start world where
  waiting := by rw [leaves.inbound, List.drop_zero]
  drops := by rw [leaves.inbound]
  completed := by rw [leaves.broadcastRows, List.take_zero, List.append_nil]

theorem ShowsRows.after {count : Nat} {first second third : InjectWorld}
    (leaves : LeavesRows first second) (shows : ShowsRows count second third) :
    ShowsRows count first third where
  waiting := by rw [shows.waiting, leaves.inbound]
  drops := by rw [shows.drops, leaves.inbound]
  completed := by rw [shows.completed, leaves.inbound, leaves.broadcastRows]

theorem ShowsRows.trans {count more : Nat} {first second third : InjectWorld}
    (left : ShowsRows count first second) (right : ShowsRows more second third) :
    ShowsRows (count + more) first third where
  waiting := by rw [right.waiting, left.waiting, List.drop_drop]
  drops := right.drops.trans left.drops
  completed := by
    rw [right.completed, left.completed, left.waiting, List.append_assoc, ← List.take_add]

section Leaves

variable (engine : Engine) (config : Config)

theorem leavesRows_of_emits {allowed : InjectEvent → Bool} {start world : InjectWorld}
    (emits : Emits allowed start world)
    (other : ∀ item sent, allowed (.injected item sent) = false)
    (frame : BroadcastFrame start world) : LeavesRows start world :=
  ⟨frame.inbound, emits.injectedRows other⟩

theorem canInjectNow_leavesRows (maxPerTick : Int) :
    Respects LeavesRows (canInjectNow engine maxPerTick) := fun world =>
  leavesRows_of_emits (canInjectNow_emits engine maxPerTick world) (fun _ _ => rfl)
    (canInjectNow_frame engine maxPerTick world)

theorem runAction_leavesRows (action : DeferredAction) :
    Respects LeavesRows (runAction engine config action) := fun world =>
  leavesRows_of_emits ((emitsRules engine).actionRules.runAction config action world)
    (fun _ _ => rfl) ((frameRules engine).runAction config action world)

theorem broadcastOne_leavesRows (filter : WordFilter) (item : InboundMessage) :
    Respects LeavesRows (broadcastOne engine config filter item) := fun world =>
  leavesRows_of_emits ((emitsRules engine).actionRules.broadcastOne config filter item world)
    (fun _ _ => rfl) ((frameRules engine).broadcastOne config filter item world)

theorem popDeferred_leavesRows (action : DeferredAction) :
    Respects LeavesRows (popDeferred action) := fun _ =>
  ⟨rfl, (injectedRows_append _ _).trans (List.append_nil _)⟩

theorem flushDeferred_leavesRows (maxActions : Nat) :
    Respects LeavesRows (flushDeferred engine config maxActions) := by
  induction maxActions with
  | zero => exact .pure _
  | succ remaining induction =>
      refine .bind .get fun world => ?_
      cases world.inject.deferred.items with
      | nil => exact .pure _
      | cons action rest =>
          exact .bind (popDeferred_leavesRows action) fun _ =>
            .bind (runAction_leavesRows engine config action) fun _ => induction

end Leaves

section Obliged

abbrev Running (world : InjectWorld) : Prop := Calm (fun _ => True) world

variable {engine : Engine} (config : Config) (obliging : Obliging engine)
include obliging

theorem dual_obliged (category : Category) (dual : DualCall) :
    Succeeds (fun _ => True) (dual.perform engine category) fun sent => sent = true := by
  intro world calm
  rw [DualCall.perform, broadcastDual_run]
  have before : Running (beforeCalls engine world) := by
    refine ⟨?_, trivial⟩
    unfold beforeCalls
    split <;> exact calm.closed
  exact performCalls_succeeds obliging _ _ _ before

theorem broadcastOne_obliged (filter : WordFilter) (item : InboundMessage) :
    Succeeds (fun _ => True) (broadcastOne engine config filter item)
      fun sent => sent = true := by
  rw [broadcastOne_eq]
  cases rowDual config filter item with
  | none => exact .pure rfl
  | some dual => exact dual_obliged obliging config.injectCategory dual

theorem madeCalls_getThrough (category : Category) (calls : List DisplayCall)
    {world : InjectWorld} (running : Running world) :
    ∀ entry ∈ madeCalls engine category calls world, GetsThrough engine entry.1 entry.2 := by
  induction calls generalizing world with
  | nil => exact List.forall_mem_nil _
  | cons call rest induction =>
      intro entry member
      rcases List.mem_cons.mp member with rfl | later
      · exact getsThrough obliging running
      · exact induction (broadcastDisplay_succeeds obliging call.displaySender call.message
          category call.receivers call.senderPlayerUid world running).2 entry later

theorem rowCalls_getThrough (filter : WordFilter) (item : InboundMessage) {world : InjectWorld}
    (running : Running world) :
    ∀ entry ∈ rowCalls engine config filter item world, GetsThrough engine entry.1 entry.2 := by
  unfold rowCalls
  cases rowDual config filter item with
  | none => exact List.forall_mem_nil _
  | some dual =>
      refine madeCalls_getThrough obliging _ _ ⟨?_, trivial⟩
      unfold beforeCalls
      split <;> exact running.closed

theorem runAction_obliged (action : DeferredAction) :
    Succeeds (fun _ => True) (runAction engine config action) fun _ => True := by
  unfold runAction
  cases action.kind with
  | localTagged =>
      dsimp only
      rw [broadcastLocalTagged_eq]
      cases taggedDual config action with
      | none => exact fun world calm => ⟨trivial, calm⟩
      | some dual => exact .bind (dual_obliged obliging _ dual) fun _ _ => .pure trivial
  | serverNotice =>
      exact .bind (showServerNotice_succeeds obliging _) fun _ _ => .pure trivial
  | screenLog =>
      refine .bind (.ask _) fun answer _ => ?_
      rcases answer with ⟨controller, weak⟩
      cases controller with
      | none => exact .pure trivial
      | some controller =>
          exact .bind (sendScreenLog_succeeds obliging _ _) fun _ _ => .pure trivial
  | privateChat =>
      refine .ite (fun _ => .pure trivial) fun _ => ?_
      exact .bind (broadcastDisplay_succeeds obliging _ _ _ _ _) fun _ _ => .pure trivial

theorem flushDeferred_obliged (maxActions : Nat) :
    Succeeds (fun _ => True) (flushDeferred engine config maxActions) fun _ => True := by
  induction maxActions with
  | zero => exact .pure trivial
  | succ remaining induction =>
      refine .bind .get fun world _ => ?_
      cases world.inject.deferred.items with
      | nil => exact .pure trivial
      | cons action rest =>
          exact .bind (.update fun _ => rfl) fun _ _ =>
            .bind (runAction_obliged config obliging action) fun _ _ => induction

theorem attemptRow_obliged (filter : WordFilter) {world : InjectWorld} (running : Running world)
    {item : InboundMessage} (popped : world.inbound.tryPop.1 = some item) :
    let ended := (DrainWorld.attemptRow engine config filter item).run
      (DrainWorld.takeRow world item world.inbound.tryPop.2)
    ended.1 = true ∧ Running ended.2 ∧ ShowsRows 1 world ended.2 := by
  intro ended
  have taken : Running (DrainWorld.takeRow world item world.inbound.tryPop.2) :=
    ⟨running.closed, trivial⟩
  rcases broadcastOne_obliged config obliging filter item _ taken with ⟨sent, after⟩
  have inbound : ended.2.inbound = world.inbound.tryPop.2 :=
    (broadcastOne_leavesRows engine config filter item _).inbound
  rcases BoundedQueue.tryPop_some popped with ⟨rest, waiting, rested⟩
  have journal : broadcastRows ended.2.inject.journal =
      broadcastRows world.inject.journal ++ [item] := by
    have taken : injectedRows
        (DrainWorld.takeRow world item world.inbound.tryPop.2).inject.journal =
          injectedRows world.inject.journal :=
      (injectedRows_append _ _).trans (List.append_nil _)
    have noted : injectedRows ended.2.inject.journal =
        injectedRows world.inject.journal ++ [(item, ended.1)] := by
      rw [← taken]
      exact DrainWorld.injectedRows_attemptRow filter item _
    have whole : ended.1 = true := sent
    rw [broadcastRows_eq, noted, whole, broadcastRows_eq, List.filter_append, List.map_append]
    rfl
  refine ⟨sent, ⟨after.closed, trivial⟩, ?_, ?_, ?_⟩
  · rw [inbound, BoundedQueue.items_tryPop, List.drop_one]
  · rw [inbound, rested]
  · rw [journal]
    change _ = _ ++ world.inbound.deque.items.take 1
    rw [waiting]
    rfl

theorem drainInbound_shows (filter : WordFilter) (limit : Nat) {world : InjectWorld}
    (running : Running world) :
    ShowsRows limit world ((drainInbound engine config filter limit).run world).2 ∧
      Running ((drainInbound engine config filter limit).run world).2 := by
  induction limit generalizing world with
  | zero => exact ⟨LeavesRows.shows (refl_of LeavesRows world), running⟩
  | succ remaining induction =>
      cases popped : world.inbound.tryPop.1 with
      | none =>
          have nothing := BoundedQueue.items_eq_nil_of_tryPop popped
          have idle : ((drainInbound engine config filter (remaining + 1)).run world).2 = world := by
            rw [drainInbound, run_get_bind, show world.inbound.tryPop = (none, _) from
              Prod.ext popped rfl]
            rfl
          rw [idle]
          refine ⟨⟨?_, rfl, ?_⟩, running⟩
          · rw [nothing, List.drop_nil]
          · rw [nothing, List.take_nil, List.append_nil]
      | some item =>
          rcases attemptRow_obliged config obliging filter running popped with
            ⟨sent, after, first⟩
          have onward : (drainInbound engine config filter (remaining + 1)).run world =
              (drainInbound engine config filter remaining).run
                ((DrainWorld.attemptRow engine config filter item).run
                  (DrainWorld.takeRow world item world.inbound.tryPop.2)).2 := by
            rw [drainInbound, run_get_bind, show world.inbound.tryPop = (some item, _) from
              Prod.ext popped rfl]
            change (if ((DrainWorld.attemptRow engine config filter item).run
              (DrainWorld.takeRow world item world.inbound.tryPop.2)).1 then _
              else _ : InjectProgram Unit).run _ = _
            rw [if_pos sent]
            rfl
          rcases induction after with ⟨rest, stillRunning⟩
          rw [onward, Nat.add_comm remaining]
          exact ⟨first.trans rest, stillRunning⟩

end Obliged

/-! ## The warm-up -/

/-- No call of a broadcast fails, and the clock does not stand still. -/
structure GoesOn (engine : Engine) : Prop where
  obliging : Obliging engine
  clock : engine.SteadyClock
  passes : ∀ time, ∃ moment, time ≤ engine.now moment

theorem quietEngine_goesOn : GoesOn quietEngine where
  obliging := ⟨fun _ => ⟨0, rfl⟩, fun _ => rfl, fun _ => rfl, fun _ => rfl⟩
  clock := quietEngine_steadyClock
  passes time := by
    refine ⟨time.toNat, le_trans (Int.self_le_toNat time) ?_⟩
    change (time.toNat : Int) ≤ ((time.toNat : Int) + 1) * 1000000000
    omega

theorem tickLimit_pos {maxPerTick : Int} {elapsed : Nanoseconds} {limit : Nat}
    (allowed : tickLimit maxPerTick elapsed = some limit) : 0 < limit := by
  unfold tickLimit at allowed
  split at allowed
  · cases allowed
  · split at allowed
    · cases allowed
      exact Nat.one_pos
    · cases allowed
      split <;> omega

theorem tickLimit_eq_none {maxPerTick : Int} {elapsed : Nanoseconds}
    (refused : tickLimit maxPerTick elapsed = none) : elapsed < kInjectWarmup := by
  by_contra late
  simp only [tickLimit, if_neg late] at refused
  split at refused <;> cases refused

def WarmedUp (engine : Engine) (world : InjectWorld) : Prop :=
  world.inject.worldReadyAt ≠ 0 ∧ ∀ moment, world.moment ≤ moment →
    kInjectWarmup ≤ engine.now moment - world.inject.worldReadyAt

/-- A tick that sees a GameState: time passes, the world is ready, and after the warm-up at
least one row is shown. -/
structure Serves (engine : Engine) (start world : InjectWorld) : Prop where
  running : Running world
  moment : start.moment < world.moment
  ready : world.inject.worldReadyAt ≠ 0
  readyAt : start.inject.worldReadyAt ≠ 0 →
    world.inject.worldReadyAt = start.inject.worldReadyAt
  rows : ∃ count, ShowsRows count start world ∧ (WarmedUp engine start → 0 < count)

section Tick

variable {engine : Engine} (config : Config) (goesOn : GoesOn engine)
include goesOn

theorem canInjectNow_obliged (maxPerTick : Int) {world : InjectWorld}
    (running : Running world) :
    (canInjectNow engine maxPerTick).run world =
      (tickLimit maxPerTick (sinceReady engine world),
        sighted engine ((resolveGameState engine).run world).2) := by
  have found := (resolveGameState_succeeds goesOn.obliging world running).1
  have isClosed : ¬world.inject.circuitOpen = true := by simp [running.closed]
  rw [canInjectNow, run_get_bind, if_neg isClosed, run_bind,
    if_neg (by simpa [Option.isSome_iff_ne_none] using found)]
  rfl

theorem drain_serves (filter : WordFilter) (maxPerTick : Int) {world : InjectWorld}
    (running : Running world) :
    Serves engine world ((drain engine config filter maxPerTick).run world).2 := by
  have answered := canInjectNow_obliged goesOn maxPerTick running
  have begun : LeavesRows world (sighted engine ((resolveGameState engine).run world).2) := by
    have leaves := canInjectNow_leavesRows engine maxPerTick world
    rwa [answered] at leaves
  have seen : Running (sighted engine ((resolveGameState engine).run world).2) :=
    ⟨(resolveGameState_succeeds goesOn.obliging world running).2.closed, trivial⟩
  have quiet : ((resolveGameState engine).run world).2.inject.worldReadyAt =
      world.inject.worldReadyAt ∧ world.moment ≤ ((resolveGameState engine).run world).2.moment := by
    rcases resolveGameState_quiet engine running.closed world (.refl world) with
      quiet | ⟨-, tripped⟩
    · exact ⟨quiet.readyAt, quiet.moment⟩
    · exact ⟨tripped.readyAt, tripped.moment⟩
  have elapsed : sinceReady engine world = engine.now
      ((resolveGameState engine).run world).2.moment -
        (sighted engine ((resolveGameState engine).run world).2).inject.worldReadyAt := rfl
  have readyAt : (sighted engine ((resolveGameState engine).run world).2).inject.worldReadyAt =
      if world.inject.worldReadyAt = 0 then
        engine.now ((resolveGameState engine).run world).2.moment
      else world.inject.worldReadyAt := by
    rw [← quiet.1]
    rfl
  have moment : (sighted engine ((resolveGameState engine).run world).2).moment =
      ((resolveGameState engine).run world).2.moment + 1 := rfl
  generalize ((resolveGameState engine).run world).2 = resolved at *
  -- Whatever comes after the sighting leaves the time of it alone.
  have serves {after : InjectWorld} (stillRunning : Running after)
      (later : (sighted engine resolved).moment ≤ after.moment)
      (same : after.inject.worldReadyAt = (sighted engine resolved).inject.worldReadyAt)
      (rows : ∃ count, ShowsRows count world after ∧ (WarmedUp engine world → 0 < count)) :
      Serves engine world after := by
    refine ⟨stillRunning, by omega, ?_, fun ready => ?_, rows⟩
    · rw [same, readyAt]
      split
      · exact (goesOn.clock.positive _).ne'
      · assumption
    · rw [same, readyAt, if_neg ready]
  cases allowed : tickLimit maxPerTick (sinceReady engine world) with
  | none =>
      have refused : ((canInjectNow engine maxPerTick).run world).1 = none := by
        rw [answered, allowed]
      rw [drain_of_none refused, answered]
      refine serves seen (Nat.le_refl _) rfl ⟨0, begun.shows, fun warm => ?_⟩
      have early := tickLimit_eq_none allowed
      rw [elapsed, readyAt, if_neg warm.1] at early
      exact absurd (warm.2 _ quiet.2) (Int.not_le.mpr early)
  | some limit =>
      have positive := tickLimit_pos allowed
      have accepted : ((canInjectNow engine maxPerTick).run world).1 = some limit := by
        rw [answered, allowed]
      rw [drain_of_some positive accepted, answered]
      have flushed := flushDeferred_leavesRows engine config limit (sighted engine resolved)
      have calm := (flushDeferred_obliged config goesOn.obliging limit _ seen).2
      have shows := drainInbound_shows config goesOn.obliging filter limit calm
      rcases Advances.trans (flushDeferred_steady engine config limit (sighted engine resolved))
        (drainInbound_steady engine config filter limit _) with ⟨added, advances⟩
      refine serves shows.2 advances.moment advances.readyAt ⟨limit, ?_, fun _ => positive⟩
      exact .after (trans_of LeavesRows begun flushed) shows.1

end Tick

structure Passes (start world : InjectWorld) : Prop where
  leaves : LeavesRows start world
  circuit : world.inject.circuitOpen = start.inject.circuitOpen
  readyAt : world.inject.worldReadyAt = start.inject.worldReadyAt
  moment : start.moment ≤ world.moment

theorem Passes.refl (world : InjectWorld) : Passes world world :=
  ⟨refl_of LeavesRows world, rfl, rfl, Nat.le_refl _⟩

theorem Passes.running {start world : InjectWorld} (passes : Passes start world)
    (running : Running start) : Running world :=
  ⟨passes.circuit.trans running.closed, trivial⟩

theorem WarmedUp.later {engine : Engine} {start world : InjectWorld}
    (warm : WarmedUp engine start)
    (readyAt : world.inject.worldReadyAt = start.inject.worldReadyAt)
    (moment : start.moment ≤ world.moment) : WarmedUp engine world := by
  constructor
  · rw [readyAt]
    exact warm.1
  · intro later order
    rw [readyAt]
    exact warm.2 later (moment.trans order)

theorem Passes.serves {engine : Engine} {first second third : InjectWorld}
    (passes : Passes first second) (serves : Serves engine second third) :
    Serves engine first third where
  running := serves.running
  moment := passes.moment.trans_lt serves.moment
  ready := serves.ready
  readyAt ready := by
    rw [← passes.readyAt] at ready ⊢
    exact serves.readyAt ready
  rows := by
    rcases serves.rows with ⟨count, shows, some⟩
    exact ⟨count, .after passes.leaves shows, fun warm =>
      some (warm.later passes.readyAt passes.moment)⟩

end ChatInject

open ChatInject

theorem ChatInject.enqueueCall_circuit (inject : ChatInject) (call : EnqueueCall) :
    (inject.enqueueCall call).circuitOpen = inject.circuitOpen ∧
      (inject.enqueueCall call).worldReadyAt = inject.worldReadyAt := by
  cases call with
  | localTagged => exact ⟨rfl, rfl⟩
  | serverNotice => exact ⟨rfl, rfl⟩
  | screenLog playerController message => cases playerController <;> exact ⟨rfl, rfl⟩
  | privateChat playerUid message =>
      rw [enqueueCall, enqueuePrivateChat]
      split <;> exact ⟨rfl, rfl⟩

/-! ## Inject in small steps -/

namespace DrainWorld

section Broadcasts

variable (engine : Engine) (config : Config)

/-- At this point of the steps the row is broadcast: each call for it issues its message, and
these messages are among those of the whole run. -/
structure BroadcastAt (steps : List DrainInput) (item : InboundMessage) (point : Nat)
    (filter : WordFilter) : Prop where
  input : ∃ rest, steps = steps.take point ++ .proceed filter :: rest
  next : (run engine config (steps.take point)).nextRow = some item
  reach : ∀ entry ∈ (run engine config (steps.take point)).nextCalls engine config filter item,
    GetsThrough engine entry.1 entry.2
  chats : ((run engine config (steps.take point)).world.chats ++
    chatsOf engine config.injectCategory
      ((run engine config (steps.take point)).nextCalls engine config filter item)).IsPrefix
        (run engine config steps).world.chats

variable {engine config}

theorem chats_step (state : DrainWorld) (input : DrainInput) :
    state.world.chats.IsPrefix (state.step engine config input).world.chats := by
  rw [step_chats]
  exact List.prefix_append _ _

theorem chats_of_nextRow {state : DrainWorld} {item : InboundMessage} (filter : WordFilter)
    (next : state.nextRow = some item) :
    (state.step engine config (.proceed filter)).world.chats =
      state.world.chats ++
        chatsOf engine config.injectCategory (state.nextCalls engine config filter item) := by
  have noAction : state.nextAction = none := by
    unfold nextRow at next
    split at next
    · rename_i remaining looping
      simp only [nextAction, looping]
    · cases next
  rw [step_chats, nextCategory, stepCalls, proceedCalls, noAction, next]
  rfl

theorem BroadcastAt.step {steps : List DrainInput} {item : InboundMessage} {point : Nat}
    {filter : WordFilter} (broadcast : BroadcastAt engine config steps item point filter)
    (input : DrainInput) : BroadcastAt engine config (steps ++ [input]) item point filter := by
  rcases broadcast with ⟨⟨rest, split⟩, next, reach, chats⟩
  have same : (steps ++ [input]).take point = steps.take point := by
    have inside := congrArg List.length split
    rw [List.length_append, List.length_take, List.length_cons] at inside
    exact List.take_append_of_le_length (by omega)
  refine ⟨⟨rest ++ [input], ?_⟩, ?_, ?_, ?_⟩
  · rw [same, ← List.cons_append, ← List.append_assoc, ← split]
  · rwa [same]
  · rwa [same]
  · have after : run engine config (steps ++ [input]) =
        (run engine config steps).step engine config input := Execution.run_snoc steps input
    rw [same, after]
    exact chats.trans (chats_step _ input)

variable (config) (obliging : Obliging engine)
include obliging

theorem running_step {state : DrainWorld} (running : Running state.world) (input : DrainInput) :
    Running (state.step engine config input).world := by
  cases input with
  | inboundPushed msg => exact ⟨running.closed, trivial⟩
  | enqueue call =>
      exact ⟨(enqueueCall_circuit state.world.inject call).1.trans running.closed, trivial⟩
  | roster operation => exact ⟨running.closed, trivial⟩
  | elapse calls => exact ⟨running.closed, trivial⟩
  | drain maxPerTick =>
      rw [step]
      rcases beginDrain_move engine maxPerTick state with same | ⟨point, idle, free, moved⟩
      · rwa [same]
      · rw [moved]
        exact (canInjectNow_succeeds obliging maxPerTick _ running).2
  | proceed filter =>
      have move := proceed_move engine config filter state
      rw [step]
      generalize state.proceed engine config filter = after at move
      cases move with
      | pass point before after noAction noRow => exact running
      | act action actions limit flushing next noRow =>
          have popped : Running ((popDeferred action).run state.world).2 :=
            ⟨running.closed, trivial⟩
          exact (runAction_obliged config obliging action _ popped).2
      | attempt item remaining looping noAction next =>
          have taken : Running (takeRow state.world item state.world.inbound.tryPop.2) :=
            ⟨running.closed, trivial⟩
          exact ⟨(broadcastOne_obliged config obliging filter item _ taken).2.closed, trivial⟩
      | putBack item holding noAction noRow => exact ⟨running.closed, trivial⟩

theorem running_run (steps : List DrainInput) : Running (run engine config steps).world :=
  Execution.run_invariant (fun state : DrainWorld => Running state.world)
    (fun _ input running => running_step config obliging running input) ⟨rfl, trivial⟩ steps

theorem broadcastAt_of_attempt (steps : List DrainInput) :
    ∀ attempt ∈ (run engine config steps).attempts, ∃ point filter,
      BroadcastAt engine config steps attempt.item point filter := by
  induction steps using List.reverseRecOn with
  | nil => exact List.forall_mem_nil _
  | append_singleton past input induction =>
      rw [run, Execution.run_snoc]
      refine attempts_step (fun attempt member => ?_) fun filter item proceeds next => ?_
      · rcases induction attempt member with ⟨point, filter, broadcast⟩
        exact ⟨point, filter, broadcast.step input⟩
      · subst proceeds
        have start : (past ++ [DrainInput.proceed filter]).take past.length = past :=
          List.take_left
        have after : run engine config (past ++ [.proceed filter]) =
            (run engine config past).step engine config (.proceed filter) :=
          Execution.run_snoc past _
        refine ⟨past.length, filter, ⟨[], by rw [start]⟩, by rwa [start], ?_, ?_⟩
        · rw [start]
          have running := running_run config obliging past
          exact rowCalls_getThrough config obliging filter item ⟨running.closed, trivial⟩
        · exact ⟨[], by rw [start, after, chats_of_nextRow filter next, List.append_nil]⟩

end Broadcasts

end DrainWorld

/-! ## Steps of a server -/

theorem GameCalls.passes {before after : InjectWorld} (calls : GameCalls before after) :
    Passes before after := by
  induction calls with
  | refl => exact .refl _
  | @enqueue world calls call induction =>
      have kept := enqueueCall_circuit world.inject call
      exact ⟨⟨induction.leaves.inbound,
          (injectedRows_enqueueCall world.inject call).trans induction.leaves.rows⟩,
        kept.1.trans induction.circuit, kept.2.trans induction.readyAt, induction.moment⟩
  | roster calls operation induction =>
      exact { induction with leaves := ⟨induction.leaves.inbound, induction.leaves.rows⟩ }
  | elapse calls count induction =>
      exact ⟨⟨induction.leaves.inbound, induction.leaves.rows⟩, induction.circuit,
        induction.readyAt, induction.moment.trans (Nat.le_add_right _ _)⟩

namespace World

def pushedRows (world : World) : List InboundMessage := workerRows world.worker.journal

def completedRows (world : World) : List InboundMessage :=
  broadcastRows world.mod.world.inject.journal

/-- What a step does about the rows: it shows the oldest ones or adds a new one. -/
inductive RowsMove (before after : World) : Prop
  | broadcast (count : Nat) (same : after.pushedRows = before.pushedRows)
      (shows : ShowsRows count before.mod.world after.mod.world)
  | push (msg : InboundMessage) (grown : after.pushedRows = before.pushedRows ++ [msg])
      (inbound : after.mod.world.inbound = before.mod.world.inbound.push msg)
      (completed : after.completedRows = before.completedRows)

structure Keeps (before after : World) : Prop where
  running : Running after.mod.world
  moment : before.mod.world.moment ≤ after.mod.world.moment
  readyAt : before.mod.world.inject.worldReadyAt ≠ 0 →
    after.mod.world.inject.worldReadyAt = before.mod.world.inject.worldReadyAt
  rows : RowsMove before after

theorem Keeps.share {before after : World} (keeps : Keeps before after) (database : Database) :
    Keeps before { after with database } where
  running := keeps.running
  moment := keeps.moment
  readyAt := keeps.readyAt
  rows := by
    cases keeps.rows with
    | broadcast count same shows => exact .broadcast count same shows
    | push msg grown inbound completed => exact .push msg grown inbound completed

theorem Keeps.of_passes {before after : World} (passes : Passes before.mod.world after.mod.world)
    (running : Running before.mod.world) (same : after.pushedRows = before.pushedRows) :
    Keeps before after where
  running := passes.running running
  moment := passes.moment
  readyAt _ := passes.readyAt
  rows := .broadcast 0 same passes.leaves.shows

section Steps

variable {engine : Engine} (config : Config) (goesOn : GoesOn engine) {world : World}
  (running : Running world.mod.world)
include goesOn running

theorem update_serves :
    Serves engine world.mod.world (world.step engine config .update).mod.world := by
  have passes := (Mod.gameCalls_beforeDrain engine world.mod).passes
  exact passes.serves (drain_serves config goesOn _ _ (passes.running running))

theorem step_keeps (input : WorldInput) : Keeps world (world.step engine config input) := by
  cases input with
  | hook context =>
      exact .of_passes (Mod.gameCalls_handleHook engine config world.mod context).passes running rfl
  | update =>
      have serves := update_serves config goesOn running
      rcases serves.rows with ⟨count, shows, -⟩
      exact ⟨serves.running, serves.moment.le, serves.readyAt, .broadcast count rfl shows⟩
  | join playerState =>
      have calls : GameCalls world.mod.world
          (world.step engine config (.join playerState)).mod.world :=
        .roster (.elapse .refl 1) (.enqueueJoin _ playerState)
      exact .of_passes calls.passes running rfl
  | worker input =>
      refine ⟨⟨running.closed, trivial⟩, Nat.le_refl _, fun _ => rfl, ?_⟩
      rcases workerRows_step config world.dbState input with
        ⟨inbound, journal⟩ | ⟨msg, inbound, journal⟩
      · exact .broadcast 0 journal (LeavesRows.shows ⟨inbound, rfl⟩)
      · exact .push msg journal inbound rfl
  | remote action => exact .of_passes (.refl _) running rfl
  | webhookPopped => exact .of_passes (.refl _) running rfl

end Steps

/-- The first rows that were pushed have left the queue: the broadcast of each was completed
or it was dropped, and the queue counts the dropped ones. -/
def Settled (world : World) (count : Nat) : Prop :=
  ∃ gone dropped : List InboundMessage, gone.length = count ∧
    world.pushedRows = gone ++ world.mod.world.inbound.items ∧
    gone.Perm (world.completedRows ++ dropped) ∧ world.mod.world.inbound.drops = dropped.length

theorem Settled.move {before after : World} {count : Nat} (settled : before.Settled count)
    (move : RowsMove before after) : ∃ more, count ≤ more ∧ after.Settled more := by
  rcases settled with ⟨gone, dropped, length, pushed, perm, drops⟩
  cases move with
  | broadcast shown same shows =>
      let taken := before.mod.world.inbound.items.take shown
      refine ⟨count + taken.length, by omega, gone ++ taken, dropped, ?_, ?_, ?_, ?_⟩
      · rw [List.length_append, length]
      · rw [same, pushed, shows.waiting, List.append_assoc, List.take_append_drop]
      · rw [completedRows, shows.completed, List.append_assoc]
        exact (perm.append_right taken).trans
          (by rw [List.append_assoc]; exact List.perm_append_comm.append_left _)
      · rw [shows.drops, drops]
  | push msg grown inbound completed =>
      let lost := before.mod.world.inbound.deque.evicted.toList
      refine ⟨count + lost.length, by omega, gone ++ lost, dropped ++ lost, ?_, ?_, ?_, ?_⟩
      · rw [List.length_append, length]
      · have split : lost ++ before.mod.world.inbound.deque.survivors =
            before.mod.world.inbound.items := BoundedDeque.evicted_append_survivors _
        have items : after.mod.world.inbound.items =
            before.mod.world.inbound.deque.survivors ++ [msg] := by
          rw [inbound]
          rfl
        rw [grown, pushed, items, ← split, List.append_assoc, List.append_assoc,
          List.append_assoc]
      · rw [completed, ← List.append_assoc]
        exact perm.append_right lost
      · rw [inbound, BoundedQueue.drops_push, drops, List.length_append]

theorem settled_initial (compile : RegexCompiler) (config : Config) (startedAt : Nanoseconds)
    (players : List PlayerRow) : (initial compile config startedAt players).Settled 0 :=
  ⟨[], [], rfl, rfl, .refl _, rfl⟩

theorem Settled.length {world : World} {count : Nat} (settled : world.Settled count) :
    count + world.mod.world.inbound.items.length = world.pushedRows.length := by
  rcases settled with ⟨gone, dropped, length, pushed, -⟩
  rw [pushed, List.length_append, length]

theorem Settled.update {engine : Engine} {before after : World} {count : Nat}
    (settled : before.Settled count) (serves : Serves engine before.mod.world after.mod.world)
    (warm : WarmedUp engine before.mod.world) (same : after.pushedRows = before.pushedRows)
    (waits : count < before.pushedRows.length) : ∃ more, count < more ∧ after.Settled more := by
  rcases serves.rows with ⟨shown, shows, some⟩
  rcases settled.move (.broadcast shown same shows) with ⟨more, -, settledAfter⟩
  refine ⟨more, ?_, settledAfter⟩
  have positive := some warm
  have earlier := settled.length
  have later := settledAfter.length
  rw [same, shows.waiting, List.length_drop] at later
  omega

/-- What became of the rows that were pushed. -/
theorem Settled.accounts {world : World} {count : Nat} (settled : world.Settled count)
    {rows : List InboundMessage} (first : rows.IsPrefix world.pushedRows)
    (gone : rows.length ≤ count) :
    ∃ dropped : List InboundMessage, rows.Subperm (world.completedRows ++ dropped) ∧
      world.pushedRows.Perm
        (world.completedRows ++ dropped ++ world.mod.world.inbound.items) ∧
      world.mod.world.inbound.drops = dropped.length := by
  rcases settled with ⟨left, dropped, length, pushed, perm, drops⟩
  refine ⟨dropped, ?_, ?_, drops⟩
  · rw [pushed] at first
    have inside : rows.IsPrefix left :=
      List.prefix_of_prefix_length_le first (List.prefix_append _ _) (by omega)
    exact inside.sublist.subperm.trans perm.subperm
  · rw [pushed]
    exact perm.append_right _

end World

end PalCrosschat
