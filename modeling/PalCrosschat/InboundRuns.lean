import PalCrosschat.BroadcastEffects
import PalCrosschat.GameCalls
import PalCrosschat.InboundOrder
import PalCrosschat.WorkerSteps
import PalCrosschat.World

/-! # Inbound rows of the running mod

A run of the mod is, for inject and the inbound queue, a run of `DrainWorld`, and what
holds of the latter holds of every row the database thread pushes. -/

namespace PalCrosschat

/-! ## The rows that were broadcast -/

/-- The rows `BroadcastOne` was done with, and whether each was sent. -/
def injectedRows (journal : List InjectEvent) : List (InboundMessage × Bool) :=
  journal.filterMap fun
    | .injected item sent => some (item, sent)
    | _ => none

def broadcastRows (journal : List InjectEvent) : List InboundMessage :=
  journal.filterMap fun
    | .injected item true => some item
    | _ => none

theorem broadcastRows_eq (journal : List InjectEvent) :
    broadcastRows journal = ((injectedRows journal).filter Prod.snd).map Prod.fst := by
  rw [broadcastRows, injectedRows, List.filter_filterMap, List.map_filterMap]
  apply List.filterMap_congr
  intro event member
  cases event with
  | injected item sent => cases sent <;> rfl
  | _ => rfl

theorem injectedRows_append (journal added : List InjectEvent) :
    injectedRows (journal ++ added) = injectedRows journal ++ injectedRows added :=
  List.filterMap_append

theorem injectedRows_eq_nil {added : List InjectEvent}
    (other : ∀ item sent, .injected item sent ∉ added) : injectedRows added = [] := by
  rw [injectedRows, List.filterMap_eq_nil_iff]
  intro event member
  cases event with
  | injected item sent => exact absurd member (other item sent)
  | _ => rfl

theorem Emits.injectedRows {allowed : InjectEvent → Bool} {start world : InjectWorld}
    (emits : Emits allowed start world)
    (other : ∀ item sent, allowed (.injected item sent) = false) :
    injectedRows world.inject.journal = injectedRows start.inject.journal := by
  rcases emits.journal with ⟨added, grown, isAllowed⟩
  have none : PalCrosschat.injectedRows added = [] := by
    apply injectedRows_eq_nil
    intro item sent member
    have impossible := isAllowed _ member
    rw [other item sent] at impossible
    cases impossible
  rw [grown, injectedRows_append, none, List.append_nil]

theorem injectedRows_enqueueCall (inject : ChatInject) (call : EnqueueCall) :
    injectedRows (inject.enqueueCall call).journal = injectedRows inject.journal := by
  rcases enqueueCall_journal inject call with ⟨added, grown, enqueues⟩
  have none : injectedRows added = [] := by
    apply injectedRows_eq_nil
    intro item sent member
    rcases enqueues _ member with ⟨action, impossible⟩
    cases impossible
  rw [grown, injectedRows_append, none, List.append_nil]

namespace DrainWorld

section Steps

variable {engine : Engine} {config : Config} {state : DrainWorld}

theorem injectedRows_attemptRow (filter : WordFilter) (item : InboundMessage)
    (world : InjectWorld) :
    injectedRows ((attemptRow engine config filter item).run world).2.inject.journal =
      injectedRows world.inject.journal ++
        [(item, ((attemptRow engine config filter item).run world).1)] := by
  have broadcast := ((ChatInject.emitsRules engine).actionRules.broadcastOne config filter item
    world).injectedRows fun _ _ => rfl
  rcases ran : (ChatInject.broadcastOne engine config filter item).run world with ⟨sent, after⟩
  have ended : (attemptRow engine config filter item).run world =
      (sent, { after with inject := after.inject.note (.injected item sent) }) := by
    rw [attemptRow, run_bind, ran]
    rfl
  rw [ran] at broadcast
  rw [ended, ← broadcast]
  exact injectedRows_append _ _

def Journaled (state : DrainWorld) : Prop :=
  state.attempts.map (fun attempt => (attempt.item, attempt.sent)) =
    injectedRows state.world.inject.journal

theorem Journaled.attempt (journaled : state.Journaled) (filter : WordFilter)
    (item : InboundMessage) (remaining : Nat) :
    (state.attempt engine config filter item remaining).Journaled := by
  have taken : state.attempts.map (fun attempt => (attempt.item, attempt.sent)) =
      injectedRows (takeRow state.world item state.world.inbound.tryPop.2).inject.journal :=
    journaled.trans ((injectedRows_append _ _).trans (List.append_nil _)).symm
  refine Eq.trans List.map_append ?_
  refine Eq.trans ?_ (injectedRows_attemptRow filter item _).symm
  exact congrArg (· ++ _) taken

theorem Journaled.step (journaled : state.Journaled) (input : DrainInput) :
    (state.step engine config input).Journaled := by
  cases input with
  | inboundPushed msg => exact journaled
  | enqueue call => exact journaled.trans (injectedRows_enqueueCall state.world.inject call).symm
  | roster operation => exact journaled
  | elapse count => exact journaled
  | drain maxPerTick =>
      rw [DrainWorld.step]
      rcases beginDrain_move engine maxPerTick state with unmoved | ⟨point, -, -, moved⟩
      · rw [unmoved]
        exact journaled
      · rw [moved]
        have begun := ChatInject.canInjectNow_emits engine maxPerTick state.world
        exact journaled.trans (begun.injectedRows fun _ _ => rfl).symm
  | proceed filter =>
      rw [DrainWorld.step]
      have move := proceed_move engine config filter state
      generalize state.proceed engine config filter = after at move
      cases move with
      | pass point before after noAction noRow => exact journaled
      | act action actions limit flushing next noRow =>
          have popped : injectedRows
              ((ChatInject.popDeferred action).run state.world).2.inject.journal =
                injectedRows state.world.inject.journal :=
            (injectedRows_append _ _).trans (List.append_nil _)
          have ran := ((ChatInject.emitsRules engine).actionRules.runAction config action
            ((ChatInject.popDeferred action).run state.world).2).injectedRows fun _ _ => rfl
          exact journaled.trans (ran.trans popped).symm
      | attempt item remaining looping noAction next =>
          exact journaled.attempt filter item remaining
      | putBack item holding noAction noRow => exact journaled

theorem journaled_run (engine : Engine) (config : Config) (inputs : List DrainInput) :
    (run engine config inputs).Journaled := by
  have initially : Journaled {} := rfl
  exact Execution.run_invariant Journaled (fun _ input journaled => journaled.step input)
    initially inputs

theorem Journaled.sentRows (journaled : state.Journaled) :
    state.sentRows = broadcastRows state.world.inject.journal := by
  rw [broadcastRows_eq, ← journaled, List.filter_map, List.map_map]
  rfl

theorem pushed_run (engine : Engine) (config : Config) (state : DrainWorld)
    (inputs : List DrainInput) :
    (Execution.run (step engine config) state inputs).pushed =
      state.pushed ++ pushedRows inputs := by
  induction inputs using List.reverseRecOn with
  | nil => exact (List.append_nil _).symm
  | append_singleton past input induction =>
      rw [Execution.run_snoc, pushed_step, induction, pushedRows_snoc, List.append_assoc]

end Steps

end DrainWorld

/-! ## The rows the database thread pushed -/

def workerRows (journal : List WorkerEvent) : List InboundMessage :=
  journal.filterMap fun
    | .inboundPushed _ msg => some msg
    | _ => none

theorem workerRows_append (journal added : List WorkerEvent) :
    workerRows (journal ++ added) = workerRows journal ++ workerRows added :=
  List.filterMap_append

/-- A step of the thread pushes a row or leaves the queue alone. -/
theorem workerRows_step (config : Config) (state : DbState) (input : WorkerInput) :
    (DbWorker.step config state input).inbound = state.inbound ∧
        workerRows (DbWorker.step config state input).worker.journal =
          workerRows state.worker.journal ∨
      ∃ msg, (DbWorker.step config state input).inbound = state.inbound.push msg ∧
        workerRows (DbWorker.step config state input).worker.journal =
          workerRows state.worker.journal ++ [msg] := by
  have move := DbWorker.step_move config state input
  generalize DbWorker.step config state input = after at move
  have silent : ∀ event : WorkerEvent, (∀ row msg, event ≠ .inboundPushed row msg) →
      workerRows (state.worker.journal ++ [event]) = workerRows state.worker.journal := by
    intro event other
    rw [workerRows_append]
    cases event with
    | inboundPushed row msg => exact absurd rfl (other row msg)
    | _ => exact List.append_nil _
  cases move with
  | quiet quiet =>
      rcases quiet.journal with ⟨added, grown, unrelated⟩
      have none : workerRows added = [] := by
        rw [workerRows, List.filterMap_eq_nil_iff]
        intro event member
        have quietEvent := unrelated event member
        cases event <;> first | rfl | cases quietEvent
      exact .inl ⟨quiet.inbound, by rw [grown, workerRows_append, none, List.append_nil]⟩
  | readMaxId control => exact .inl ⟨rfl, silent _ nofun⟩
  | armCursor maxId control => exact .inl ⟨rfl, rfl⟩
  | pop item control popped => exact .inl ⟨rfl, rfl⟩
  | store item control => exact .inl ⟨rfl, silent _ nofun⟩
  | requeue item control => exact .inl ⟨rfl, silent _ nofun⟩
  | select now control => exact .inl ⟨rfl, silent _ nofun⟩
  | fetch batch row rest beyond control rows =>
      exact .inr ⟨_, rfl, workerRows_append _ _⟩
  | advance id batch control => exact .inl ⟨rfl, rfl⟩

namespace DrainWorld

section Simulation

variable (engine : Engine) (config : Config)

structure Follows (world : World) (drain : DrainWorld) : Prop where
  agrees : drain.world = world.mod.world
  idle : drain.point = .idle
  pushed : drain.pushed = workerRows world.worker.journal

variable {world : World} {drain : DrainWorld}

theorem follows_calls (follows : Follows world drain) {mod : Mod}
    (calls : GameCalls world.mod.world mod.world) :
    ∃ inputs, Follows { world with mod } (Execution.run (step engine config) drain inputs) := by
  rcases calls.runs engine config drain follows.agrees with ⟨inputs, reached⟩
  refine ⟨inputs, ?_⟩
  rw [reached]
  exact ⟨rfl, follows.idle, follows.pushed⟩

theorem follows_update (follows : Follows world drain) :
    ∃ inputs, Follows (world.step engine config .update)
      (Execution.run (step engine config) drain inputs) := by
  have calls := Mod.gameCalls_beforeDrain engine world.mod
  generalize called : ((world.mod.flushDeferred engine).audienceTick engine).deliverLinkResults
    engine = mod at calls
  rcases follows_calls engine config follows calls with ⟨before, begun⟩
  rcases drain_proceeds engine config mod.filter config.maxBroadcastsPerTick _ begun.idle with
    ⟨after, ⟨count, ran⟩, idle, drained⟩
  refine ⟨before ++ .drain config.maxBroadcastsPerTick ::
    List.replicate count (.proceed mod.filter), ?_⟩
  rw [Execution.run_append, Execution.run_cons]
  constructor
  · rw [← ran, drained, begun.agrees]
    change _ = (world.mod.onUpdate engine config).world
    rw [Mod.onUpdate, called]
    rfl
  · rw [← ran, idle]
  · have nothing : pushedRows (.drain config.maxBroadcastsPerTick ::
        List.replicate count (.proceed mod.filter)) = [] := by
      apply List.filterMap_eq_nil_iff.mpr
      intro input member
      rcases List.mem_cons.mp member with rfl | proceeds
      · rfl
      · rw [List.eq_of_mem_replicate proceeds]
    rw [← Execution.run_cons, pushed_run, nothing, List.append_nil, begun.pushed]
    rfl

theorem follows_step (input : WorldInput) (follows : Follows world drain) :
    ∃ inputs, Follows (world.step engine config input)
      (Execution.run (step engine config) drain inputs) := by
  cases input with
  | hook context =>
      exact follows_calls engine config follows (Mod.gameCalls_handleHook engine config _ context)
  | update => exact follows_update engine config follows
  | join playerState =>
      exact follows_calls engine config follows
        (.roster (.elapse .refl 1) (.enqueueJoin _ playerState))
  | worker input =>
      rcases workerRows_step config world.dbState input with
        ⟨inbound, journal⟩ | ⟨msg, inbound, journal⟩
      · refine ⟨[], ?_, follows.idle, follows.pushed.trans journal.symm⟩
        change drain.world = { world.mod.world with
          inbound := (DbWorker.step config world.dbState input).inbound }
        rw [inbound, follows.agrees]
        rfl
      · refine ⟨[.inboundPushed msg], ?_, follows.idle, ?_⟩
        · change { drain.world with inbound := drain.world.inbound.push msg } =
            { world.mod.world with inbound := (DbWorker.step config world.dbState input).inbound }
          rw [inbound, follows.agrees]
          rfl
        · exact (congrArg (· ++ [msg]) follows.pushed).trans journal.symm
  | remote action => exact ⟨[], follows.agrees, follows.idle, follows.pushed⟩
  | webhookPopped => exact ⟨[], follows.agrees, follows.idle, follows.pushed⟩

/-- Each row the database thread pushed was broadcast, waits in the inbound queue, or was
dropped from it. -/
theorem conserved_of_follows {steps : List DrainInput}
    (follows : Follows world (run engine config steps)) :
    ∃ evicted : List InboundMessage,
      (workerRows world.worker.journal).Perm
        (broadcastRows world.mod.world.inject.journal ++ world.mod.world.inbound.items ++
          evicted) := by
  have conserved := (sound_run engine config steps).conserved
  have held : (run engine config steps).view.held = none := by
    change (run engine config steps).point.heldRow = none
    rw [follows.idle]
    rfl
  have pushed : (run engine config steps).view.pushed = workerRows world.worker.journal :=
    follows.pushed
  have finished : (run engine config steps).view.finished =
      broadcastRows world.mod.world.inject.journal := by
    rw [← follows.agrees]
    exact (journaled_run engine config steps).sentRows
  have waiting : (run engine config steps).view.waiting.items =
      world.mod.world.inbound.items := by
    rw [← follows.agrees]
    rfl
  unfold RetryQueue.Conserved RetryQueue.items at conserved
  rw [held, pushed, finished, waiting, Option.toList_none, List.append_nil] at conserved
  exact ⟨_, conserved⟩

end Simulation

/-! ## Attempts -/

section Attempts

variable {engine : Engine} {config : Config} {state : DrainWorld}

def NotAgain (state : DrainWorld) : Prop :=
  (∀ attempt ∈ state.attempts, attempt.item ∈ state.pushed) ∧
    state.attempts.Pairwise fun earlier later =>
      earlier.item.id = later.item.id → earlier.sent = false

theorem NotAgain.attempt (notAgain : state.NotAgain) (conserved : state.view.Conserved)
    (distinct : (state.pushed.map InboundMessage.id).Nodup) (filter : WordFilter)
    {item : InboundMessage} (remaining : Nat) (next : state.nextRow = some item) :
    (state.attempt engine config filter item remaining).NotAgain := by
  rcases BoundedQueue.tryPop_some (tryPop_of_nextRow next) with ⟨rest, waiting, -⟩
  have waits : item ∈ state.world.inbound.deque.items := by
    rw [waiting]
    exact List.mem_cons_self
  have located : state.pushed.Perm (state.sentRows ++ state.point.heldRow.toList ++
      state.world.inbound.deque.items ++ state.evicted) := conserved
  constructor
  · intro attempt member
    rcases List.mem_append.mp member with old | new
    · exact notAgain.1 attempt old
    · rw [List.mem_singleton.mp new]
      exact located.mem_iff.mpr (List.mem_append_left _ (List.mem_append_right _ waits))
  · refine List.pairwise_append.mpr ⟨notAgain.2, List.pairwise_singleton _ _, ?_⟩
    intro earlier member later new same
    rw [List.mem_singleton.mp new] at same
    by_contra sent
    have finished : earlier.item ∈ state.sentRows :=
      List.mem_map_of_mem (List.mem_filter.mpr ⟨member, by simpa using sent⟩)
    have apart := ((located.map InboundMessage.id).nodup_iff.mp distinct)
    rw [List.map_append, List.map_append, List.map_append] at apart
    have disjoint := (List.nodup_append.mp apart.of_append_left).2.2
    exact disjoint _ (List.mem_append_left _ (List.mem_map_of_mem finished)) _
      (List.mem_map_of_mem waits) same

theorem notAgain_run (engine : Engine) (config : Config) (inputs : List DrainInput)
    (distinct : ((run engine config inputs).pushed.map InboundMessage.id).Nodup) :
    (run engine config inputs).NotAgain := by
  induction inputs using List.reverseRecOn with
  | nil => exact ⟨fun _ member => absurd member List.not_mem_nil, .nil⟩
  | append_singleton past input induction =>
      have before : ((run engine config past).pushed.map InboundMessage.id).Nodup := by
        rw [run, Execution.run_snoc, pushed_step, List.map_append] at distinct
        exact distinct.of_append_left
      have notAgain := induction before
      have conserved := (sound_run engine config past).conserved
      rw [run, Execution.run_snoc]
      have move := step_move engine config (run engine config past) input
      generalize (run engine config past).step engine config input = after at move
      cases move with
      | pushed msg =>
          exact ⟨fun attempt member => List.mem_append_left _ (notAgain.1 attempt member),
            notAgain.2⟩
      | other pushes world point frame held => exact notAgain
      | attempt filter item remaining free next =>
          exact notAgain.attempt conserved before filter remaining next
      | putBack filter item holding => exact notAgain

/-- The attempts of the mod are those of the machine. -/
theorem attempts_of_follows {world : World} {steps : List DrainInput}
    (follows : Follows world (run engine config steps))
    (distinct : ((workerRows world.worker.journal).map InboundMessage.id).Nodup) :
    (∀ attempt ∈ injectedRows world.mod.world.inject.journal,
      attempt.1 ∈ workerRows world.worker.journal) ∧
    (injectedRows world.mod.world.inject.journal).Pairwise fun earlier later =>
      earlier.1.id = later.1.id → earlier.2 = false := by
  have journaled := journaled_run engine config steps
  rw [Journaled, follows.agrees] at journaled
  rw [← follows.pushed] at distinct ⊢
  rcases notAgain_run engine config steps distinct with ⟨pushed, notAgain⟩
  rw [← journaled]
  constructor
  · intro attempt member
    rcases List.mem_map.mp member with ⟨original, inRun, rfl⟩
    exact pushed original inRun
  · exact List.pairwise_map.mpr notAgain

end Attempts

end DrainWorld

end PalCrosschat
