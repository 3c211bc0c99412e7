import PalCrosschat.DrainSteps
import PalCrosschat.Foundation.RetryQueue

/-! # Inbound lines under failures

The inbound queue with the row in the hands of `Drain` and the rows that were
broadcast is a `RetryQueue`: a row that could not be broadcast goes back to the
end, behind what the database thread pushed in the meantime. -/

namespace PalCrosschat

namespace DrainWorld

def sentRows (state : DrainWorld) : List InboundMessage :=
  (state.attempts.filter Attempt.sent).map Attempt.item

/-- The queue, the hands of `Drain` and the game as one queue with retry. -/
def view (state : DrainWorld) : RetryQueue kQueueMax InboundMessage where
  waiting := state.world.inbound.deque
  held := state.point.heldRow
  pushed := state.pushed
  finished := state.sentRows
  evicted := state.evicted

/-- A row goes back only while no other row waits. -/
def RetriesAlone (state : DrainWorld) (input : DrainInput) : Prop :=
  match input with
  | .proceed _ => state.point.heldRow.isSome = true → state.world.inbound.items = []
  | _ => True

instance (state : DrainWorld) (input : DrainInput) : Decidable (RetriesAlone state input) := by
  unfold RetriesAlone
  split <;> infer_instance

section Simulation

variable {engine : Engine} {config : Config} {state : DrainWorld}

inductive ViewSteps (state after : DrainWorld) (alone : Prop) : Prop
  | of_actions (actions : List (RetryQueue.Input InboundMessage))
      (view : after.view = Execution.run RetryQueue.step state.view actions)
      (allowed : alone →
        Execution.Along RetryQueue.step RetryQueue.PutsBackAlone state.view actions)

theorem ViewSteps.same {after : DrainWorld} {alone : Prop} (view : after.view = state.view) :
    ViewSteps state after alone :=
  .of_actions [] view fun _ => trivial

theorem view_eq_of_frame {world : InjectWorld} (frame : BroadcastFrame state.world world)
    {point : DrainPoint} (held : point.heldRow = state.point.heldRow) :
    ({ state with world, point } : DrainWorld).view = state.view := by
  simp only [view, held, frame.inbound, sentRows]

theorem viewSteps_attempt (engine : Engine) (config : Config) (filter : WordFilter)
    {item : InboundMessage} (remaining : Nat) (alone : Prop)
    (free : state.point.heldRow = none) (next : state.nextRow = some item) :
    ViewSteps state (state.attempt engine config filter item remaining) alone := by
  rcases BoundedQueue.tryPop_some (tryPop_of_nextRow next) with ⟨rest, waiting, rested⟩
  have taken : state.view.take =
      { state.view with waiting := state.world.inbound.deque.pop, held := some item } :=
    RetryQueue.take_of_free free waiting
  have inbound : (state.attempt engine config filter item remaining).world.inbound =
      state.world.inbound.tryPop.2 :=
    (attempt_frame engine config filter state item remaining).inbound
  rw [rested] at inbound
  cases sent : ((attemptRow engine config filter item).run
      (takeRow state.world item state.world.inbound.tryPop.2)).1 with
  | true =>
      refine .of_actions [.take, .finish] ?_ fun _ => ⟨trivial, trivial, trivial⟩
      rw [Execution.run_cons, RetryQueue.step, taken]
      unfold view
      rw [inbound]
      simp [attempt, sent, sentRows, RetryQueue.step, DrainPoint.heldRow]
  | false =>
      refine .of_actions [.take] ?_ fun _ => ⟨trivial, trivial⟩
      rw [Execution.run_cons, RetryQueue.step, taken]
      unfold view
      rw [inbound]
      simp [attempt, sent, sentRows, DrainPoint.heldRow]

theorem viewSteps (engine : Engine) (config : Config) (state : DrainWorld)
    (input : DrainInput) :
    ViewSteps state (state.step engine config input) (RetriesAlone state input) := by
  have move := step_move engine config state input
  generalize state.step engine config input = after at move
  cases move with
  | pushed msg => exact .of_actions [.push msg] rfl fun _ => ⟨trivial, trivial⟩
  | other pushes world point frame held => exact .same (view_eq_of_frame frame held)
  | attempt filter item remaining free next =>
      exact viewSteps_attempt engine config filter remaining _ free next
  | putBack filter item holding =>
      refine .of_actions [.putBack] ?_ ?_
      · simp [view, putBack, Execution.run, RetryQueue.step, RetryQueue.insert, holding,
          DrainPoint.heldRow, sentRows, BoundedQueue.push]
      · intro alone
        exact ⟨alone (by rw [holding]; rfl), trivial⟩

theorem pushed_step (engine : Engine) (config : Config) (state : DrainWorld)
    (input : DrainInput) :
    (state.step engine config input).pushed = state.pushed ++ pushedRows [input] := by
  have move := step_move engine config state input
  generalize state.step engine config input = after at move
  cases move with
  | pushed msg => rfl
  | other pushes world point frame held =>
      rw [pushes, List.append_nil]
  | attempt filter item remaining free next => exact (List.append_nil _).symm
  | putBack filter item holding => exact (List.append_nil _).symm

structure Sound (past : List DrainInput) (state : DrainWorld) : Prop where
  pushed : state.pushed = pushedRows past
  conserved : state.view.Conserved

theorem sound_run (engine : Engine) (config : Config) (inputs : List DrainInput) :
    Sound inputs (run engine config inputs) := by
  apply Execution.run_history_invariant Sound ⟨rfl, RetryQueue.conserved_empty⟩
  intro past input sound
  constructor
  · rw [pushed_step, pushedRows_snoc, sound.pushed]
  · rcases viewSteps engine config (run engine config past) input with ⟨actions, view, -⟩
    rw [view]
    exact Execution.run_invariant RetryQueue.Conserved
      (fun _ action conserved => conserved.step action) sound.conserved actions

theorem evictedByRetry_step {input : DrainInput} (alone : RetriesAlone state input)
    (nothing : state.evictedByRetry = []) :
    (state.step engine config input).evictedByRetry = [] := by
  have move := step_move engine config state input
  generalize state.step engine config input = after at move
  cases move with
  | pushed msg => exact nothing
  | other pushes world point frame held => exact nothing
  | attempt filter item remaining free next => exact nothing
  | putBack filter item holding =>
      have empty : state.world.inbound.items = [] := alone (by rw [holding]; rfl)
      rw [putBack, nothing, BoundedDeque.evicted_of_empty empty]
      rfl

end Simulation

/-- While a row that could not be broadcast goes back to an empty queue, rows that are
pushed in the order of their ids are broadcast in this order, and none is dropped for
another one's retry. -/
theorem inbound_order (engine : Engine) (config : Config) (inputs : List DrainInput)
    (increasing : ((pushedRows inputs).map InboundMessage.id).Pairwise (· < ·))
    (alone : Execution.Along (step engine config) RetriesAlone {} inputs) :
    ((run engine config inputs).sentRows.map InboundMessage.id).Pairwise (· < ·) ∧
      (run engine config inputs).evictedByRetry = [] := by
  have kept : (run engine config inputs).view.Ordered ∧
      (run engine config inputs).evictedByRetry = [] := by
    refine Execution.run_along_invariant
      (fun _ (state : DrainWorld) => state.view.Ordered ∧ state.evictedByRetry = [])
      ⟨RetryQueue.ordered_empty, rfl⟩ ?_ inputs alone
    intro past input allowed kept
    refine ⟨?_, evictedByRetry_step allowed kept.2⟩
    rcases viewSteps engine config (run engine config past) input with ⟨actions, view, inOrder⟩
    rw [view]
    exact Execution.run_along_invariant (fun _ queue => queue.Ordered) kept.1
      (fun _ _ putsBackAlone ordered => ordered.step putsBackAlone) actions (inOrder allowed)
  have finished : (run engine config inputs).sentRows.Sublist
      (run engine config inputs).view.items := by
    unfold RetryQueue.items
    rw [List.append_assoc]
    exact List.sublist_append_left _ _
  have pushed : (run engine config inputs).view.pushed = pushedRows inputs :=
    (sound_run engine config inputs).pushed
  refine ⟨?_, kept.2⟩
  have ordered := finished.trans kept.1
  rw [pushed] at ordered
  exact increasing.sublist (ordered.map InboundMessage.id)

def retriedRows (first second : List DrainInput) : List DrainInput :=
  warmedUp ++ first ++ wholeTick ++ second ++ wholeTick

theorem inbound_order_retried :
    Execution.Along (step (flickeringEngine 109) plainConfig) RetriesAlone {}
        (retriedRows [.inboundPushed (remoteRow 1 (Bytes.ascii "hello?"))]
          [.inboundPushed (remoteRow 2 (Bytes.ascii "anyone?"))]) ∧
      ((run (flickeringEngine 109) plainConfig (retriedRows
        [.inboundPushed (remoteRow 1 (Bytes.ascii "hello?"))]
        [.inboundPushed (remoteRow 2 (Bytes.ascii "anyone?"))])).sentRows.map
          InboundMessage.id).Pairwise (· < ·) := by
  have alone : Execution.Along (step (flickeringEngine 109) plainConfig) RetriesAlone {}
      (retriedRows [.inboundPushed (remoteRow 1 (Bytes.ascii "hello?"))]
        [.inboundPushed (remoteRow 2 (Bytes.ascii "anyone?"))]) := by
    decide +kernel
  exact ⟨alone, (inbound_order _ plainConfig _ (by decide +kernel) alone).1⟩

/-- A row that waits behind the first one is broadcast before it. -/
theorem inbound_reordered :
    let inputs := retriedRows [.inboundPushed (remoteRow 1 (Bytes.ascii "hello?")),
      .inboundPushed (remoteRow 2 (Bytes.ascii "anyone?"))] []
    (pushedRows inputs).map InboundMessage.id = [1, 2] ∧
      (run (flickeringEngine 109) plainConfig inputs).sentRows.map InboundMessage.id = [2, 1] ∧
      ¬((run (flickeringEngine 109) plainConfig inputs).sentRows.map
        InboundMessage.id).Pairwise (· < ·) := by
  decide +kernel

end DrainWorld

end PalCrosschat
