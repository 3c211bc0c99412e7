import PalCrosschat.Foundation.RetryQueue
import PalCrosschat.WorkerSteps
import PalCrosschat.World

/-! # Outbound messages under failures

The outbound queue between the game thread, which pushes relayed lines, and the
database thread, which takes them out one by one and puts a message whose INSERT
failed back at the end. The queue with the message in the thread's hands and the
stored messages is a `RetryQueue`. -/

namespace PalCrosschat

/-! ## The machine -/

/-- What the database thread touches, with what the queue was given and what it dropped
so far, oldest first. -/
structure OutboundWorld where
  state : DbState := {}
  pushed : List OutboundMessage := []
  evicted : List OutboundMessage := []

inductive OutboundInput
  /-- The game thread relays a line. -/
  | pushed (msg : OutboundMessage)
  /-- The database thread takes a step. -/
  | worker (input : WorkerInput)
  /-- Another writer of the database takes a step. -/
  | remote (action : RemoteAction)
  /-- The rest of the mod uses the other queues. -/
  | elsewhere (inbound : InboundQueue) (linkJobs : LinkQueue) (linkResults : LinkResultQueue)

namespace OutboundWorld

/-- What a step of the thread drops: putting a message back into a full queue costs the
oldest one. -/
def requeueEvicts (state : DbState) (input : WorkerInput) : Option OutboundMessage :=
  match state.worker.control with
  | .inserting _ => if input.ok then none else state.outbound.deque.evicted
  | _ => none

variable (config : Config)

def step (world : OutboundWorld) : OutboundInput → OutboundWorld
  | .pushed msg =>
      { state := { world.state with outbound := world.state.outbound.push msg }
        pushed := world.pushed ++ [msg]
        evicted := world.evicted ++ world.state.outbound.deque.evicted.toList }
  | .worker input =>
      { world with
        state := DbWorker.step config world.state input
        evicted := world.evicted ++ (requeueEvicts world.state input).toList }
  | .remote action =>
      { world with
        state := { world.state with database := world.state.database.remote action } }
  | .elsewhere inbound linkJobs linkResults =>
      { world with state := { world.state with inbound, linkJobs, linkResults } }

def initial (startedAt : Nanoseconds) (database : Database) : OutboundWorld where
  state := { worker := .initial startedAt, database }

abbrev run (startedAt : Nanoseconds) (database : Database) (inputs : List OutboundInput) :
    OutboundWorld :=
  Execution.run (step config) (initial startedAt database) inputs

end OutboundWorld

/-! ## The abstract queue -/

/-- The message between `TryPop` and the end of its INSERT. -/
def Control.heldMessage : Control → Option OutboundMessage
  | .inserting item => some item
  | _ => none

def WorkerEvent.stored : WorkerEvent → Option (OutboundMessage × Row)
  | .inserted msg row => some (msg, row)
  | _ => none

def storedMessages (journal : List WorkerEvent) : List (OutboundMessage × Row) :=
  journal.filterMap WorkerEvent.stored

theorem storedMessages_append (first second : List WorkerEvent) :
    storedMessages (first ++ second) = storedMessages first ++ storedMessages second :=
  List.filterMap_append

theorem storedMessages_quiet {added : List WorkerEvent}
    (quiet : ∀ event ∈ added, event.aboutMessages = false) : storedMessages added = [] := by
  apply List.filterMap_eq_nil_iff.mpr
  intro event member
  have silent := quiet event member
  cases event <;> first | rfl | cases silent

namespace OutboundWorld

def view (world : OutboundWorld) : RetryQueue kQueueMax OutboundMessage where
  waiting := world.state.outbound.deque
  held := world.state.worker.control.heldMessage
  pushed := world.pushed
  finished := (storedMessages world.state.worker.journal).map Prod.fst
  evicted := world.evicted

section Worker

variable {config : Config} {state : DbState} {input : WorkerInput}

structure Unmoved (state after : DbState) : Prop where
  outbound : after.outbound = state.outbound
  held : after.worker.control.heldMessage = none
  stored : storedMessages after.worker.journal = storedMessages state.worker.journal
  nextId : after.database.nextId = state.database.nextId

inductive OutboundMove (config : Config) (state : DbState) (input : WorkerInput) :
    DbState → Prop
  | idle {after : DbState} (free : state.worker.control.heldMessage = none)
      (unmoved : Unmoved state after) : OutboundMove config state input after
  | take (item : OutboundMessage) (free : state.worker.control.heldMessage = none)
      (popped : state.outbound.tryPop.1 = some item) :
      OutboundMove config state input (DbWorker.goTo
        { state with outbound := state.outbound.tryPop.2 } (.inserting item))
  | store (item : OutboundMessage) (control : state.worker.control = .inserting item)
      (succeeds : input.ok = true) :
      OutboundMove config state input
        (DbWorker.goTo (DbWorker.insertOutbound config state item) .drainOutbound)
  | putBack (item : OutboundMessage) (control : state.worker.control = .inserting item)
      (fails : input.ok = false) :
      OutboundMove config state input
        (DbWorker.markFailure { state with outbound := state.outbound.push item })

theorem unmoved_of_quiet {after : DbState} (quiet : DbWorker.Quiet state after) :
    Unmoved state after := by
  rcases quiet.journal with ⟨added, grown, silent⟩
  constructor
  · exact quiet.outbound
  · have free := quiet.holds
    cases control : after.worker.control with
    | inserting item =>
        rw [control] at free
        cases free
    | _ => rfl
  · rw [grown, storedMessages_append, storedMessages_quiet silent, List.append_nil]
  · exact quiet.nextId

/-- Events about other things leave the stored messages alone. -/
theorem unmoved_of_event {after : DbState} {event : WorkerEvent}
    (outbound : after.outbound = state.outbound)
    (held : after.worker.control.heldMessage = none)
    (journal : after.worker.journal = state.worker.journal ++ [event])
    (other : event.stored = none)
    (nextId : after.database.nextId = state.database.nextId) : Unmoved state after := by
  refine ⟨outbound, held, ?_, nextId⟩
  rw [journal, storedMessages_append, storedMessages, storedMessages,
    List.filterMap_cons_none other, List.filterMap_nil, List.append_nil]

theorem step_outboundMove (config : Config) (state : DbState) (input : WorkerInput) :
    OutboundMove config state input (DbWorker.step config state input) := by
  cases busy : state.worker.control.heldMessage with
  | some item =>
      have control : state.worker.control = .inserting item := by
        cases here : state.worker.control with
        | inserting other =>
            rw [here] at busy
            cases busy
            rfl
        | _ =>
            rw [here] at busy
            cases busy
      simp only [DbWorker.step, control]
      cases outcome : input.ok with
      | true => exact .store item control outcome
      | false => exact .putBack item control outcome
  | none =>
      have notHolding : ∀ item, state.worker.control ≠ .inserting item := by
        intro item control
        rw [control] at busy
        cases busy
      have move := DbWorker.step_move config state input
      generalize DbWorker.step config state input = after at move
      cases move with
      | quiet quiet => exact .idle busy (unmoved_of_quiet quiet)
      | readMaxId control => exact .idle busy (unmoved_of_event rfl rfl rfl rfl rfl)
      | armCursor maxId control => exact .idle busy ⟨rfl, rfl, rfl, rfl⟩
      | pop item control popped => exact .take item busy popped
      | store item control => exact absurd control (notHolding item)
      | requeue item control => exact absurd control (notHolding item)
      | select now control => exact .idle busy (unmoved_of_event rfl rfl rfl rfl rfl)
      | fetch batch row rest beyond control rows =>
          exact .idle busy (unmoved_of_event rfl rfl rfl rfl rfl)
      | advance id batch control => exact .idle busy ⟨rfl, rfl, rfl, rfl⟩

end Worker

/-! ## Simulation -/

variable {config : Config} {world : OutboundWorld}

inductive ViewMove (config : Config) (world : OutboundWorld) (input : WorkerInput) : Prop
  | same (view : (world.step config (.worker input)).view = world.view)
      (drops : (world.step config (.worker input)).state.outbound.drops =
        world.state.outbound.drops)
  | moved (action : RetryQueue.Input OutboundMessage)
      (works : action = .take ∨ action = .finish)
      (view : (world.step config (.worker input)).view = world.view.step action)
      (drops : (world.step config (.worker input)).state.outbound.drops =
        world.state.outbound.drops)
  | failed (item : OutboundMessage) (control : world.state.worker.control = .inserting item)
      (fails : input.ok = false)
      (view : (world.step config (.worker input)).view = world.view.step .putBack)
      (drops : (world.step config (.worker input)).state.outbound.drops =
        world.state.outbound.drops + world.state.outbound.deque.evicted.toList.length)

theorem requeueEvicts_of_free {state : DbState}
    (free : state.worker.control.heldMessage = none) (input : WorkerInput) :
    requeueEvicts state input = none := by
  unfold requeueEvicts
  cases control : state.worker.control with
  | inserting item =>
      rw [control] at free
      cases free
  | _ => rfl

theorem viewMove (config : Config) (world : OutboundWorld) (input : WorkerInput) :
    ViewMove config world input := by
  have move := step_outboundMove config world.state input
  generalize stepped : DbWorker.step config world.state input = after at move
  have afterStep : world.step config (.worker input) =
      { world with
        state := after
        evicted := world.evicted ++ (requeueEvicts world.state input).toList } := by
    rw [step, stepped]
  cases move with
  | idle free unmoved =>
      have nothing := requeueEvicts_of_free free input
      refine .same ?_ ?_
      · simp [view, afterStep, nothing, unmoved.outbound, unmoved.held, unmoved.stored, free]
      · rw [afterStep, unmoved.outbound]
  | take item free popped =>
      have nothing := requeueEvicts_of_free free input
      rcases BoundedQueue.tryPop_some popped with ⟨rest, waiting, rested⟩
      have taken : world.view.take = _ := RetryQueue.take_of_free free waiting
      refine .moved .take (.inl rfl) ?_ ?_
      · rw [RetryQueue.step, taken, afterStep, nothing, rested]
        simp [view, DbWorker.goTo, Control.heldMessage]
      · rw [afterStep, rested]
        rfl
  | store item control succeeds =>
      have nothing : requeueEvicts world.state input = none := by
        simp [requeueEvicts, control, succeeds]
      refine .moved .finish (.inr rfl) ?_ ?_
      · simp [view, afterStep, nothing, RetryQueue.step, control, Control.heldMessage,
          DbWorker.goTo, DbWorker.insertOutbound, DbWorker.note, storedMessages,
          WorkerEvent.stored]
      · rw [afterStep]
        rfl
  | putBack item control fails =>
      have dropped : requeueEvicts world.state input = world.state.outbound.deque.evicted := by
        simp [requeueEvicts, control, fails]
      refine .failed item control fails ?_ ?_
      · simp [view, afterStep, dropped, RetryQueue.step, RetryQueue.insert, control,
          Control.heldMessage, DbWorker.markFailure, DbWorker.startBackoff, DbWorker.goTo,
          DbWorker.note, storedMessages, WorkerEvent.stored, BoundedQueue.push]
      · rw [afterStep]
        exact world.state.outbound.drops_push item

/-! ## Conservation -/

def pushedMessages (inputs : List OutboundInput) : List OutboundMessage :=
  inputs.filterMap fun
    | .pushed msg => some msg
    | _ => none

theorem pushedMessages_snoc (past : List OutboundInput) (input : OutboundInput) :
    pushedMessages (past ++ [input]) = pushedMessages past ++ pushedMessages [input] :=
  List.filterMap_append

structure Sound (past : List OutboundInput) (world : OutboundWorld) : Prop where
  pushed : world.pushed = pushedMessages past
  conserved : world.view.Conserved
  drops : world.state.outbound.drops = world.evicted.length

theorem view_pushed (msg : OutboundMessage) :
    (world.step config (.pushed msg)).view = world.view.step (.push msg) := rfl

theorem Sound.step {past : List OutboundInput} (sound : Sound past world)
    (input : OutboundInput) : Sound (past ++ [input]) (world.step config input) := by
  have pushed : (world.step config input).pushed = pushedMessages (past ++ [input]) := by
    rw [pushedMessages_snoc, ← sound.pushed]
    cases input with
    | pushed msg => rfl
    | worker input => exact (List.append_nil _).symm
    | remote action => exact (List.append_nil _).symm
    | elsewhere inbound linkJobs linkResults => exact (List.append_nil _).symm
  cases input with
  | pushed msg =>
      refine ⟨pushed, ?_, ?_⟩
      · rw [view_pushed]
        exact sound.conserved.step (.push msg)
      · change (world.state.outbound.push msg).drops = (world.evicted ++ _).length
        rw [BoundedQueue.drops_push, sound.drops, List.length_append]
  | worker input =>
      cases viewMove config world input with
      | same view drops =>
          refine ⟨pushed, ?_, ?_⟩
          · rw [view]
            exact sound.conserved
          · have evicted : (world.step config (.worker input)).evicted = world.evicted :=
              congrArg RetryQueue.evicted view
            rw [drops, evicted, sound.drops]
      | moved action works view drops =>
          refine ⟨pushed, ?_, ?_⟩
          · rw [view]
            exact sound.conserved.step action
          · have kept : (world.view.step action).evicted = world.evicted := by
              rcases works with rfl | rfl
              · exact world.view.take_history.2
              · rfl
            have evicted : (world.step config (.worker input)).evicted = world.evicted :=
              (congrArg RetryQueue.evicted view).trans kept
            rw [drops, evicted, sound.drops]
      | failed item control fails view drops =>
          refine ⟨pushed, ?_, ?_⟩
          · rw [view]
            exact sound.conserved.step .putBack
          · change _ = (world.evicted ++ (requeueEvicts world.state input).toList).length
            have dropped : requeueEvicts world.state input =
                world.state.outbound.deque.evicted := by
              simp [requeueEvicts, control, fails]
            rw [drops, dropped, sound.drops, List.length_append]
  | remote action => exact ⟨pushed, sound.conserved, sound.drops⟩
  | elsewhere inbound linkJobs linkResults => exact ⟨pushed, sound.conserved, sound.drops⟩

theorem sound_run (config : Config) (startedAt : Nanoseconds) (database : Database)
    (inputs : List OutboundInput) : Sound inputs (run config startedAt database inputs) :=
  Execution.run_history_invariant Sound ⟨rfl, RetryQueue.conserved_empty, rfl⟩
    (fun _ input sound => sound.step input) inputs

/-- Where the pushed messages are. -/
theorem Sound.located {past : List OutboundInput} (sound : Sound past world) :
    (pushedMessages past).Perm
      ((storedMessages world.state.worker.journal).map Prod.fst ++
        world.state.worker.control.heldMessage.toList ++ world.state.outbound.items ++
        world.evicted) := by
  have conserved := sound.conserved
  unfold RetryQueue.Conserved at conserved
  rwa [show world.view.pushed = pushedMessages past from sound.pushed] at conserved

/-- At every moment each pushed message was stored, waits in the queue, is in the
thread's hands, or was dropped by an insertion into the full queue. -/
theorem outbound_conserved (config : Config) (startedAt : Nanoseconds) (database : Database)
    (inputs : List OutboundInput) :
    let world := run config startedAt database inputs
    (pushedMessages inputs).Perm
        ((storedMessages world.state.worker.journal).map Prod.fst ++
          world.state.worker.control.heldMessage.toList ++ world.state.outbound.items ++
          world.evicted) ∧
      world.state.outbound.items.length ≤ 500 ∧
      world.state.outbound.drops = world.evicted.length := by
  have sound := sound_run config startedAt database inputs
  exact ⟨sound.located, BoundedDeque.bounded _, sound.drops⟩

/-! ## Order -/

/-- An INSERT may fail only while no other message waits. -/
def FailsAlone (world : OutboundWorld) (input : OutboundInput) : Prop :=
  match input with
  | .worker input =>
      world.state.worker.control.heldMessage.isSome = true → input.ok = false →
        world.state.outbound.items = []
  | _ => True

instance (world : OutboundWorld) (input : OutboundInput) :
    Decidable (FailsAlone world input) := by
  unfold FailsAlone
  split <;> infer_instance

theorem ordered_step (ordered : world.view.Ordered) {input : OutboundInput}
    (alone : FailsAlone world input) : (world.step config input).view.Ordered := by
  cases input with
  | pushed msg =>
      rw [view_pushed]
      exact ordered.step trivial
  | worker input =>
      cases viewMove config world input with
      | same view drops =>
          rw [view]
          exact ordered
      | moved action works view drops =>
          rw [view]
          apply ordered.step
          rcases works with rfl | rfl
          · trivial
          · trivial
      | failed item control fails view drops =>
          rw [view]
          apply ordered.step
          exact alone (by rw [control]; rfl) fails
  | remote action => exact ordered
  | elsewhere inbound linkJobs linkResults => exact ordered

structure RowsInOrder (world : OutboundWorld) : Prop where
  increasing : ((storedMessages world.state.worker.journal).map fun stored =>
    stored.2.id).Pairwise (· < ·)
  fresh : ∀ stored ∈ storedMessages world.state.worker.journal,
    stored.2.id < world.state.database.nextId

theorem RowsInOrder.later (inOrder : RowsInOrder world) {after : OutboundWorld}
    (stored : storedMessages after.state.worker.journal =
      storedMessages world.state.worker.journal)
    (nextId : world.state.database.nextId ≤ after.state.database.nextId) :
    RowsInOrder after := by
  constructor
  · rw [stored]
    exact inOrder.increasing
  · intro entry member
    rw [stored] at member
    exact Nat.lt_of_lt_of_le (inOrder.fresh entry member) nextId

theorem RowsInOrder.step (inOrder : RowsInOrder world) (input : OutboundInput) :
    RowsInOrder (world.step config input) := by
  cases input with
  | pushed msg => exact inOrder.later rfl (Nat.le_refl _)
  | worker input =>
      have move := step_outboundMove config world.state input
      generalize stepped : DbWorker.step config world.state input = after at move
      have state : (world.step config (.worker input)).state = after := stepped
      cases move with
      | idle free unmoved =>
          apply inOrder.later
          · rw [state, unmoved.stored]
          · rw [state, unmoved.nextId]
      | take item free popped =>
          apply inOrder.later
          · rw [state]
            rfl
          · rw [state]
            exact Nat.le_refl _
      | store item control succeeds =>
          have grown : storedMessages (world.step config (.worker input)).state.worker.journal =
              storedMessages world.state.worker.journal ++
                [(item, { DbWorker.outboundRow config item with
                  id := world.state.database.nextId })] := by
            rw [state]
            exact storedMessages_append _ [_]
          have next : (world.step config (.worker input)).state.database.nextId =
              world.state.database.nextId + 1 := by
            rw [state]
            rfl
          constructor
          · rw [grown, List.map_append, List.pairwise_append]
            refine ⟨inOrder.increasing, List.pairwise_singleton _ _, ?_⟩
            intro old member new isNew
            rcases List.mem_map.mp member with ⟨entry, stored, rfl⟩
            rw [List.map_singleton, List.mem_singleton] at isNew
            rw [isNew]
            exact inOrder.fresh entry stored
          · intro entry member
            rw [grown] at member
            rw [next]
            rcases List.mem_append.mp member with old | new
            · exact Nat.lt_succ_of_lt (inOrder.fresh entry old)
            · rw [List.mem_singleton.mp new]
              exact Nat.lt_succ_self _
      | putBack item control fails =>
          apply inOrder.later
          · rw [state]
            change storedMessages (_ ++ [_]) = _
            rw [storedMessages_append]
            exact List.append_nil _
          · rw [state]
            exact Nat.le_refl _
  | remote action =>
      apply inOrder.later
      · rfl
      · cases action with
        | begin row => exact Nat.le_succ _
        | commit id => exact Nat.le_refl _
        | rollback id => exact Nat.le_refl _
  | elsewhere inbound linkJobs linkResults => exact inOrder.later rfl (Nat.le_refl _)

/-- When an INSERT fails only while nothing else waits, the rows of this server are in
the order in which their messages were pushed. -/
theorem outbound_order (config : Config) (startedAt : Nanoseconds) (database : Database)
    (inputs : List OutboundInput)
    (alone : Execution.Along (step config) FailsAlone (initial startedAt database) inputs) :
    let stored := storedMessages (run config startedAt database inputs).state.worker.journal
    (stored.map Prod.fst).Sublist (pushedMessages inputs) ∧
      (stored.map fun entry => entry.2.id).Pairwise (· < ·) := by
  have sound := sound_run config startedAt database inputs
  have ordered : (run config startedAt database inputs).view.Ordered :=
    Execution.run_along_invariant
      (fun _ (world : OutboundWorld) => world.view.Ordered) RetryQueue.ordered_empty
      (fun _ _ allowed holds => ordered_step holds allowed) inputs alone
  have inOrder : RowsInOrder (run config startedAt database inputs) :=
    Execution.run_invariant RowsInOrder (fun _ input holds => holds.step input)
      ⟨List.Pairwise.nil, fun _ member => absurd member List.not_mem_nil⟩ inputs
  refine ⟨?_, inOrder.increasing⟩
  have finished : ((storedMessages
      (run config startedAt database inputs).state.worker.journal).map Prod.fst).Sublist
      (run config startedAt database inputs).view.items := by
    unfold RetryQueue.items
    rw [List.append_assoc]
    exact List.sublist_append_left _ _
  rw [← sound.pushed]
  exact finished.trans ordered

def retriedOnce (first second : List OutboundInput) : List OutboundInput :=
  first ++ List.replicate 5 (.worker {}) ++ [.worker { ok := false }] ++ second ++
    List.replicate 9 (.worker {})

def hello : OutboundMessage where
  senderName := Bytes.ascii "Ann"
  senderId := []
  guildName := []
  message := Bytes.ascii "hello?"

def answer : OutboundMessage where
  senderName := Bytes.ascii "Bob"
  senderId := []
  guildName := []
  message := Bytes.ascii "hi Ann"

theorem outbound_order_retried :
    Execution.Along (step plainConfig) FailsAlone (initial 0 {})
        (retriedOnce [.pushed hello] [.pushed answer]) ∧
      ((storedMessages (run plainConfig 0 {} (retriedOnce [.pushed hello]
        [.pushed answer])).state.worker.journal).map Prod.fst).Sublist [hello, answer] := by
  have alone : Execution.Along (step plainConfig) FailsAlone (initial 0 {})
      (retriedOnce [.pushed hello] [.pushed answer]) := by
    decide +kernel
  exact ⟨alone, (outbound_order plainConfig 0 {} _ alone).1⟩

/-- An answer that waits behind a rejected line is stored before it. -/
theorem outbound_reordered :
    let inputs := retriedOnce [.pushed hello, .pushed answer] []
    let stored := storedMessages (run plainConfig 0 {} inputs).state.worker.journal
    stored.map (fun entry => (entry.1, entry.2.id)) = [(answer, 1), (hello, 2)] ∧
      pushedMessages inputs = [hello, answer] ∧
      ¬(stored.map Prod.fst).Sublist (pushedMessages inputs) := by
  decide +kernel

end OutboundWorld

end PalCrosschat
