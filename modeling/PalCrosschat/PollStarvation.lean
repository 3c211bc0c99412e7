import PalCrosschat.OutboundRuns
import PalCrosschat.PollLoop

/-! # Rejected for good

A message that the database always rejects goes to the back of the outbound queue and
comes to its front again in the next iteration. From then on the thread never reaches
`poll_inbound`, however long it runs, unless the queue overflows and drops the message. -/

namespace PalCrosschat

open Bytes (ascii)

def Control.beforePoll : Control → Bool
  | .inserting _ | .backoff => true
  | control => control.early

theorem Control.beforePoll_of_early {control : Control} (early : control.early = true) :
    control.beforePoll = true := by
  cases control <;> first | exact early | rfl

def polls (journal : List WorkerEvent) : Nat := journal.count .polled

/-- The thread is on its way to the poll check, and the rejected message in its way. -/
structure Starved (rejected : OutboundMessage) (state : DbState) : Prop where
  before : state.worker.control.beforePoll = true
  waits : rejected ∈ state.outbound.items ∨ state.worker.control = .inserting rejected

section Starved

variable {config : Config} {rejected : OutboundMessage} {state : DbState} {input : WorkerInput}

theorem polls_snoc {event : WorkerEvent} (other : event ≠ .polled) (journal : List WorkerEvent) :
    polls (journal ++ [event]) = polls journal := by
  rw [polls, List.count_append, List.count_singleton, if_neg (by simpa using other)]
  rfl

theorem polls_step (config : Config) (input : WorkerInput)
    (elsewhere : ∀ now, state.worker.control ≠ .selecting now) :
    polls (DbWorker.step config state input).worker.journal = polls state.worker.journal := by
  have move := DbWorker.step_move config state input
  generalize DbWorker.step config state input = after at move
  cases move with
  | quiet quiet =>
      rcases quiet.journal with ⟨added, grown, silent⟩
      have none : .polled ∉ added := by
        intro member
        cases silent _ member
      rw [grown, polls, List.count_append, List.count_eq_zero.mpr none]
      rfl
  | readMaxId control =>
      apply polls_snoc
      simp
  | armCursor maxId control => rfl
  | pop item control popped => rfl
  | store item control =>
      apply polls_snoc
      simp
  | requeue item control =>
      apply polls_snoc
      simp
  | select now control => exact absurd control (elsewhere now)
  | fetch batch row rest beyond control rows =>
      apply polls_snoc
      simp
  | advance id batch control => rfl

theorem outbound_step_early (config : Config) (input : WorkerInput)
    (early : state.worker.control.early = true)
    (undrained : state.worker.control ≠ .drainOutbound) :
    (DbWorker.step config state input).outbound = state.outbound := by
  have elsewhere {control : Control} (here : state.worker.control = control)
      (late : control.early = false) : False := by
    rw [here, late] at early
    cases early
  have move := DbWorker.step_move config state input
  generalize DbWorker.step config state input = after at move
  cases move with
  | quiet quiet => exact quiet.outbound
  | readMaxId control => rfl
  | armCursor maxId control => rfl
  | pop item control popped => exact absurd control undrained
  | store item control => exact (elsewhere control rfl).elim
  | requeue item control => exact (elsewhere control rfl).elim
  | select now control => exact (elsewhere control rfl).elim
  | fetch batch row rest beyond control rows => exact (elsewhere control rfl).elim
  | advance id batch control => exact (elsewhere control rfl).elim

namespace Starved

theorem elsewhere (starved : Starved rejected state) (now : Nanoseconds) :
    state.worker.control ≠ .selecting now := by
  intro here
  have before := starved.before
  rw [here] at before
  cases before

theorem queued (starved : Starved rejected state)
    (free : state.worker.control ≠ .inserting rejected) : rejected ∈ state.outbound.items :=
  starved.waits.resolve_right free

theorem step_early (starved : Starved rejected state)
    (early : state.worker.control.early = true)
    (undrained : state.worker.control ≠ .drainOutbound)
    (allowed : DbWorker.onlyRejects config rejected state input = true)
    (running : input.stopRequested = false) :
    Starved rejected (DbWorker.step config state input) := by
  have onward := DbWorker.early_step early undrained allowed
  rw [running] at onward
  constructor
  · rcases onward with ⟨-, stopping⟩ | next
    · cases stopping
    · exact Control.beforePoll_of_early next
  · left
    rw [outbound_step_early config input early undrained]
    apply starved.queued
    intro held
    rw [held] at early
    cases early

theorem step_drainOutbound (starved : Starved rejected state)
    (control : state.worker.control = .drainOutbound) (running : input.stopRequested = false) :
    Starved rejected (DbWorker.step config state input) := by
  have queued : rejected ∈ state.outbound.deque.items := starved.queued (by simp [control])
  cases items : state.outbound.deque.items with
  | nil =>
      rw [items] at queued
      cases queued
  | cons item rest =>
      have popped : state.outbound.tryPop =
          (some item, { state.outbound with deque := state.outbound.deque.pop }) := by
        unfold BoundedQueue.tryPop
        rw [items]
      have next : DbWorker.step config state input = DbWorker.goTo
          { state with outbound := { state.outbound with deque := state.outbound.deque.pop } }
          (.inserting item) := by
        simp only [DbWorker.step, control, running, popped]
        rfl
      rw [next]
      refine ⟨rfl, ?_⟩
      rw [items] at queued
      rcases List.mem_cons.mp queued with same | later
      · right
        rw [same]
        rfl
      · left
        change rejected ∈ state.outbound.deque.items.tail
        rw [items]
        exact later

theorem step_inserting (starved : Starved rejected state) {item : OutboundMessage}
    (control : state.worker.control = .inserting item)
    (allowed : DbWorker.onlyRejects config rejected state input = true) :
    Starved rejected (DbWorker.step config state input) := by
  have rejects : input.ok = (item != rejected) := by
    simpa [DbWorker.onlyRejects, control] using allowed
  by_cases same : item = rejected
  · have next : DbWorker.step config state input =
        DbWorker.markFailure { state with outbound := state.outbound.push item } := by
      simp [DbWorker.step, control, rejects, same]
    rw [next, same]
    exact ⟨rfl, .inl (List.mem_append_right _ (List.mem_singleton.mpr rfl))⟩
  · have next : DbWorker.step config state input =
        DbWorker.goTo (DbWorker.insertOutbound config state item) .drainOutbound := by
      simp [DbWorker.step, control, rejects, same]
    rw [next]
    exact ⟨rfl, .inl (starved.queued (by simp [control, same]))⟩

theorem step (starved : Starved rejected state)
    (allowed : DbWorker.onlyRejects config rejected state input = true)
    (running : input.stopRequested = false) :
    Starved rejected (DbWorker.step config state input) := by
  cases control : state.worker.control with
  | loopHead | readMaxId | upsertCursor _ | drainLinks | linkConflict _ | linkLookup _
  | linkComplete _ =>
      apply starved.step_early
      · rw [control]
        rfl
      · simp [control]
      · exact allowed
      · exact running
  | drainOutbound => exact starved.step_drainOutbound control running
  | inserting item => exact starved.step_inserting control allowed
  | backoff =>
      have next : DbWorker.step config state input = DbWorker.goTo
          { state with worker := { state.worker with
            backoffSec := DbWorker.nextBackoff config state.worker.backoffSec } } .loopHead := by
        simp [DbWorker.step, control, running]
      rw [next]
      exact ⟨rfl, .inl (starved.queued (by simp [control]))⟩
  | _ =>
      have before := starved.before
      rw [control] at before
      cases before

end Starved

end Starved

namespace World

variable {engine : Engine} {config : Config} {rejected : OutboundMessage}

/-- The database rejects the message, the thread is not stopped, and the game thread finds
room for its lines. -/
def KeepsRejecting (engine : Engine) (config : Config) (rejected : OutboundMessage)
    (world : World) : WorldInput → Prop
  | .worker input =>
      DbWorker.onlyRejects config rejected world.dbState input = true ∧
        input.stopRequested = false
  | input => (world.step engine config input).mod.outbound.drops = world.mod.outbound.drops

instance (world : World) : ∀ input, Decidable (world.KeepsRejecting engine config rejected input)
  | .worker _ => inferInstanceAs (Decidable (_ ∧ _))
  | .hook _ | .update | .join _ | .remote _ | .webhookPopped => instDecidableEqNat _ _

theorem starved_callback {world : World} {mod : Mod} (handsOut : world.mod.HandsOut mod)
    (room : mod.outbound.drops = world.mod.outbound.drops)
    (starved : Starved rejected world.dbState) : Starved rejected { world with mod }.dbState := by
  rcases handsOut with ⟨msgs, queue, -⟩
  refine ⟨starved.before, ?_⟩
  rcases starved.waits with queued | held
  · left
    change rejected ∈ mod.outbound.items
    rw [queue] at room ⊢
    exact BoundedQueue.mem_foldl_push room queued
  · exact .inr held

theorem starved_step {world : World} {input : WorldInput}
    (allowed : world.KeepsRejecting engine config rejected input)
    (starved : Starved rejected world.dbState) :
    Starved rejected (world.step engine config input).dbState ∧
      polls (world.step engine config input).worker.journal = polls world.worker.journal := by
  cases input with
  | hook context =>
      exact ⟨starved_callback (Mod.handsOut_handleHook engine config _ context) allowed starved,
        rfl⟩
  | update => exact ⟨starved_callback (Mod.handsOut_onUpdate engine config _) allowed starved, rfl⟩
  | join playerState => exact ⟨starved_callback (.nothing rfl rfl) allowed starved, rfl⟩
  | worker input =>
      exact ⟨starved.step allowed.1 allowed.2, polls_step config input starved.elsewhere⟩
  | remote action => exact ⟨⟨starved.before, starved.waits⟩, rfl⟩
  | webhookPopped => exact ⟨starved, rfl⟩

end World

end PalCrosschat
