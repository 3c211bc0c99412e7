import PalCrosschat.InboundDelivery

/-! # Commits out of order

Ids are assigned when an INSERT starts, rows become visible when it commits. A
row that commits after a later one was polled is behind the cursor, and no poll
selects it. -/

namespace PalCrosschat

open Bytes (ascii)

/-! ## A thread among others -/

namespace PolledThread

variable {config : Config} (thread : PolledThread config)

/-- From some time on the id stands exactly once among the pushed ones. -/
def DeliversOnce (id : Nat) : Prop :=
  ∃ time, ∀ later, time ≤ later →
    (pushedIds (thread.state later).worker.journal).count id = 1

/-- While the thread takes no step the row becomes visible, after the thread has read a
`MAX(id)` below it. -/
structure Commits (row : Row) (moment : Nat) : Prop where
  idle : thread.taken moment = none
  hidden : ∀ other ∈ (thread.state moment).database.messages, other.id ≠ row.id
  visible : row ∈ (thread.state (moment + 1)).database.messages
  foreign : Database.otherOrigin config.serverOrigin row = true
  fresh : ∃ start maxId, lastMaxId (thread.state start).worker.journal = some maxId ∧
    maxId < row.id

namespace Commits

variable {thread : PolledThread config} {row : Row} {moment : Nat}

theorem deliversOnce (commits : thread.Commits row moment) (healthy : thread.Healthy)
    (batch : 1 ≤ config.maxBatch) (ahead : (thread.state moment).worker.selected < row.id) :
    thread.DeliversOnce row.id := by
  rcases commits.fresh with ⟨start, maxId, read, fresh⟩
  have onItsWay : OnItsWay row (thread.state (moment + 1)).worker
      (thread.state (moment + 1)).database :=
    ⟨commits.visible, .inr (.inr ((thread.others commits.idle).symm ▸ ahead))⟩
  rcases healthy.eventually_pushed batch commits.foreign read fresh onItsWay with
    ⟨time, pushed⟩
  refine ⟨time, fun later order => ?_⟩
  have distinct : (pushedIds (thread.state later).worker.journal).Nodup :=
    (thread.invariant later).increasing.imp Nat.ne_of_lt
  exact List.count_eq_one_of_mem distinct (healthy.pushed_mono order pushed)

theorem not_pushed (commits : thread.Commits row moment) (healthy : thread.Healthy)
    (behind : row.id ≤ (thread.state moment).worker.selected) (later : Nat) :
    row.id ∉ pushedIds (thread.state later).worker.journal := by
  rcases commits.fresh with ⟨-, maxId, -, fresh⟩
  have invariant := thread.invariant moment
  have ready : (thread.state moment).worker.cursorReady = true :=
    (healthy.selectsNothing moment).resolve_right (by omega)
  have passedOver : PassedOver row.id (thread.state moment).worker :=
    { notPushed := fun pushed => by
        rcases mem_pushedIds.mp pushed with ⟨other, msg, member, same⟩
        exact commits.hidden other (invariant.stored other msg member) same
      notAtHand := fun other atHand => commits.hidden other (invariant.rows other atHand).2.1
      behind }
  have since : ∀ later, moment ≤ later → PassedOver row.id (thread.state later).worker := by
    intro later order
    induction order with
    | refl => exact passedOver
    | @step later order induction =>
        exact induction.passage (healthy.passage later)
          (Healthy.not_upsertCursor (healthy.cursorReady order ready))
  intro pushed
  exact (since _ (Nat.le_max_left moment later)).notPushed
    (healthy.pushed_mono (Nat.le_max_right moment later) pushed)

end Commits

end PolledThread

/-! ## Endless runs -/

/-- From some time on the id stands exactly once among the pushed ones. -/
def EndlessRun.DeliversOnce (run : EndlessRun) (id : Nat) : Prop :=
  ∃ time, ∀ later, time ≤ later → (pushedIds (run.world later).worker.journal).count id = 1

/-- The row becomes visible at this moment, after a `MAX(id)` below it was read
by a server it does not come from. -/
structure EndlessRun.Commits (run : EndlessRun) (row : Row) (moment : Nat) : Prop where
  inFlight : row ∈ (run.world moment).database.inFlight
  input : run.inputs moment = .remote (.commit row.id)
  foreign : Database.otherOrigin run.config.serverOrigin row = true
  fresh : ∃ start maxId, lastMaxId (run.world start).worker.journal = some maxId ∧
    maxId < row.id

theorem EndlessRun.Commits.thread {run : EndlessRun} {row : Row} {moment : Nat}
    (commits : run.Commits row moment) : run.thread.Commits row moment where
  idle := congrArg workerInput? commits.input
  hidden other stored same := by
    have unique := (run.cursorInvariant moment).wellFormed.unique
    rw [List.map_append] at unique
    exact (List.nodup_append.mp unique).2.2 _ (List.mem_map_of_mem stored) _
      (List.mem_map_of_mem commits.inFlight) same
  visible := by
    change row ∈ (run.world (moment + 1)).database.messages
    rw [run.world_succ, commits.input]
    exact List.mem_append_right _ (by simpa using commits.inFlight)
  foreign := commits.foreign
  fresh := commits.fresh

/-- A row is delivered exactly once when no larger id was selected before it
became visible, and otherwise not at all. -/
theorem deliversOnce_iff (run : EndlessRun) (healthy : run.Healthy)
    (batch : 1 ≤ run.config.maxBatch) (row : Row) (moment : Nat)
    (commits : run.Commits row moment) :
    run.DeliversOnce row.id ↔ (run.world moment).worker.selected < row.id := by
  constructor
  · intro given
    rcases given with ⟨time, once⟩
    by_contra behind
    have absent : row.id ∉ pushedIds (run.world time).worker.journal :=
      commits.thread.not_pushed healthy.thread (Nat.not_lt.mp behind) time
    have count := once _ (Nat.le_refl time)
    rw [List.count_eq_zero_of_not_mem absent] at count
    omega
  · exact commits.thread.deliversOnce healthy.thread batch

/-! ## Two writers whose commits cross -/

def relayedRow (message : Bytes) : Row where
  id := 0
  origin := some (ascii "pal-eu")
  senderName := some (ascii "Zoe")
  senderId := some []
  guildName := some []
  message := some message

/-- Two INSERTs start, the second one commits, the thread polls, the first one
commits. The thread's clock reads a second more at each step. -/
def crossingInputs (moment : Nat) : WorldInput :=
  if moment = 3 then .remote (.begin (relayedRow (ascii "first")))
  else if moment = 4 then .remote (.begin (relayedRow (ascii "second")))
  else if moment = 5 then .remote (.commit 2)
  else if moment = 14 then .remote (.commit 1)
  else .worker { now := moment * nanosecondsPerSecond }

def crossingRun : EndlessRun where
  engine := quietEngine
  config := plainConfig
  compile := literalRegex
  startedAt := 0
  players := []
  inputs := crossingInputs

def tick (moment : Nat) : WorkerInput where
  now := moment * nanosecondsPerSecond

theorem inputs_crossingRun {moment : Nat} (late : 14 < moment) :
    crossingRun.inputs moment = .worker (tick moment) := by
  change crossingInputs moment = _
  unfold crossingInputs
  repeat rw [if_neg (by omega)]
  rfl

theorem dbState_crossingRun {moment : Nat} (late : 14 < moment) :
    (crossingRun.world (moment + 1)).dbState =
      DbWorker.step plainConfig (crossingRun.world moment).dbState (tick moment) :=
  EndlessRun.dbState_succ (inputs_crossingRun late)

structure Resting (state : DbState) (time : Nanoseconds) : Prop where
  control : state.worker.control = .loopHead
  connected : (state.worker.conn.handle.isSome && state.worker.connected) = true
  ready : state.worker.cursorReady = true
  noLinks : state.linkJobs.items = []
  noOutbound : state.outbound.items = []
  nothingNew : state.database.poll (state.worker.cursorId.getD 0) plainConfig.serverOrigin
    plainConfig.maxBatch.toNat = []
  polled : state.worker.lastPoll < time

theorem Resting.round {moment : Nat} (late : 14 < moment)
    (resting : Resting (crossingRun.world moment).dbState (tick moment).now) :
    (∃ now, (crossingRun.world (moment + 4)).worker.control = .selecting now) ∧
      Resting (crossingRun.world (moment + 7)).dbState (tick (moment + 7)).now := by
  generalize start : (crossingRun.world moment).dbState = state at resting
  have connect : (crossingRun.world (moment + 1)).dbState =
      DbWorker.goTo state .drainLinks := by
    rw [dbState_crossingRun late, start]
    simp only [DbWorker.step, resting.control, DbWorker.ensureConnected, resting.connected,
      DbWorker.afterConnect, resting.ready, if_true]
    rfl
  have links : (crossingRun.world (moment + 2)).dbState =
      DbWorker.goTo state .drainOutbound := by
    rw [dbState_crossingRun (by omega), connect]
    have noLinks : state.linkJobs.deque.items = [] := resting.noLinks
    simp only [DbWorker.step, DbWorker.goTo, BoundedQueue.tryPop, noLinks]
    rfl
  have outbound : (crossingRun.world (moment + 3)).dbState =
      DbWorker.goTo state .pollCheck := by
    rw [dbState_crossingRun (by omega), links]
    have noOutbound : state.outbound.deque.items = [] := resting.noOutbound
    simp only [DbWorker.step, DbWorker.goTo, BoundedQueue.tryPop, noOutbound]
    rfl
  have due : DbWorker.pollDue plainConfig state.worker (tick (moment + 3)).now = true := by
    have waited : ∀ last : Int, last < (moment : Int) * 1000000000 →
        750 * 1000000 ≤ ((moment + 3 : Nat) : Int) * 1000000000 - last := by
      omega
    exact decide_eq_true (waited _ resting.polled)
  have poll : (crossingRun.world (moment + 4)).dbState =
      DbWorker.goTo state (.selecting (tick (moment + 3)).now) := by
    rw [dbState_crossingRun (by omega), outbound]
    exact if_pos due
  have fetch : (crossingRun.world (moment + 5)).dbState =
      DbWorker.goTo (DbWorker.note state .polled)
        (.fetching { rows := [], buffers := {}, now := (tick (moment + 3)).now }) := by
    rw [dbState_crossingRun (by omega), poll]
    simp only [DbWorker.step, DbWorker.goTo, DbWorker.note, resting.nothingNew]
    rfl
  have back : (crossingRun.world (moment + 7)).dbState =
      { DbWorker.note state .polled with
        worker := { (DbWorker.note state .polled).worker with
          control := .loopHead
          lastPoll := (tick (moment + 3)).now } } := by
    rw [dbState_crossingRun (by omega), dbState_crossingRun (by omega), fetch]
    rfl
  constructor
  · exact ⟨_, congrArg (fun state : DbState => state.worker.control) poll⟩
  · rw [back]
    refine ⟨rfl, resting.connected, resting.ready, resting.noLinks, resting.noOutbound,
      resting.nothingNew, ?_⟩
    have earlier : ((moment + 3 : Nat) : Int) * 1000000000 <
        ((moment + 7 : Nat) : Int) * 1000000000 := by
      omega
    exact earlier

theorem resting_crossingRun (round : Nat) :
    Resting (crossingRun.world (15 + 7 * round)).dbState (tick (15 + 7 * round)).now := by
  induction round with
  | zero => exact ⟨by decide, by decide, by decide, by decide, by decide, by decide, by decide⟩
  | succ round induction => exact (induction.round (by omega)).2

theorem healthy_crossingRun : crossingRun.Healthy where
  steps moment input isWorker := by
    change crossingInputs moment = .worker input at isWorker
    unfold crossingInputs at isWorker
    repeat' split at isWorker
    all_goals cases isWorker
    exact ⟨rfl, rfl, rfl⟩
  polls moment :=
    ⟨15 + 7 * moment + 4, by omega,
      ⟨tick (15 + 7 * moment + 4), inputs_crossingRun (by omega)⟩,
      ((resting_crossingRun moment).round (by omega)).1⟩

theorem commits_second :
    crossingRun.Commits { relayedRow (ascii "second") with id := 2 } 5 where
  inFlight := by decide
  input := rfl
  foreign := by decide
  fresh := ⟨5, 0, by decide, by decide⟩

theorem deliversOnce_second : crossingRun.DeliversOnce 2 :=
  (deliversOnce_iff crossingRun healthy_crossingRun (by decide)
    { relayedRow (ascii "second") with id := 2 } 5 commits_second).mpr (by decide)

theorem commits_first :
    crossingRun.Commits { relayedRow (ascii "first") with id := 1 } 14 where
  inFlight := by decide
  input := rfl
  foreign := by decide
  fresh := ⟨5, 0, by decide, by decide⟩

/-- The row that commits last is visible for good and never pushed. -/
theorem first_not_deliversOnce :
    crossingRun.Healthy ∧
    crossingRun.Commits { relayedRow (ascii "first") with id := 1 } 14 ∧
    (∀ later, 14 ≤ later → 1 ∉ pushedIds (crossingRun.world later).worker.journal) ∧
    ¬crossingRun.DeliversOnce 1 := by
  have absent : ∀ later, 14 ≤ later →
      1 ∉ pushedIds (crossingRun.world later).worker.journal := fun later _ =>
    commits_first.thread.not_pushed healthy_crossingRun.thread (by decide) later
  refine ⟨healthy_crossingRun, commits_first, absent, ?_⟩
  intro given
  rcases given with ⟨time, once⟩
  have count := once _ (Nat.le_max_right 14 time)
  rw [List.count_eq_zero_of_not_mem (absent _ (Nat.le_max_left 14 time))] at count
  omega

end PalCrosschat
