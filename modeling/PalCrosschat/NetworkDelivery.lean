import PalCrosschat.CommitOrder
import PalCrosschat.PersistedCursors
import PalCrosschat.PollLoop
import PalCrosschat.RelayProvenance

/-! # Lines arrive

While the threads of two servers stay connected and go on polling, every line that the
relay of the first one hands out is dropped by a full queue or ends up in the inbound
queue of the second one, exactly once, whatever the other servers do in between. -/

namespace PalCrosschat

open Bytes (ascii)
open RelayNetwork (firstServer secondServer)

theorem World.pushed_extends_step (engine : Engine) (config : Config) (world : World)
    (input : WorldInput) :
    (pushedMessages world.mod.journal).IsPrefix
      (pushedMessages (world.step engine config input).mod.journal) := by
  have handed {mod : Mod} (handsOut : world.mod.HandsOut mod) :
      (pushedMessages world.mod.journal).IsPrefix (pushedMessages mod.journal) := by
    rcases handsOut with ⟨msgs, -, journal⟩
    exact ⟨msgs, journal.symm⟩
  cases input with
  | hook context => exact handed (Mod.handsOut_handleHook engine config _ context)
  | update => exact handed (Mod.handsOut_onUpdate engine config _)
  | _ => exact List.prefix_refl _

/-! ## A healthy thread empties the outbound queue -/

theorem exists_start {Holds : Nat → Prop} {first last : Nat} (order : first ≤ last)
    (not : ¬Holds first) (holds : Holds last) :
    ∃ moment, first ≤ moment ∧ ¬Holds moment ∧ Holds (moment + 1) := by
  induction order with
  | refl => exact absurd holds not
  | @step last order induction =>
      by_cases already : Holds last
      · exact induction already
      · exact ⟨last, order, already, holds⟩

def Control.atPoll : Control → Bool
  | .pollCheck | .selecting _ => true
  | _ => false

theorem Control.not_atPoll_of_early {control : Control} (early : control.early = true) :
    control.atPoll = false := by
  cases control <;> first | rfl | cases early

namespace DbWorker

variable {config : Config} {state : DbState} {input : WorkerInput}

theorem early_step_of_healthy (healthy : input.Healthy)
    (early : state.worker.control.early = true)
    (undrained : state.worker.control ≠ .drainOutbound) :
    (step config state input).worker.control.early = true := by
  have allowed : onlyRejects config greeting state input = true := by
    unfold onlyRejects
    cases control : state.worker.control with
    | inserting item => rw [control] at early; cases early
    | pollCheck => rw [control] at early; cases early
    | loopHead => simp [healthy.connect]
    | _ => first | exact healthy.ok | rfl
  rcases early_step early undrained allowed with ⟨-, stopping⟩ | onward
  · rw [healthy.running] at stopping
    cases stopping
  · exact onward

theorem drained_of_atPoll (healthy : input.Healthy)
    (earlier : state.worker.control.atPoll = false)
    (later : (step config state input).worker.control.atPoll = true) :
    state.worker.control = .drainOutbound ∧ state.outbound.items = [] := by
  have notEarly : (step config state input).worker.control.early ≠ true := by
    intro early
    rw [Control.not_atPoll_of_early early] at later
    cases later
  cases control : state.worker.control with
  | drainOutbound =>
      refine ⟨rfl, ?_⟩
      simp only [step, control, healthy.running, Bool.false_eq_true, if_false] at later
      split at later
      · rename_i popped
        exact BoundedQueue.items_eq_nil_of_tryPop (congrArg Prod.fst popped)
      · cases later
  | inserting item =>
      simp only [step, control, healthy.ok, if_true] at later
      cases later
  | pollCheck => rw [control] at earlier; cases earlier
  | selecting now => rw [control] at earlier; cases earlier
  | fetching batch =>
      simp only [step, control, healthy.ok, if_true] at later
      split at later <;> cases later
  | updatingCursor id batch =>
      simp only [step, control, healthy.ok, if_true] at later
      cases later
  | backoff =>
      rcases step_of_sleeping (.inr control) with stopped | loopHead
      · rw [stopped] at later
        cases later
      · rw [loopHead] at later
        cases later
  | idle =>
      rcases step_of_sleeping (.inl control) with stopped | loopHead
      · rw [stopped] at later
        cases later
      · rw [loopHead] at later
        cases later
  | stopped =>
      simp only [step, control] at later
      cases later
  | _ =>
      exact absurd (early_step_of_healthy healthy (by rw [control]; rfl)
        (by simp [control])) notEarly

end DbWorker

/-- What a step stores gets the next id. -/
theorem DbWorker.stored_step {config : Config} {state : DbState} {input : WorkerInput}
    {entry : OutboundMessage × Row} (before : entry ∉ storedMessages state.worker.journal)
    (after : entry ∈ storedMessages (step config state input).worker.journal) :
    entry.2.id = state.database.nextId ∧
      entry.2 = { outboundRow config entry.1 with id := entry.2.id } := by
  have move := OutboundWorld.step_outboundMove config state input
  generalize step config state input = stepped at move after
  cases move with
  | idle free unmoved => exact absurd (unmoved.stored ▸ after) before
  | take item free popped => exact absurd after before
  | store item control succeeds =>
      have grown : entry ∈ storedMessages (state.worker.journal ++
          [.inserted item { outboundRow config item with id := state.database.nextId }]) := after
      rw [storedMessages_append] at grown
      rcases List.mem_append.mp grown with old | new
      · exact absurd old before
      · rw [List.mem_singleton.mp new]
        exact ⟨rfl, rfl⟩
  | putBack item control fails =>
      have same : storedMessages (markFailure
          { state with outbound := state.outbound.push item }).worker.journal =
            storedMessages state.worker.journal :=
        (storedMessages_append _ _).trans (List.append_nil _)
      exact absurd (same ▸ after) before

theorem PolledThread.Healthy.drains {config : Config} {thread : PolledThread config}
    (healthy : thread.Healthy) (moment : Nat) :
    ∃ later, moment ≤ later ∧ (thread.state later).worker.control = .drainOutbound ∧
      (thread.state later).outbound.items = [] := by
  rcases healthy.polls moment with ⟨first, order, ⟨input, turn⟩, now, polling⟩
  rcases healthy.polls (first + 1) with ⟨second, after, -, again, pollingAgain⟩
  have past : (thread.state (first + 1)).worker.control.atPoll ≠ true := by
    rw [thread.own turn]
    simp only [DbWorker.step, polling, (healthy.steps first input turn).ok, if_true]
    exact Bool.false_ne_true
  have holdsAgain : (thread.state second).worker.control.atPoll = true := by
    rw [pollingAgain]
    rfl
  rcases @exists_start (fun moment => (thread.state moment).worker.control.atPoll = true)
    _ _ after past holdsAgain with ⟨later, since, not, holds⟩
  refine ⟨later, by omega, ?_⟩
  cases turn : thread.taken later with
  | none =>
      rw [thread.others turn] at holds
      exact absurd holds not
  | some input =>
      rw [thread.own turn] at holds
      exact DbWorker.drained_of_atPoll (healthy.steps later input turn)
        (by simpa using not) holds

/-! ## Endless runs of the network -/

structure EndlessNetwork (count : Nat) where
  servers : Fin count → RelayServer
  players : List PlayerRow
  inputs : Nat → NetworkInput count

namespace EndlessNetwork

variable {count : Nat} (run : EndlessNetwork count)

def network : Nat → RelayNetwork count :=
  Execution.stateAt (RelayNetwork.step run.servers) (.initial run.servers run.players) run.inputs

def world (moment : Nat) (server : Fin count) : World := (run.network moment).world server

theorem network_eq_run (moment : Nat) :
    run.network moment =
      RelayNetwork.run run.servers run.players ((List.range moment).map run.inputs) :=
  Execution.stateAt_eq_run _ _ _ moment

theorem world_succ_self (moment : Nat) :
    run.world (moment + 1) (run.inputs moment).server =
      RelayNetwork.stepped run.servers (run.network moment) (run.inputs moment) :=
  RelayNetwork.world_step_self

theorem world_succ_other {moment : Nat} {server : Fin count}
    (apart : server ≠ (run.inputs moment).server) :
    run.world (moment + 1) server =
      { run.world moment server with
        database :=
          (RelayNetwork.stepped run.servers (run.network moment) (run.inputs moment)).database } :=
  RelayNetwork.world_step_other apart

def taken (server : Fin count) (moment : Nat) : Option WorkerInput :=
  if (run.inputs moment).server = server then EndlessRun.workerInput? (run.inputs moment).input
  else none

theorem taken_eq_some {server : Fin count} {moment : Nat} {input : WorkerInput} :
    run.taken server moment = some input ↔
      (run.inputs moment).server = server ∧ (run.inputs moment).input = .worker input := by
  unfold taken
  split
  · rename_i own
    rw [EndlessRun.workerInput?_eq_some, and_iff_right own]
  · rename_i other
    exact iff_of_false nofun fun given => other given.1

/-- What the server of an input makes of it, apart from the tables. -/
theorem worker_succ_self (moment : Nat) :
    (run.world (moment + 1) (run.inputs moment).server).worker =
      ((run.world moment (run.inputs moment).server).step
        (run.servers (run.inputs moment).server).engine
        (run.servers (run.inputs moment).server).config (run.inputs moment).input).worker := by
  rw [run.world_succ_self, RelayNetwork.stepped_eq]
  rfl

theorem grows_succ (moment : Nat) :
    (run.network moment).shared.Grows (run.network (moment + 1)).shared :=
  RelayNetwork.grows_stepped run.servers (run.network moment) (run.inputs moment)

theorem cursorInvariant (server : Fin count) (moment : Nat) :
    CursorInvariant (run.servers server).config (run.world moment server).worker
      (run.network moment).shared := by
  have invariant := RelayNetwork.cursorInvariant run.servers run.players
    ((List.range moment).map run.inputs) server
  rw [← network_eq_run] at invariant
  exact invariant

def thread (server : Fin count) : PolledThread (run.servers server).config where
  state moment := (run.world moment server).dbState
  taken := run.taken server
  own {moment input} turn := by
    rcases run.taken_eq_some.mp turn with ⟨rfl, taken⟩
    change (run.world (moment + 1) _).worker = _
    rw [run.worker_succ_self, taken]
    rfl
  others {moment} turn := by
    change (run.world (moment + 1) server).worker = (run.world moment server).worker
    by_cases own : (run.inputs moment).server = server
    · subst own
      rw [run.worker_succ_self]
      cases taken : (run.inputs moment).input with
      | worker input =>
          rw [run.taken_eq_some.mpr ⟨rfl, taken⟩] at turn
          cases turn
      | _ => rfl
    · rw [run.world_succ_other (Ne.symm own)]
  messages moment := (run.grows_succ moment).messages.subset
  invariant := run.cursorInvariant server
  chosen := nofun
  selects := .inr rfl

/-! ## From the relay to the table -/

theorem tracked (server : Fin count) (moment : Nat) :
    OutboundWorld.Tracked (run.world moment server) := by
  have tracked := RelayNetwork.tracked_run run.servers run.players
    ((List.range moment).map run.inputs) server
  rw [← network_eq_run] at tracked
  exact tracked

def stored (server : Fin count) (moment : Nat) : List (OutboundMessage × Row) :=
  storedMessages (run.world moment server).worker.journal

def handedOut (server : Fin count) (moment : Nat) : List OutboundMessage :=
  pushedMessages (run.world moment server).mod.journal

theorem handedOut_succ (server : Fin count) (moment : Nat) :
    (run.handedOut server moment).IsPrefix (run.handedOut server (moment + 1)) := by
  unfold handedOut
  by_cases own : (run.inputs moment).server = server
  · subst own
    rw [run.world_succ_self, RelayNetwork.stepped_eq]
    exact World.pushed_extends_step _ _ (run.world moment (run.inputs moment).server) _
  · exact ⟨[], by rw [run.world_succ_other (Ne.symm own), List.append_nil]⟩

theorem handedOut_mono (server : Fin count) {earlier later : Nat} (order : earlier ≤ later) :
    (run.handedOut server earlier).IsPrefix (run.handedOut server later) := by
  induction order with
  | refl => exact List.prefix_refl _
  | @step later order induction => exact induction.trans (run.handedOut_succ server later)

theorem stored_mono (server : Fin count) {earlier later : Nat} (order : earlier ≤ later) :
    (run.stored server earlier).IsPrefix (run.stored server later) := by
  induction order with
  | refl => exact List.prefix_refl _
  | @step later order induction =>
      refine induction.trans ?_
      unfold stored
      by_cases own : (run.inputs later).server = server
      · subst own
        rw [run.worker_succ_self]
        rcases World.journal_extends_step _ _ (run.world later (run.inputs later).server) _ with
          ⟨added, journal⟩
        rw [← journal, storedMessages_append]
        exact List.prefix_append _ _
      · exact ⟨[], by rw [run.world_succ_other (Ne.symm own), List.append_nil]⟩

/-- What a healthy server hands out is stored some day, or the queue counts it as dropped. -/
theorem eventually_stored (server : Fin count) (healthy : (run.thread server).Healthy)
    (moment : Nat) :
    ∃ later, moment ≤ later ∧ ∃ evicted : List OutboundMessage,
      (run.handedOut server moment).Subperm ((run.stored server later).map Prod.fst ++ evicted) ∧
      (run.world later server).mod.outbound.drops = evicted.length := by
  rcases healthy.drains moment with ⟨later, order, control, empty⟩
  rcases run.tracked server later with ⟨past, outbound, follows, sound, -⟩
  refine ⟨later, order, outbound.evicted, ?_, ?_⟩
  · have located := sound.located
    have free : outbound.state.worker.control.heldMessage = none := by
      rw [follows.state]
      exact congrArg Control.heldMessage control
    have nothing : outbound.state.outbound.items = [] := by
      rw [follows.state]
      exact empty
    rw [← sound.pushed, follows.pushed, free, nothing, Option.toList_none, List.append_nil,
      List.append_nil, follows.state] at located
    exact (run.handedOut_mono server order).sublist.subperm.trans located.subperm
  · have drops := sound.drops
    rw [follows.state] at drops
    exact drops

/-! ## From the table to the inbound queue -/

theorem nextId_pos (moment : Nat) : 0 < (run.network moment).shared.nextId := by
  induction moment with
  | zero => exact Nat.one_pos
  | succ moment induction => exact Nat.lt_of_lt_of_le induction (run.grows_succ moment).nextId

theorem maxId_lt_nextId (server : Fin count) (moment : Nat) :
    (run.network moment).shared.maxId < (run.network moment).shared.nextId := by
  have fresh := (run.cursorInvariant server moment).wellFormed.fresh
  have bounded : (run.network moment).shared.maxId ≤ (run.network moment).shared.nextId - 1 := by
    refine List.max_le_of_forall_le _ _ fun id member => ?_
    rcases List.mem_map.mp member with ⟨row, stored, rfl⟩
    exact Nat.le_sub_one_of_lt (fresh row (List.mem_append_left _ stored))
  have positive := run.nextId_pos moment
  omega

theorem cursorSeen (server : Fin count) (moment : Nat) :
    CursorSeen (run.world moment server).worker (run.network moment).shared := by
  have seen := @RelayNetwork.cursorSeen _ run.servers run.players
    ((List.range moment).map run.inputs) server
  rw [← network_eq_run] at seen
  exact seen

theorem selected_lt_nextId (server : Fin count) (moment : Nat) :
    (run.world moment server).worker.selected < (run.network moment).shared.nextId := by
  have invariant := run.cursorInvariant server moment
  have seen := run.cursorSeen server moment
  apply Worker.selected_lt
  · refine Nat.lt_of_le_of_lt ?_ (run.maxId_lt_nextId server moment)
    unfold Worker.horizon
    split
    · rename_i id batch control
      exact seen.persists id (.inr ⟨batch, control⟩)
    · cases cursor : (run.world moment server).worker.cursorId with
      | none => exact Nat.zero_le _
      | some id => exact seen.cursor id cursor
  · intro row atHand
    exact invariant.wellFormed.fresh row (List.mem_append_left _ (invariant.rows row atHand).2.1)

/-- The `MAX(id)` that a healthy server read is below the next id. -/
theorem lastMaxId_lt_nextId {server : Fin count} (healthy : (run.thread server).Healthy)
    {moment maxId : Nat} (read : lastMaxId (run.world moment server).worker.journal = some maxId) :
    maxId < (run.network moment).shared.nextId := by
  have invariant := run.cursorInvariant server moment
  rcases healthy.cursorChosen moment (Option.isSome_of_eq_some read) with ready | ⟨other, arming⟩
  · rcases (invariant.ready ready).1 with ⟨chosen, last, order⟩
    rw [Option.some.inj (read.symm.trans last)]
    exact (order.trans (Nat.le_max_left _ _)).trans_lt (run.selected_lt_nextId server moment)
  · rw [← Option.some.inj ((invariant.arming other arming).1.symm.trans read)]
    exact ((run.cursorSeen server moment).persists other (.inl arming)).trans_lt
      (run.maxId_lt_nextId server moment)

theorem nextId_mono {earlier later : Nat} (order : earlier ≤ later) :
    (run.network earlier).shared.nextId ≤ (run.network later).shared.nextId := by
  induction order with
  | refl => exact Nat.le_refl _
  | @step later order induction => exact induction.trans (run.grows_succ later).nextId

/-- What a server stores at a moment gets the next id. -/
theorem stored_succ {server : Fin count} {moment : Nat} {entry : OutboundMessage × Row}
    (before : entry ∉ run.stored server moment) (after : entry ∈ run.stored server (moment + 1)) :
    (run.inputs moment).server = server ∧ entry.2.id = (run.network moment).shared.nextId ∧
      entry.2 = { DbWorker.outboundRow (run.servers server).config entry.1 with
        id := entry.2.id } := by
  unfold stored at before after
  by_cases own : (run.inputs moment).server = server
  · subst own
    refine ⟨rfl, ?_⟩
    rw [run.worker_succ_self] at after
    cases taken : (run.inputs moment).input with
    | worker input =>
        rw [taken] at after
        exact DbWorker.stored_step before after
    | _ =>
        rw [taken] at after
        exact absurd after before
  · rw [run.world_succ_other (Ne.symm own)] at after
    exact absurd after before

/-- The step of this moment makes the row visible. -/
structure Commits (row : Row) (moment : Nat) : Prop where
  before : row ∉ (run.network moment).shared.messages
  after : row ∈ (run.network (moment + 1)).shared.messages

/-- From some time on the id stands exactly once among the ids a server has pushed. -/
def DeliversOnce (server : Fin count) (id : Nat) : Prop :=
  ∃ time, ∀ later, time ≤ later →
    (pushedIds (run.world later server).worker.journal).count id = 1

section Row

variable {run} {sender receiver : Fin count} {start maxId : Nat}
  {entry : OutboundMessage × Row}

theorem exists_storing (before : entry ∉ run.stored sender start) {moment : Nat}
    (stored : entry ∈ run.stored sender moment) :
    ∃ storing, start ≤ storing ∧ entry ∉ run.stored sender storing ∧
      entry ∈ run.stored sender (storing + 1) := by
  have late : start ≤ moment := by
    by_contra early
    exact before ((run.stored_mono sender (Nat.le_of_not_le early)).subset stored)
  exact @exists_start (fun moment => entry ∈ run.stored sender moment) _ _ late before stored

theorem taken_of_commits {row : Row} {moment : Nat} (commits : run.Commits row moment)
    (foreign : row.origin ≠ some (run.servers receiver).config.serverOrigin) :
    run.taken receiver moment = none := by
  cases turn : run.taken receiver moment with
  | none => rfl
  | some input =>
      rcases run.taken_eq_some.mp turn with ⟨rfl, taken⟩
      have after := commits.after
      change row ∈ (RelayNetwork.stepped run.servers (run.network moment)
        (run.inputs moment)).database.messages at after
      rw [RelayNetwork.stepped, taken] at after
      exact absurd ((DbWorker.own_row_tables _ _ _ _ after).resolve_left commits.before) foreign

/-- The commit of a row that a server stores after a healthy one with another origin has read
its `MAX(id)`. -/
theorem commits_thread
    (foreign : (run.servers sender).config.serverOrigin ≠
      (run.servers receiver).config.serverOrigin)
    (healthy : (run.thread receiver).Healthy)
    (read : lastMaxId (run.world start receiver).worker.journal = some maxId)
    (before : entry ∉ run.stored sender start) {sent : Nat}
    (stored : entry ∈ run.stored sender sent) {moment : Nat}
    (commits : run.Commits entry.2 moment) :
    (run.thread receiver).Commits entry.2 moment := by
  rcases exists_storing before stored with ⟨storing, since, notYet, done⟩
  rcases run.stored_succ notYet done with ⟨-, id, row⟩
  have apart : entry.2.origin ≠ some (run.servers receiver).config.serverOrigin := by
    rw [row]
    exact fun same => foreign (Option.some.inj same)
  refine ⟨taken_of_commits commits apart, fun other member same => ?_, commits.after, ?_,
    start, maxId, read, ?_⟩
  · have unique := (run.cursorInvariant receiver (moment + 1)).wellFormed.unique
    rw [List.map_append] at unique
    have stays := (run.grows_succ moment).messages.subset member
    have equal := List.inj_on_of_nodup_map unique.of_append_left stays commits.after same
    exact commits.before (equal ▸ member)
  · rw [row]
    simpa [Database.otherOrigin, DbWorker.outboundRow] using foreign
  · rw [id]
    exact (run.lastMaxId_lt_nextId healthy read).trans_le (run.nextId_mono since)

theorem selected_lt_of_stored (receiver : Fin count) {moment : Nat}
    (before : entry ∉ run.stored sender moment) {sent : Nat}
    (stored : entry ∈ run.stored sender sent) :
    (run.world moment receiver).worker.selected < entry.2.id := by
  rcases exists_storing before stored with ⟨storing, since, notYet, done⟩
  rw [(run.stored_succ notYet done).2.1]
  exact (run.selected_lt_nextId receiver moment).trans_le (run.nextId_mono since)

/-- What becomes of a row that is committed. -/
theorem delivers_of_commits
    (foreign : (run.servers sender).config.serverOrigin ≠
      (run.servers receiver).config.serverOrigin)
    (healthy : (run.thread receiver).Healthy)
    (batch : 1 ≤ (run.servers receiver).config.maxBatch)
    (read : lastMaxId (run.world start receiver).worker.journal = some maxId)
    (before : entry ∉ run.stored sender start) {sent : Nat}
    (stored : entry ∈ run.stored sender sent) {commit : Nat}
    (commits : run.Commits entry.2 commit) :
    ((run.world commit receiver).worker.selected < entry.2.id →
        run.DeliversOnce receiver entry.2.id) ∧
      (entry.2.id ≤ (run.world commit receiver).worker.selected →
        ∀ later, entry.2.id ∉ pushedIds (run.world later receiver).worker.journal) ∧
      (entry ∉ run.stored sender commit →
        (run.world commit receiver).worker.selected < entry.2.id) := by
  have thread := commits_thread foreign healthy read before stored commits
  exact ⟨thread.deliversOnce healthy batch, thread.not_pushed healthy,
    fun notYet => selected_lt_of_stored receiver notYet stored⟩

end Row

/-- Every line the relay of a healthy server hands out is counted as dropped by its full
queue or stored. What is stored since a healthy server with another origin has read its
`MAX(id)` is pushed there exactly once when no larger id was selected there before its commit,
and otherwise never; none was if the INSERT commits at once. -/
theorem lines_delivered (sender receiver : Fin count)
    (foreign : (run.servers sender).config.serverOrigin ≠
      (run.servers receiver).config.serverOrigin)
    (sends : (run.thread sender).Healthy) (receives : (run.thread receiver).Healthy)
    (batch : 1 ≤ (run.servers receiver).config.maxBatch) (start maxId : Nat)
    (read : lastMaxId (run.world start receiver).worker.journal = some maxId) (moment : Nat) :
    ∃ sent, moment ≤ sent ∧ ∃ evicted : List OutboundMessage,
      (run.handedOut sender moment).Subperm ((run.stored sender sent).map Prod.fst ++ evicted) ∧
      (run.world sent sender).mod.outbound.drops = evicted.length ∧
      ∀ entry ∈ run.stored sender sent, entry ∉ run.stored sender start →
        ∀ commit, run.Commits entry.2 commit →
          let selected := (run.world commit receiver).worker.selected
          (selected < entry.2.id → run.DeliversOnce receiver entry.2.id) ∧
          (entry.2.id ≤ selected →
            ∀ later, entry.2.id ∉ pushedIds (run.world later receiver).worker.journal) ∧
          (entry ∉ run.stored sender commit → selected < entry.2.id) := by
  rcases run.eventually_stored sender sends moment with ⟨sent, order, evicted, located, drops⟩
  exact ⟨sent, order, evicted, located, drops, fun entry stored since commit commits =>
    delivers_of_commits foreign receives batch read since stored commits⟩

end EndlessNetwork

/-! ## Two servers at rest -/

/-- The thread was at this point of a round with nothing to do, and what it remembers of
the clock is at least a second old. -/
inductive RestControl (time : Nanoseconds) : Control → Prop
  | loopHead : RestControl time .loopHead
  | drainLinks : RestControl time .drainLinks
  | drainOutbound : RestControl time .drainOutbound
  | pollCheck : RestControl time .pollCheck
  | selecting (now : Nanoseconds) (earlier : now + nanosecondsPerSecond ≤ time) :
      RestControl time (.selecting now)
  | fetching (buffers : RowBuffers) (now : Nanoseconds)
      (earlier : now + nanosecondsPerSecond ≤ time) :
      RestControl time (.fetching { rows := [], buffers, now })
  | idle : RestControl time .idle

structure Rests (config : Config) (state : DbState) (time : Nanoseconds) : Prop where
  point : RestControl time state.worker.control
  connected : (state.worker.conn.handle.isSome && state.worker.connected) = true
  ready : state.worker.cursorReady = true
  noLinks : state.linkJobs.items = []
  noOutbound : state.outbound.items = []
  nothingNew : state.database.poll (state.worker.cursorId.getD 0) config.serverOrigin
    config.maxBatch.toNat = []
  polled : state.worker.lastPoll + nanosecondsPerSecond ≤ time

def Control.untilPoll : Control → Nat
  | .selecting _ => 0
  | .pollCheck => 1
  | .drainOutbound => 2
  | .drainLinks => 3
  | .loopHead => 4
  | .idle => 5
  | _ => 6

namespace Rests

variable {config : Config} {state : DbState} {time : Nanoseconds}

theorem later (rests : Rests config state time) {after : Nanoseconds} (order : time ≤ after) :
    Rests config state after := by
  refine { rests with point := ?_, polled := rests.polled.trans order }
  have point := rests.point
  generalize state.worker.control = control at point ⊢
  cases point with
  | selecting now earlier => exact .selecting now (earlier.trans order)
  | fetching buffers now earlier => exact .fetching buffers now (earlier.trans order)
  | loopHead => exact .loopHead
  | drainLinks => exact .drainLinks
  | drainOutbound => exact .drainOutbound
  | pollCheck => exact .pollCheck
  | idle => exact .idle

theorem goTo (rests : Rests config state time) {control : Control}
    (point : RestControl (time + nanosecondsPerSecond) control) :
    Rests config (DbWorker.goTo state control) (time + nanosecondsPerSecond) := by
  have order : time ≤ time + nanosecondsPerSecond := Int.le_add_of_nonneg_right (by decide)
  exact { rests.later order with point }

def Advances (config : Config) (state after : DbState) (time : Nanoseconds) : Prop :=
  Rests config after (time + nanosecondsPerSecond) ∧ after.database = state.database ∧
    ((∃ now, state.worker.control = .selecting now) ∨
      after.worker.control.untilPoll < state.worker.control.untilPoll)

theorem step (rests : Rests config state time) (interval : config.pollIntervalMs ≤ 1000) :
    Advances config state (DbWorker.step config state { now := time }) time := by
  have point := rests.point
  have order : time ≤ time + nanosecondsPerSecond := Int.le_add_of_nonneg_right (by decide)
  have further {control : Control} (point : RestControl (time + nanosecondsPerSecond) control)
      (closer : (∃ now, state.worker.control = .selecting now) ∨
        control.untilPoll < state.worker.control.untilPoll) :
      Advances config state (DbWorker.goTo state control) time :=
    ⟨rests.goTo point, rfl, closer⟩
  cases control : state.worker.control with
  | loopHead =>
      simp only [DbWorker.step, control, DbWorker.ensureConnected, rests.connected,
        DbWorker.afterConnect, rests.ready, if_true, Bool.false_eq_true, if_false]
      exact further .drainLinks (.inr (by rw [control]; decide))
  | drainLinks =>
      have noLinks : state.linkJobs.deque.items = [] := rests.noLinks
      simp only [DbWorker.step, control, BoundedQueue.tryPop, noLinks, Bool.false_eq_true, if_false]
      exact further .drainOutbound (.inr (by rw [control]; decide))
  | drainOutbound =>
      have noOutbound : state.outbound.deque.items = [] := rests.noOutbound
      simp only [DbWorker.step, control, BoundedQueue.tryPop, noOutbound, Bool.false_eq_true,
        if_false]
      exact further .pollCheck (.inr (by rw [control]; decide))
  | pollCheck =>
      have due : DbWorker.pollDue config state.worker time = true := by
        have waited : ∀ last : Int, last + 1000000000 ≤ time →
            config.pollIntervalMs * 1000000 ≤ time - last := by
          omega
        exact decide_eq_true (waited _ rests.polled)
      simp only [DbWorker.step, control, due, if_true]
      exact further (.selecting time (Int.le_refl _)) (.inr (by rw [control]; exact Nat.one_pos))
  | selecting now =>
      rw [control] at point
      cases point with
      | selecting _ earlier =>
          simp only [DbWorker.step, control, rests.nothingNew, if_true]
          refine ⟨?_, rfl, .inl ⟨now, control⟩⟩
          exact { rests.later order with point := .fetching {} now (earlier.trans order) }
  | fetching batch =>
      rw [control] at point
      cases point with
      | fetching buffers now earlier =>
          simp only [DbWorker.step, control, if_true]
          refine ⟨?_, rfl, .inr (by rw [control]; exact Nat.lt_succ_self 5)⟩
          exact { rests.later order with point := .idle, polled := earlier.trans order }
  | idle =>
      simp only [DbWorker.step, control, Bool.false_eq_true, if_false]
      exact further .loopHead (.inr (by rw [control]; decide))
  | _ =>
      rw [control] at point
      cases point

end Rests

/-- A thread that rests from some moment on polls again and again. -/
theorem PolledThread.polls_of_rests {config : Config} {thread : PolledThread config}
    (interval : config.pollIntervalMs ≤ 1000) {start : Nat} {clock : Nat → Nanoseconds}
    (rests : ∀ moment, start ≤ moment → Rests config (thread.state moment) (clock moment))
    (ticks : ∀ moment, start ≤ moment → ∀ input ∈ thread.taken moment,
      input = { now := clock moment })
    (turns : ∀ moment, ∃ later, moment ≤ later ∧ ∃ input, thread.taken later = some input)
    (moment : Nat) :
    ∃ later, moment ≤ later ∧ (∃ input, thread.taken later = some input) ∧
      ∃ now, (thread.state later).worker.control = .selecting now := by
  -- At a turn the thread polls, or comes closer to it.
  have turn : ∀ moment, start ≤ moment → (∃ input, thread.taken moment = some input) →
      ((∃ input, thread.taken moment = some input) ∧
        ∃ now, (thread.state moment).worker.control = .selecting now) ∨
      (thread.state (moment + 1)).worker.control.untilPoll <
        (thread.state moment).worker.control.untilPoll := by
    intro moment after isTurn
    rcases isTurn with ⟨input, taken⟩
    rw [thread.own taken, ticks moment after input taken]
    rcases ((rests moment after).step interval).2.2 with polling | closer
    · exact .inl ⟨⟨input, taken⟩, polling⟩
    · exact .inr closer
  have stays : ∀ moment, start ≤ moment →
      ((∃ input, thread.taken moment = some input) ∧
        ∃ now, (thread.state moment).worker.control = .selecting now) ∨
      (thread.state (moment + 1)).worker.control.untilPoll ≤
        (thread.state moment).worker.control.untilPoll := by
    intro moment after
    cases taken : thread.taken moment with
    | none =>
        rw [thread.others taken]
        exact .inr (Nat.le_refl _)
    | some input =>
        rw [← taken]
        exact (turn moment after ⟨input, taken⟩).imp id Nat.le_of_lt
  rcases Execution.eventually_of_recurring
    (fun moment => (thread.state moment).worker.control.untilPoll) turns
    (fun moment' after => stays moment' (le_of_max_le_left after))
    (fun moment' after => turn moment' (le_of_max_le_left after)) with ⟨later, after, polls⟩
  exact ⟨later, le_of_max_le_right after, polls⟩

theorem EndlessNetwork.rests_worker {count : Nat} (run : EndlessNetwork count) {moment : Nat}
    {turn : Fin count} {time : Nanoseconds}
    (taken : run.inputs moment = .plain turn (.worker { now := time }))
    (interval : (run.servers turn).config.pollIntervalMs ≤ 1000)
    (rests : ∀ server, Rests (run.servers server).config (run.world moment server).dbState time)
    (server : Fin count) :
    Rests (run.servers server).config (run.world (moment + 1) server).dbState
      (time + nanosecondsPerSecond) := by
  rcases (rests turn).step interval with ⟨after, database, -⟩
  by_cases own : server = turn
  · subst own
    have stepped := run.world_succ_self moment
    rw [taken] at stepped
    rw [stepped]
    exact after
  · have apart : server ≠ (run.inputs moment).server := by
      rw [taken]
      exact own
    have same : (RelayNetwork.stepped run.servers (run.network moment)
        (run.inputs moment)).database = (run.network moment).shared := by
      rw [taken]
      exact database
    have stepped := run.world_succ_other apart
    rw [same] at stepped
    rw [stepped]
    exact (rests server).later (Int.le_add_of_nonneg_right (by decide))

def greetingInputs (moment : Nat) : NetworkInput 2 :=
  if moment = 6 then .plain firstServer (.hook (typed (ascii "hello")))
  else if moment = 8 then .plain firstServer .update
  else if moment % 2 = 0 then .plain firstServer (.worker (tick moment))
  else .plain secondServer (.worker (tick moment))

def greetingRun : EndlessNetwork 2 where
  servers := RelayNetwork.twoServers
  players := []
  inputs := greetingInputs

theorem inputs_greetingRun {moment : Nat} (late : 37 ≤ moment) :
    ∃ server, greetingRun.inputs moment = .plain server (.worker (tick moment)) := by
  change ∃ server, greetingInputs moment = _
  unfold greetingInputs
  rw [if_neg (by omega), if_neg (by omega)]
  split
  · exact ⟨firstServer, rfl⟩
  · exact ⟨secondServer, rfl⟩

theorem now_tick_succ (moment : Nat) :
    (tick (moment + 1)).now = (tick moment).now + nanosecondsPerSecond := by
  change ((moment + 1 : Nat) : Int) * 1000000000 = (moment : Int) * 1000000000 + 1000000000
  omega

theorem rests_greetingRun {moment : Nat} (late : 37 ≤ moment) (server : Fin 2) :
    Rests (RelayNetwork.twoServers server).config (greetingRun.world moment server).dbState
      (tick moment).now := by
  induction late generalizing server with
  | refl =>
      have idle : (greetingRun.world 37 firstServer).worker.control = .idle := by decide +kernel
      have loopHead : (greetingRun.world 37 secondServer).worker.control = .loopHead := by decide +kernel
      rcases RelayNetwork.eq_first_or_second server with rfl | rfl
      · refine ⟨?_, by decide +kernel, by decide +kernel, by decide +kernel, by decide +kernel,
          by decide +kernel, by decide +kernel⟩
        rw [World.dbState, idle]
        exact .idle
      · refine ⟨?_, by decide +kernel, by decide +kernel, by decide +kernel, by decide +kernel,
          by decide +kernel, by decide +kernel⟩
        rw [World.dbState, loopHead]
        exact .loopHead
  | @step moment late induction =>
      rcases inputs_greetingRun late with ⟨turn, taken⟩
      rw [now_tick_succ]
      exact greetingRun.rests_worker taken (by change (750 : Int) ≤ 1000; decide) induction server

theorem healthy_greetingRun (server : Fin 2) : (greetingRun.thread server).Healthy where
  steps moment input turn := by
    have taken : (greetingInputs moment).input = .worker input :=
      (greetingRun.taken_eq_some.mp turn).2
    unfold greetingInputs at taken
    repeat' split at taken
    all_goals cases taken
    all_goals exact ⟨rfl, rfl, rfl⟩
  polls := by
    refine PolledThread.polls_of_rests (by change (750 : Int) ≤ 1000; decide)
      (fun moment late => rests_greetingRun late server) (fun moment late input turn => ?_)
      fun moment => ?_
    · have taken := (greetingRun.taken_eq_some.mp turn).2
      rcases inputs_greetingRun late with ⟨other, given⟩
      rw [given] at taken
      cases taken
      rfl
    · refine ⟨2 * (moment + 37) + server, by omega, tick (2 * (moment + 37) + server), ?_⟩
      have taken : greetingRun.inputs (2 * (moment + 37) + server) =
          .plain server (.worker (tick (2 * (moment + 37) + server))) := by
        change greetingInputs _ = _
        unfold greetingInputs
        rw [if_neg (by omega), if_neg (by omega)]
        rcases RelayNetwork.eq_first_or_second server with rfl | rfl
        · exact if_pos (by simp [firstServer])
        · exact if_neg (by simp [secondServer])
      apply greetingRun.taken_eq_some.mpr
      rw [taken]
      exact ⟨rfl, rfl⟩

theorem lines_delivered_greeting :
    ((greetingRun.handedOut firstServer 9).map (·.message) = [ascii "hello"] ∧
      (greetingRun.network 14).shared.messages = [] ∧
      (greetingRun.network 15).shared.messages.map (·.message) = [some (ascii "hello")]) ∧
    ∃ sent, 9 ≤ sent ∧ ∃ evicted : List OutboundMessage,
      (greetingRun.handedOut firstServer 9).Subperm
        ((greetingRun.stored firstServer sent).map Prod.fst ++ evicted) ∧
      (greetingRun.world sent firstServer).mod.outbound.drops = evicted.length ∧
      ∀ entry ∈ greetingRun.stored firstServer sent, entry ∉ greetingRun.stored firstServer 6 →
        ∀ commit, greetingRun.Commits entry.2 commit →
          let selected := (greetingRun.world commit secondServer).worker.selected
          (selected < entry.2.id → greetingRun.DeliversOnce secondServer entry.2.id) ∧
          (entry.2.id ≤ selected → ∀ later,
            entry.2.id ∉ pushedIds (greetingRun.world later secondServer).worker.journal) ∧
          (entry ∉ greetingRun.stored firstServer commit → selected < entry.2.id) :=
  ⟨⟨by decide +kernel, by decide +kernel, by decide +kernel⟩,
    greetingRun.lines_delivered firstServer secondServer (by decide) (healthy_greetingRun firstServer)
    (healthy_greetingRun secondServer) (by decide) 6 0 (by decide +kernel) 9⟩

end PalCrosschat
