import PalCrosschat.RelayNetwork

/-! # The persisted cursors

`crosschat_cursors` has one row for each consumer. As long as no two servers share an
origin, the row of a server shows the cursor of its thread whenever the thread polls, and
neither reconnects, other writers nor UPSERTs whose replies are lost ever move it back. -/

namespace PalCrosschat

open Bytes (ascii)

/-! ## What a step does to the cursors -/

namespace DbWorker

section Links

variable (state : DbState) (job : LinkJob) (fault : LinkFault)

structure KeepsCursors (state after : DbState) : Prop where
  cursors : after.database.cursors = state.database.cursors
  cursorId : after.worker.cursorId = state.worker.cursorId

theorem keepsCursors_beginLink : KeepsCursors state (beginLink state job) := by
  unfold beginLink
  split <;> exact ⟨rfl, rfl⟩

theorem keepsCursors_linkConflict : KeepsCursors state (linkConflict state job fault) := by
  unfold linkConflict
  split
  · exact ⟨rfl, rfl⟩
  · split <;> exact ⟨rfl, rfl⟩

theorem keepsCursors_linkLookup : KeepsCursors state (linkLookup state job fault) := by
  unfold linkLookup
  split
  · exact ⟨rfl, rfl⟩
  · split <;> exact ⟨rfl, rfl⟩

theorem keepsCursors_linkComplete : KeepsCursors state (linkComplete state job fault) := by
  unfold linkComplete
  split
  · exact ⟨rfl, rfl⟩
  · dsimp only
    split <;> exact ⟨rfl, rfl⟩

end Links

theorem keepsCursors_ensureConnected (state : DbState) (outcome : ConnectOutcome) :
    KeepsCursors state (ensureConnected state outcome) := by
  unfold ensureConnected
  split
  · exact ⟨rfl, rfl⟩
  · cases outcome <;> exact ⟨rfl, rfl⟩

def Persists (control : Control) (id : Nat) : Prop :=
  control = .upsertCursor id ∨ ∃ batch, control = .updatingCursor id batch

theorem keepsCursors_step (config : Config) (state : DbState) (input : WorkerInput)
    (free : ∀ id, ¬Persists state.worker.control id) :
    KeepsCursors state (step config state input) := by
  cases control : state.worker.control with
  | loopHead =>
      simp only [step, control]
      split
      · exact ⟨rfl, rfl⟩
      · exact keepsCursors_ensureConnected state _
  | upsertCursor maxId => exact absurd (.inl control) (free maxId)
  | updatingCursor id batch => exact absurd (.inr ⟨batch, control⟩) (free id)
  | drainLinks =>
      simp only [step, control]
      split
      · exact ⟨rfl, rfl⟩
      · split
        · exact ⟨rfl, rfl⟩
        · rename_i job linkJobs popped
          have begun := keepsCursors_beginLink { state with linkJobs } job
          exact ⟨begun.cursors, begun.cursorId⟩
  | linkConflict job =>
      simp only [step, control]
      exact keepsCursors_linkConflict state job _
  | linkLookup job =>
      simp only [step, control]
      exact keepsCursors_linkLookup state job _
  | linkComplete job =>
      simp only [step, control]
      exact keepsCursors_linkComplete state job _
  | drainOutbound =>
      simp only [step, control]
      split
      · exact ⟨rfl, rfl⟩
      · split <;> exact ⟨rfl, rfl⟩
  | fetching batch =>
      simp only [step, control]
      split
      · split <;> exact ⟨rfl, rfl⟩
      · exact ⟨rfl, rfl⟩
  | stopped =>
      simp only [step, control]
      exact ⟨rfl, rfl⟩
  | _ =>
      simp only [step, control]
      split <;> exact ⟨rfl, rfl⟩

/-- An UPSERT moves the cursor and the row, or is reported as failed. -/
theorem step_persists (config : Config) {state : DbState} {id : Nat}
    (persists : Persists state.worker.control id) (input : WorkerInput) :
    (input.ok = true ∧
        (step config state input).database =
          state.database.upsertCursor config.serverOrigin id ∧
        (step config state input).worker.cursorId = some id ∧
        ∀ other, ¬Persists (step config state input).worker.control other) ∨
      (input.ok = false ∧ step config state input = markFailure state) := by
  cases ok : input.ok with
  | true =>
      left
      rcases persists with control | ⟨batch, control⟩
      · simp only [step, control, ok, if_true]
        exact ⟨trivial, rfl, rfl, by simp [Persists, goTo]⟩
      · simp only [step, control, ok, if_true]
        exact ⟨trivial, rfl, rfl, by simp [Persists, goTo]⟩
  | false =>
      right
      rcases persists with control | ⟨batch, control⟩
      · simp [step, control, ok]
      · simp [step, control, ok]

inductive CursorMove (config : Config) (state : DbState) (after : Worker)
    (cursors : Bytes → Option Nat) : Prop
  | kept (same : cursors = state.database.cursors)
      (cursorId : after.cursorId = state.worker.cursorId)
      (ready : after.cursorReady = true → state.worker.cursorReady = true)
  | persisted (id : Nat) (persists : Persists state.worker.control id)
      (row : cursors = (state.database.upsertCursor config.serverOrigin id).cursors)
      (settled : ∀ other, ¬Persists after.control other)
      (told : after.cursorId = some id ∨
        after.cursorId = state.worker.cursorId ∧ after.cursorReady = false)

theorem Move.ready {config : Config} {state after : DbState} (moved : Move config state after)
    (ready : after.worker.cursorReady = true) :
    state.worker.cursorReady = true ∨ ∃ maxId, state.worker.control = .upsertCursor maxId := by
  cases moved with
  | quiet quiet => exact .inl (quiet.ready ready).1
  | armCursor maxId control => exact .inr ⟨maxId, control⟩
  | requeue item control => cases ready
  | _ => exact .inl ready

theorem cursors_tables (config : Config) (state : DbState) (input : WorkerInput) (fate : Fate) :
    (tables config state input fate).cursors =
      (step config state (if fate.replyLost then input.succeeding else input)).database.cursors := by
  unfold tables
  dsimp only
  split <;> rfl

theorem cursorMove (config : Config) (state : DbState) (input : WorkerInput) (fate : Fate) :
    CursorMove config state (step config state input).worker
      (tables config state input fate).cursors := by
  rw [cursors_tables]
  by_cases persists : ∃ id, Persists state.worker.control id
  · rcases persists with ⟨id, persists⟩
    rcases step_persists config persists input with
      ⟨ok, database, cursorId, settled⟩ | ⟨failed, after⟩
    · refine .persisted id persists ?_ settled (.inl cursorId)
      have effective : (if fate.replyLost then input.succeeding else input).ok = true := by
        split
        · rfl
        · exact ok
      rcases step_persists config persists (if fate.replyLost then input.succeeding else input)
        with ⟨-, moved, -⟩ | ⟨unsuccessful, -⟩
      · rw [moved]
      · rw [effective] at unsuccessful
        cases unsuccessful
    · rw [after]
      cases lost : fate.replyLost with
      | false =>
          simp only [Bool.false_eq_true, if_false, after]
          exact .kept rfl rfl fun ready => by cases ready
      | true =>
          rcases step_persists config persists input.succeeding with
            ⟨-, moved, -⟩ | ⟨unsuccessful, -⟩
          · simp only [if_true, moved]
            exact .persisted id persists rfl (by simp [Persists, markFailure, startBackoff, goTo])
              (.inr ⟨rfl, rfl⟩)
          · cases unsuccessful
  · have free : ∀ id, ¬Persists state.worker.control id := fun id found => persists ⟨id, found⟩
    refine .kept (keepsCursors_step config state _ free).cursors
      (keepsCursors_step config state input free).cursorId fun ready => ?_
    refine ((step_move config state input).ready ready).resolve_right fun arming => ?_
    rcases arming with ⟨maxId, control⟩
    exact free maxId (.inl control)

end DbWorker

theorem Database.Grows.maxId_le {before after : Database} (grows : before.Grows after) :
    before.maxId ≤ after.maxId := by
  rcases grows.messages with ⟨added, messages⟩
  have bounded : ∀ rows : List Row, (rows.map (·.id)).foldr max 0 ≤
      ((rows ++ added).map (·.id)).foldr max 0 := by
    intro rows
    induction rows with
    | nil => exact Nat.zero_le _
    | cons row rest induction => exact max_le_max (Nat.le_refl _) induction
  rw [maxId, maxId, ← messages]
  exact bounded before.messages

/-! ## The invariant -/

structure CursorSeen (worker : Worker) (database : Database) : Prop where
  cursor : ∀ id ∈ worker.cursorId, id ≤ database.maxId
  persists : ∀ id, DbWorker.Persists worker.control id → id ≤ database.maxId

def RowSeen (database : Database) (origin : Bytes) : Prop :=
  ∀ persisted ∈ database.cursors origin, persisted ≤ database.maxId

/-- The row of the thread shows its cursor while the cursor is ready. It is never behind the
cursor, and what the thread is about to persist is not behind the row. -/
structure CursorRow (config : Config) (worker : Worker) (database : Database) : Prop where
  ready : worker.cursorReady = true → database.cursors config.serverOrigin = worker.cursorId
  reached : ∀ id ∈ worker.cursorId,
    ∃ persisted ∈ database.cursors config.serverOrigin, id ≤ persisted
  ahead : ∀ id, DbWorker.Persists worker.control id →
    ∀ persisted ∈ database.cursors config.serverOrigin, persisted ≤ id

section Step

variable {config : Config} {state after : DbState} {id : Nat}

/-- The thread takes up the largest id, or that of a row it has fetched. -/
theorem DbWorker.Move.persists (moved : DbWorker.Move config state after)
    (persists : DbWorker.Persists after.worker.control id) :
    (state.worker.control = .readMaxId ∧ id = state.database.maxId) ∨
      ∃ batch row, state.worker.control = .fetching batch ∧
        row ∈ state.worker.control.rows ∧ id = row.id := by
  cases moved with
  | quiet quiet =>
      have free := quiet.holds
      rcases persists with arming | ⟨batch, advancing⟩
      · rw [arming] at free
        cases free
      · rw [advancing] at free
        cases free
  | readMaxId control =>
      rcases persists with arming | ⟨batch, advancing⟩
      · cases arming
        exact .inl ⟨control, rfl⟩
      · cases advancing
  | fetch batch row rest beyond control rows =>
      rcases persists with arming | ⟨other, advancing⟩
      · cases arming
      · cases advancing
        refine .inr ⟨batch, row, control, ?_, rfl⟩
        rw [control, Control.rows, rows]
        exact List.mem_cons_self
  | _ =>
      rcases persists with arming | ⟨other, advancing⟩
      · cases arming
      · cases advancing

theorem CursorSeen.share {worker : Worker} {before later : Database}
    (seen : CursorSeen worker before) (grows : before.Grows later) : CursorSeen worker later where
  cursor id member := (seen.cursor id member).trans grows.maxId_le
  persists id persists := (seen.persists id persists).trans grows.maxId_le

theorem CursorSeen.step (seen : CursorSeen state.worker state.database)
    (invariant : CursorInvariant config state.worker state.database) (input : WorkerInput) :
    CursorSeen (DbWorker.step config state input).worker state.database where
  cursor id member := by
    cases DbWorker.cursorMove config state input {} with
    | kept same cursorId ready => exact seen.cursor id (cursorId ▸ member)
    | persisted newer persists row settled told =>
        rcases told with cursorId | ⟨cursorId, -⟩
        · rw [cursorId] at member
          cases member
          exact seen.persists _ persists
        · exact seen.cursor id (cursorId ▸ member)
  persists id persists := by
    rcases (DbWorker.step_move config state input).persists persists with
      ⟨-, rfl⟩ | ⟨batch, row, -, atHand, rfl⟩
    · exact Nat.le_refl _
    · exact Database.id_le_maxId (invariant.rows row atHand).2.1

theorem CursorRow.share {worker : Worker} {before later : Database}
    (row : CursorRow config worker before)
    (same : later.cursors config.serverOrigin = before.cursors config.serverOrigin) :
    CursorRow config worker later := by
  constructor
  · rw [same]
    exact row.ready
  · rw [same]
    exact row.reached
  · rw [same]
    exact row.ahead

/-- The ids the thread takes up are not behind its row. -/
theorem CursorRow.ahead_move (row : CursorRow config state.worker state.database)
    (seen : RowSeen state.database config.serverOrigin)
    (invariant : CursorInvariant config state.worker state.database)
    (moved : DbWorker.Move config state after)
    (persists : DbWorker.Persists after.worker.control id) :
    ∀ persisted ∈ state.database.cursors config.serverOrigin, persisted ≤ id := by
  intro persisted member
  rcases moved.persists persists with ⟨-, rfl⟩ | ⟨batch, fetched, control, atHand, rfl⟩
  · exact seen persisted member
  · have ready := invariant.armed (by rw [control]; rfl)
    rw [row.ready ready] at member
    have newer := (invariant.rows fetched atHand).1
    rw [Worker.horizon, control] at newer
    dsimp only at newer
    rw [Option.mem_def.mp member] at newer
    exact Nat.le_of_lt newer

theorem CursorRow.step (row : CursorRow config state.worker state.database)
    (seen : RowSeen state.database config.serverOrigin)
    (invariant : CursorInvariant config state.worker state.database) (input : WorkerInput)
    (fate : Fate) :
    CursorRow config (DbWorker.step config state input).worker
      (DbWorker.tables config state input fate) := by
  have moved := DbWorker.step_move config state input
  cases DbWorker.cursorMove config state input fate with
  | kept same cursorId ready =>
      constructor
      · intro isReady
        rw [same, cursorId]
        exact row.ready (ready isReady)
      · rw [same, cursorId]
        exact row.reached
      · rw [same]
        exact fun id => row.ahead_move seen invariant moved
  | persisted id persists upserted settled told =>
      have shows : (DbWorker.tables config state input fate).cursors config.serverOrigin =
          some id := by
        rw [upserted]
        exact if_pos rfl
      refine ⟨fun isReady => ?_, fun old member => ⟨id, shows, ?_⟩,
        fun other persists => absurd persists (settled other)⟩
      · rcases told with cursorId | ⟨-, unready⟩
        · rw [shows, cursorId]
        · rw [unready] at isReady
          cases isReady
      · rcases told with cursorId | ⟨cursorId, -⟩
        · rw [cursorId] at member
          cases member
          exact Nat.le_refl _
        · rw [cursorId] at member
          rcases row.reached old member with ⟨between, persisted, order⟩
          exact order.trans (row.ahead id persists between persisted)

end Step

/-! ## Runs of the network -/

namespace RelayNetwork

variable {count : Nat} {servers : Fin count → RelayServer}

theorem not_persists_initial (startedAt : Nanoseconds) (id : Nat) :
    ¬DbWorker.Persists (Worker.initial startedAt).control id := by
  simp [DbWorker.Persists, Worker.initial]

/-- A step leaves the table of the cursors alone, or persists an id for its server. -/
theorem cursors_stepped (network : RelayNetwork count) (input : NetworkInput count) :
    (stepped servers network input).database.cursors = network.shared.cursors ∨
      ∃ id, DbWorker.Persists (network.world input.server).worker.control id ∧
        (stepped servers network input).database.cursors =
          (network.shared.upsertCursor (servers input.server).config.serverOrigin id).cursors := by
  rcases input with ⟨server, input, fate⟩
  cases input with
  | worker input =>
      cases DbWorker.cursorMove (servers server).config (network.world server).dbState input fate
        with
      | kept same => exact .inl same
      | persisted id persists row => exact .inr ⟨id, persists, row⟩
  | remote action => cases action <;> exact .inl rfl
  | _ => exact .inl rfl

theorem cursors_stepped_other (network : RelayNetwork count) (input : NetworkInput count)
    {origin : Bytes} (other : (servers input.server).config.serverOrigin ≠ origin) :
    (stepped servers network input).database.cursors origin = network.shared.cursors origin := by
  rcases cursors_stepped network input with same | ⟨id, -, row⟩
  · rw [same]
  · rw [row]
    exact if_neg (Ne.symm other)

theorem cursorSeen (players : List PlayerRow) (inputs : List (NetworkInput count))
    (server : Fin count) :
    CursorSeen ((run servers players inputs).world server).worker
      (run servers players inputs).shared := by
  refine run_each servers players (fun _ _ world => CursorSeen world.worker world.database)
    ?_ ?_ ?_ inputs server
  · exact fun server => ⟨nofun, fun id persists => absurd persists (not_persists_initial _ id)⟩
  · intro past input seen
    have grows := grows_stepped servers (run servers players past) input
    have invariant := cursorInvariant servers players past input.server
    rcases input with ⟨server, input, fate⟩
    cases input with
    | worker input =>
        exact (@CursorSeen.step _ ((run servers players past).world server).dbState (seen server)
          invariant input).share grows
    | _ => exact (seen server).share grows
  · intro past input other apart seen
    exact (seen other).share (grows_stepped servers _ input)

/-- No row of `crosschat_cursors` is ahead of the messages. -/
theorem rowSeen (players : List PlayerRow) (inputs : List (NetworkInput count)) (origin : Bytes) :
    RowSeen (run servers players inputs).shared origin := by
  induction inputs using List.reverseRecOn with
  | nil => exact fun id member => by cases member
  | append_singleton past input induction =>
      have after : (run servers players (past ++ [input])).shared =
          (stepped servers (run servers players past) input).database :=
        congrArg Interleaving.shared (Execution.run_snoc past input)
      intro id member
      rw [after] at member ⊢
      refine le_trans ?_ (grows_stepped servers (run servers players past) input).maxId_le
      rcases cursors_stepped (run servers players past) input with same | ⟨newer, persists, row⟩
      · rw [same] at member
        exact induction id member
      · rw [row] at member
        change id ∈ if origin = _ then some newer else _ at member
        split at member
        · cases member
          exact (cursorSeen players past input.server).persists _ persists
        · exact induction id member

variable {players : List PlayerRow} {past more : List (NetworkInput count)} {server : Fin count}

theorem parties_of_absent {network : RelayNetwork count} {inputs : List (NetworkInput count)}
    (absent : ∀ input ∈ inputs, input.server ≠ server) :
    (Execution.run (step servers) network inputs).parties server = network.parties server := by
  refine Execution.run_relation_of_mem
    (fun before after : RelayNetwork count => after.parties server = before.parties server)
    (fun _ => rfl) (fun early late => late.trans early) inputs fun before input member => ?_
  exact Interleaving.act_other (absent input member).symm _

theorem worker_of_absent (absent : ∀ input ∈ past, input.server ≠ server) :
    ((run servers players past).world server).worker = .initial (servers server).startedAt :=
  congrArg World.worker (parties_of_absent absent)

structure Alone (servers : Fin count → RelayServer) (server : Fin count)
    (before since : List (NetworkInput count)) : Prop where
  absent : ∀ input ∈ before, input.server ≠ server
  alone : ∀ input ∈ since, (servers input.server).config.serverOrigin =
    (servers server).config.serverOrigin → input.server = server

theorem cursorRow (alone : Alone servers server past more) :
    CursorRow (servers server).config ((run servers players (past ++ more)).world server).worker
      (run servers players (past ++ more)).shared := by
  induction more using List.reverseRecOn with
  | nil =>
      rw [List.append_nil, worker_of_absent alone.absent]
      exact {
        ready := nofun
        reached := nofun
        ahead := fun id persists => absurd persists (not_persists_initial _ id) }
  | append_singleton more input induction =>
      have row := induction ⟨alone.absent, fun other member =>
        alone.alone other (List.mem_append_left _ member)⟩
      rw [← List.append_assoc, run_snoc]
      by_cases own : input.server = server
      · subst own
        rw [world_step_self]
        have seen := @rowSeen _ servers players (past ++ more)
          (servers input.server).config.serverOrigin
        have invariant := cursorInvariant servers players (past ++ more) input.server
        rcases input with ⟨server, input, fate⟩
        cases input with
        | worker input =>
            exact @CursorRow.step _ ((run servers players (past ++ more)).world server).dbState
              row seen invariant input fate
        | remote action => cases action <;> exact row.share rfl
        | _ => exact row.share rfl
      · have apart : (servers input.server).config.serverOrigin ≠
            (servers server).config.serverOrigin := fun same =>
          own (alone.alone input (List.mem_append_right _ (List.mem_singleton_self _)) same)
        rw [world_step_other (Ne.symm own)]
        exact row.share (cursors_stepped_other (run servers players (past ++ more)) input apart)

/-- A step does not move the row of an origin back. -/
theorem cursor_step {origin : Bytes} {input : NetworkInput count}
    (alone : (servers input.server).config.serverOrigin = origin →
      ∃ before since, past = before ++ since ∧ Alone servers input.server before since)
    {id : Nat} (member : id ∈ (run servers players past).shared.cursors origin) :
    ∃ later ∈ (run servers players (past ++ [input])).shared.cursors origin, id ≤ later := by
  rw [run_snoc]
  change ∃ later ∈ (stepped servers (run servers players past) input).database.cursors origin, _
  by_cases own : (servers input.server).config.serverOrigin = origin
  · rcases alone own with ⟨before, since, rfl, sinceStart⟩
    subst own
    rcases cursors_stepped (run servers players (before ++ since)) input with
      same | ⟨newer, persists, row⟩
    · exact ⟨id, same ▸ member, Nat.le_refl _⟩
    · refine ⟨newer, by rw [row]; exact if_pos rfl, ?_⟩
      exact (cursorRow sinceStart).ahead newer persists id member
  · rw [cursors_stepped_other _ input own]
    exact ⟨id, member, Nat.le_refl _⟩

variable (servers)

/-- No two servers share an origin. -/
def DistinctOrigins : Prop :=
  Function.Injective fun server => (servers server).config.serverOrigin

variable {servers}

theorem DistinctOrigins.alone (distinct : DistinctOrigins servers) (server : Fin count)
    (past : List (NetworkInput count)) : Alone servers server [] past :=
  ⟨fun _ member => absurd member List.not_mem_nil, fun _ _ same => distinct same⟩

variable (servers)

def twoServers (server : Fin 2) : RelayServer where
  engine := quietEngine
  config := { serverOrigin := if server.val = 0 then ascii "pal-na" else ascii "pal-eu" }
  compile := literalRegex
  startedAt := 0

def firstServer : Fin 2 := ⟨0, Nat.two_pos⟩

def secondServer : Fin 2 := ⟨1, Nat.one_lt_two⟩

theorem eq_first_or_second (server : Fin 2) : server = firstServer ∨ server = secondServer := by
  revert server
  decide

theorem distinctOrigins_twoServers : DistinctOrigins twoServers := by
  intro first second same
  revert first second
  decide

/-- The first server persists the largest id of an empty table, but is not told so. It connects
again, and the second server starts. -/
def connecting : List (NetworkInput 2) :=
  [.plain firstServer (.worker {}), .plain firstServer (.worker {}),
    { server := firstServer, input := .worker { ok := false }, fate := { replyLost := true } }]

def reconnecting : List (NetworkInput 2) :=
  List.replicate 4 (.plain firstServer (.worker {})) ++ [.plain secondServer (.worker {})]

end RelayNetwork

end PalCrosschat
