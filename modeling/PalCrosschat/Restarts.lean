import PalCrosschat.CommitOrder
import PalCrosschat.PersistedCursors
import PalCrosschat.RelayProvenance

/-! # Restarts

A server whose process dies at any moment and is started again is a succession of processes.
They share the database and nothing else: the queues, the cursor and the statements of a dead
process are gone. All processes of the server together complete the broadcast of a row at most
once, and none of them catches up with the time before its start. -/

namespace PalCrosschat

open Bytes (ascii)

/-! ## What a thread reads -/

/-- A `MAX(id)` in the journal is an old one or that of the table. -/
theorem DbWorker.Move.maxIdRead {config : Config} {state after : DbState}
    (moved : Move config state after) {id : Nat}
    (read : .maxIdRead id ∈ after.worker.journal) :
    .maxIdRead id ∈ state.worker.journal ∨ id = state.database.maxId := by
  have noted {event : WorkerEvent} (read : .maxIdRead id ∈ state.worker.journal ++ [event]) :
      .maxIdRead id ∈ state.worker.journal ∨ event = .maxIdRead id := by
    rcases List.mem_append.mp read with old | new
    · exact .inl old
    · exact .inr (List.mem_singleton.mp new).symm
  cases moved with
  | quiet quiet =>
      rcases quiet.journal with ⟨added, grown, unrelated⟩
      rw [grown] at read
      refine .inl ((List.mem_append.mp read).resolve_right fun new => ?_)
      cases unrelated _ new
  | readMaxId control =>
      refine (noted read).imp_right fun same => ?_
      cases same
      rfl
  | armCursor maxId control => exact .inl read
  | pop item control popped => exact .inl read
  | store item control => exact .inl ((noted read).resolve_right nofun)
  | requeue item control => exact .inl ((noted read).resolve_right nofun)
  | select now control => exact .inl ((noted read).resolve_right nofun)
  | fetch batch row rest beyond control rows => exact .inl ((noted read).resolve_right nofun)
  | advance id batch control => exact .inl read

theorem mem_of_lastMaxId {journal : List WorkerEvent} {id : Nat}
    (last : lastMaxId journal = some id) : .maxIdRead id ∈ journal := by
  rcases List.mem_filterMap.mp (List.mem_of_getLast? last) with ⟨event, member, read⟩
  cases event <;> cases read
  exact member

namespace RelayNetwork

variable {count : Nat} {servers : Fin count → RelayServer}

variable {players : List PlayerRow} {past more : List (NetworkInput count)} {server : Fin count}

theorem run_append : run servers players (past ++ more) =
    Execution.run (step servers) (run servers players past) more :=
  Execution.run_append past more

/-! ## Before the start and after the end -/

/-- The `MAX(id)`s a process reads are not behind the table at its start. -/
theorem maxIds_since (absent : ∀ input ∈ past, input.server ≠ server) {id : Nat}
    (read : .maxIdRead id ∈ ((run servers players (past ++ more)).world server).worker.journal) :
    (run servers players past).shared.maxId ≤ id := by
  let since := (run servers players past).shared.maxId
  have initially : ((run servers players past).world server).worker.journal = [] := by
    rw [worker_of_absent absent]
    rfl
  have invariant : since ≤ (run servers players (past ++ more)).shared.maxId ∧
      ∀ id, .maxIdRead id ∈
        ((run servers players (past ++ more)).world server).worker.journal → since ≤ id := by
    rw [run_append]
    refine Execution.run_invariant
      (fun network : RelayNetwork count => since ≤ network.shared.maxId ∧
        ∀ id, .maxIdRead id ∈ (network.world server).worker.journal → since ≤ id)
      (fun network input holds => ?_) ⟨Nat.le_refl _, fun id member => ?_⟩ more
    · have grows := grows_stepped servers network input
      refine ⟨holds.1.trans grows.maxId_le, fun id member => ?_⟩
      by_cases own : input.server = server
      · subst own
        rw [world_step_self, stepped_eq] at member
        cases taken : input.input with
        | worker workerInput =>
            rw [taken] at member
            rcases (DbWorker.step_move _ _ workerInput).maxIdRead member with old | new
            · exact holds.2 id old
            · exact new ▸ holds.1
        | _ =>
            rw [taken] at member
            exact holds.2 id member
      · rw [world_step_other (Ne.symm own)] at member
        exact holds.2 id member
    · rw [initially] at member
      cases member
  exact invariant.2 id read

theorem newer_of_absent (absent : ∀ input ∈ past, input.server ≠ server) {id : Nat}
    (pushed : id ∈ pushedIds ((run servers players (past ++ more)).world server).worker.journal) :
    (run servers players past).shared.maxId < id := by
  rcases mem_pushedIds.mp pushed with ⟨row, msg, member, rfl⟩
  rcases List.append_of_mem member with ⟨before, after, journal⟩
  rcases (cursorInvariant servers players (past ++ more) server).live before row msg after journal
    with ⟨maxId, last, newer⟩
  have read := List.mem_append_left (.inboundPushed row msg :: after) (mem_of_lastMaxId last)
  rw [← journal] at read
  exact (maxIds_since absent read).trans_lt newer

theorem older_of_ended (ended : ∀ input ∈ more, input.server ≠ server) {id : Nat}
    (pushed : id ∈ pushedIds ((run servers players (past ++ more)).world server).worker.journal) :
    id ≤ (run servers players past).shared.maxId := by
  have same : (run servers players (past ++ more)).parties server =
      (run servers players past).parties server := by
    rw [run_append]
    exact parties_of_absent ended
  change id ∈ pushedIds ((run servers players (past ++ more)).parties server).worker.journal
    at pushed
  rw [same] at pushed
  exact (cursorInvariant servers players past server).le_maxId id pushed

/-! ## Successive processes -/

/-- The one process takes its last step before the other one takes its first. -/
structure EndsBefore (inputs : List (NetworkInput count)) (first second : Fin count) : Prop where
  apart : first ≠ second
  order : inputs.Pairwise fun earlier later => earlier.server = second → later.server ≠ first

variable {inputs : List (NetworkInput count)} {first second : Fin count}

theorem EndsBefore.split (ends : EndsBefore inputs first second) :
    (∀ input ∈ inputs, input.server ≠ second) ∨
      ∃ past more, inputs = past ++ more ∧ (∀ input ∈ past, input.server ≠ second) ∧
        ∀ input ∈ more, input.server ≠ first := by
  by_cases started : second ∈ inputs.map (·.server)
  · rcases List.eq_append_cons_of_mem started with ⟨before, after, order, absent⟩
    rcases List.map_eq_append_iff.mp order with ⟨past, more, rfl, rfl, steps⟩
    refine .inr ⟨past, more, rfl, fun input member own => ?_, ?_⟩
    · exact absent (List.mem_map.mpr ⟨input, member, own⟩)
    · rcases List.map_eq_cons_iff.mp steps with ⟨start, rest, rfl, own, -⟩
      have later := (List.pairwise_append.mp ends.order).2.1
      rw [List.pairwise_cons] at later
      intro input member
      rcases List.mem_cons.mp member with rfl | afterStart
      · rw [own]
        exact ends.apart.symm
      · exact later.1 input afterStart own
  · exact .inl fun input member own => started (List.mem_map.mpr ⟨input, member, own⟩)

theorem EndsBefore.newer (ends : EndsBefore inputs first second) {earlier later : Nat}
    (byFirst : earlier ∈ pushedIds ((run servers players inputs).world first).worker.journal)
    (bySecond : later ∈ pushedIds ((run servers players inputs).world second).worker.journal) :
    earlier < later := by
  rcases ends.split with never | ⟨past, more, rfl, absent, ended⟩
  · rw [worker_of_absent never] at bySecond
    cases bySecond
  · exact (older_of_ended ended byFirst).trans_lt (newer_of_absent absent bySecond)

theorem pushedId_of_attempt {attempt : InboundMessage × Bool}
    (tried : attempt ∈ attempts (run servers players inputs) server) :
    attempt.1.id ∈ pushedIds ((run servers players inputs).world server).worker.journal := by
  rcases pushed_of_attempt tried with ⟨row, pushed⟩
  rw [← map_id_workerRows (readsRows_run servers players inputs server).decoded]
  exact List.mem_map_of_mem (mem_workerRows.mpr ⟨row, pushed⟩)

def triedBy (network : RelayNetwork count) (processes : List (Fin count)) :
    List (Fin count × InboundMessage × Bool) :=
  processes.flatMap fun process => (attempts network process).map (process, ·)

theorem mem_triedBy {network : RelayNetwork count} {processes : List (Fin count)}
    {entry : Fin count × InboundMessage × Bool} (member : entry ∈ triedBy network processes) :
    entry.2 ∈ attempts network entry.1 := by
  rcases List.mem_flatMap.mp member with ⟨process, -, tried⟩
  rcases List.mem_map.mp tried with ⟨attempt, inProcess, rfl⟩
  exact inProcess

/-- The two attempts are of one process and one row, and the earlier one was not completed. -/
structure TriesAgain (earlier later : Fin count × InboundMessage × Bool) : Prop where
  process : earlier.1 = later.1
  item : earlier.2.1 = later.2.1
  failed : earlier.2.2 = false

theorem pairwise_triedBy {processes : List (Fin count)}
    (successive : processes.Pairwise (EndsBefore inputs)) :
    (triedBy (run servers players inputs) processes).Pairwise fun earlier later =>
      earlier.2.1.id = later.2.1.id → TriesAgain earlier later := by
  rw [triedBy, List.pairwise_flatMap]
  constructor
  · intro process member
    rw [List.pairwise_map]
    refine pairwise_attempts.imp fun {earlier later} again same => ?_
    exact ⟨rfl, (again same).1, (again same).2⟩
  · refine successive.imp fun {first second} ends => ?_
    intro earlier byFirst later bySecond same
    rcases List.mem_map.mp byFirst with ⟨early, triedFirst, rfl⟩
    rcases List.mem_map.mp bySecond with ⟨late, triedSecond, rfl⟩
    have newer := ends.newer (pushedId_of_attempt triedFirst) (pushedId_of_attempt triedSecond)
    exact absurd same (Nat.ne_of_lt newer)

/-- However often a server is restarted, its processes together broadcast a row again only
after a broadcast of it, by the same process, that was not completed. Two rows they broadcast
stem from one call of a hook only if the server of the call was not told that it had stored
one of them, and no process broadcasts a row that was visible when it started. -/
theorem restarts_traceable (servers : Fin count → RelayServer) (players : List PlayerRow)
    (inputs : List (NetworkInput count)) (processes : List (Fin count))
    (successive : processes.Pairwise (EndsBefore inputs)) :
    let tried := triedBy (run servers players inputs) processes
    (tried.Pairwise fun earlier later =>
      earlier.2.1.id = later.2.1.id → TriesAgain earlier later) ∧
      (∀ past more, inputs = past ++ more → ∀ entry ∈ tried,
        (∀ input ∈ past, input.server ≠ entry.1) →
          (run servers players past).shared.maxId < entry.2.1.id) ∧
      ∃ origin : Fin count → InboundMessage → Option Nat,
        (∀ entry ∈ tried, ComesFrom servers players inputs entry.1 entry.2.1
          (origin entry.1 entry.2.1)) ∧
        ∀ first ∈ tried, ∀ second ∈ tried, ∀ moment ∈ origin first.1 first.2.1,
          moment ∈ origin second.1 second.2.1 → first.2.1.id = second.2.1.id := by
  intro tried
  rcases origins_of_attempts servers players inputs with ⟨origin, comes, apart⟩
  refine ⟨pairwise_triedBy successive, ?_, origin,
    fun entry member => comes entry.1 entry.2 (mem_triedBy member),
    fun first early second late => apart first.1 first.2 (mem_triedBy early) second.1 second.2
      (mem_triedBy late)⟩
  intro past more split entry member absent
  subst split
  exact newer_of_absent absent (pushedId_of_attempt (mem_triedBy member))

def steadyProcess : Fin 3 := ⟨0, by decide⟩

def killedProcess : Fin 3 := ⟨1, by decide⟩

def restartedProcess : Fin 3 := ⟨2, by decide⟩

def restartServers (process : Fin 3) : RelayServer where
  engine := quietEngine
  config := { serverOrigin := if process = steadyProcess then ascii "pal-na" else ascii "pal-eu" }
  compile := literalRegex
  startedAt := 0

def turns (process : Fin 3) (first length : Nat) : List (NetworkInput 3) :=
  (List.range length).map fun step => .plain process (.worker (tick (first + step)))

def saying (line : Bytes) : List (NetworkInput 3) :=
  [.plain steadyProcess (.hook (typed line)), .plain steadyProcess .update]

def firstLife : List (NetworkInput 3) :=
  turns steadyProcess 0 8 ++ turns killedProcess 0 8 ++
    saying (ascii "one") ++ turns steadyProcess 8 8 ++
    turns killedProcess 8 10 ++ List.replicate 8 (.plain killedProcess .update)

def secondLife : List (NetworkInput 3) :=
  saying (ascii "two") ++ turns steadyProcess 16 8 ++ turns restartedProcess 20 8 ++
    saying (ascii "three") ++ turns steadyProcess 24 8 ++
    turns restartedProcess 28 10 ++ List.replicate 8 (.plain restartedProcess .update)

abbrev restartInputs : List (NetworkInput 3) := firstLife ++ secondLife

theorem killed_endsBefore_restarted :
    EndsBefore restartInputs killedProcess restartedProcess :=
  ⟨by decide, by decide +kernel⟩

theorem restarts_traceable_greeted :
    let tried := triedBy (run restartServers [] restartInputs) [killedProcess, restartedProcess]
    tried.map (fun entry => (entry.1, entry.2.1.id, entry.2.2)) =
        [(killedProcess, 1, true), (restartedProcess, 3, true)] ∧
      (tried.Pairwise fun earlier later =>
        earlier.2.1.id = later.2.1.id → TriesAgain earlier later) ∧
      (∀ past more, restartInputs = past ++ more → ∀ entry ∈ tried,
        (∀ input ∈ past, input.server ≠ entry.1) →
          (run restartServers [] past).shared.maxId < entry.2.1.id) ∧
      ∃ origin : Fin 3 → InboundMessage → Option Nat,
        (∀ entry ∈ tried, ComesFrom restartServers [] restartInputs entry.1 entry.2.1
          (origin entry.1 entry.2.1)) ∧
        ∀ first ∈ tried, ∀ second ∈ tried, ∀ moment ∈ origin first.1 first.2.1,
          moment ∈ origin second.1 second.2.1 → first.2.1.id = second.2.1.id :=
  ⟨by decide +kernel, restarts_traceable restartServers [] restartInputs
    [killedProcess, restartedProcess] (List.pairwise_pair.mpr killed_endsBefore_restarted)⟩

/-! ## The cursor of an origin -/

/-- The processes with the origin follow one another. -/
def Successive (servers : Fin count → RelayServer) (origin : Bytes)
    (inputs : List (NetworkInput count)) : Prop :=
  ∀ first second, first ≠ second → (servers first).config.serverOrigin = origin →
    (servers second).config.serverOrigin = origin →
    EndsBefore inputs first second ∨ EndsBefore inputs second first

theorem EndsBefore.of_append (ends : EndsBefore (past ++ more) first second) :
    EndsBefore past first second :=
  ⟨ends.apart, (List.pairwise_append.mp ends.order).1⟩

theorem Successive.of_append {origin : Bytes}
    (successive : Successive servers origin (past ++ more)) : Successive servers origin past :=
  fun first second apart ofFirst ofSecond =>
    (successive first second apart ofFirst ofSecond).imp .of_append .of_append

theorem Successive.alone {input : NetworkInput count}
    (successive : Successive servers (servers input.server).config.serverOrigin
      (past ++ [input])) :
    ∃ before since, past = before ++ since ∧ Alone servers input.server before since := by
  by_cases started : input.server ∈ past.map (·.server)
  · rcases List.eq_append_cons_of_mem started with ⟨first, rest, order, absent⟩
    rcases List.map_eq_append_iff.mp order with ⟨before, since, rfl, rfl, steps⟩
    rcases List.map_eq_cons_iff.mp steps with ⟨start, later, rfl, own, -⟩
    refine ⟨before, start :: later, rfl, ?_, ?_⟩
    · exact fun other member same => absent (List.mem_map.mpr ⟨other, member, same⟩)
    · intro other member same
      by_contra apart
      have inLater : other ∈ later := by
        rcases List.mem_cons.mp member with rfl | inLater
        · exact absurd own apart
        · exact inLater
      have order : [start, other, input].Sublist (before ++ start :: later ++ [input]) := by
        have pair : [start, other].Sublist (start :: later) :=
          (List.singleton_sublist.mpr inLater).cons_cons start
        exact (pair.trans (List.sublist_append_right _ _)).append (List.Sublist.refl [input])
      rcases successive other.server input.server apart same rfl with ends | ends
      · have pairs := ends.order.sublist order
        simp [own] at pairs
      · have pairs := ends.order.sublist order
        simp at pairs
  · exact ⟨past, [], (List.append_nil _).symm,
      fun other member same => started (List.mem_map.mpr ⟨other, member, same⟩), nofun⟩

theorem successive_restarted :
    Successive restartServers (ascii "pal-eu") restartInputs := by
  have processes : ∀ process, (restartServers process).config.serverOrigin = ascii "pal-eu" →
      process = killedProcess ∨ process = restartedProcess := by
    decide
  intro first second apart ofFirst ofSecond
  rcases processes first ofFirst with rfl | rfl
  · rcases processes second ofSecond with rfl | rfl
    · exact absurd rfl apart
    · exact .inl killed_endsBefore_restarted
  · rcases processes second ofSecond with rfl | rfl
    · exact .inr killed_endsBefore_restarted
    · exact absurd rfl apart

end RelayNetwork

end PalCrosschat
