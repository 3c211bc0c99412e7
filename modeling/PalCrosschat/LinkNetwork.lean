import PalCrosschat.Foundation.Execution
import PalCrosschat.Foundation.Interleaving
import PalCrosschat.LinkSteps
import PalCrosschat.World

/-! # Servers around one `crosschat_players`

Any number of servers run their database threads on the same tables. Between two
statements of one thread any other one may run its own, and the Discord side may
add users and hand out codes, never the same code twice. -/

namespace PalCrosschat

/-- An answer, and whether the players were changed since the job was popped. -/
structure LinkAnswer where
  job : LinkJob
  notice : Bytes
  wrote : Bool
deriving DecidableEq, Repr

def LinkAnswer.succeeded (answer : LinkAnswer) : Bool :=
  decide (answer.notice = linkSuccess)

/-- What the servers share, with the codes handed out and the answers given so far. -/
structure LinkTable where
  database : Database := {}
  issued : List Bytes := []
  answers : List LinkAnswer := []

structure LinkServer where
  state : DbState
  /-- The job at hand has changed the players. -/
  wrote : Bool := false

abbrev LinkNetwork (count : Nat) := Interleaving count LinkServer LinkTable

inductive LinkInput (count : Nat)
  | worker (server : Fin count) (input : WorkerInput)
  /-- The game thread of a server uses the queues. -/
  | game (server : Fin count) (outbound : OutboundQueue) (inbound : InboundQueue)
      (linkJobs : LinkQueue) (linkResults : LinkResultQueue)
  /-- Another writer of `crosschat_messages` takes a step. -/
  | remote (action : RemoteAction)
  | registered (discordId : Option Bytes)
  /-- The row at this position gets a code. -/
  | codeIssued (position : Nat) (code : Bytes)

namespace LinkServer

/-- What a step of the thread that ends in some state leaves behind. -/
def record (server : LinkServer) (table : LinkTable) (after : DbState) :
    LinkServer × LinkTable :=
  let wrote := server.wrote || decide (after.database.players ≠ table.database.players)
  let answers := (linkAnswers after.worker.journal).drop
    (linkAnswers server.state.worker.journal).length
  ({ state := after, wrote := wrote && after.worker.control.linkJob.isSome },
    { table with
      database := after.database
      answers := table.answers ++ answers.map fun answer =>
        { job := answer.1, notice := answer.2, wrote } })

def step (config : Config) (server : LinkServer) (table : LinkTable) (input : WorkerInput) :
    LinkServer × LinkTable :=
  server.record table
    (DbWorker.step config { server.state with database := table.database } input)

/-- What a step of a server whose job has written nothing so far means for the tables. -/
inductive TableMove (server : LinkServer) (table : LinkTable) (input : WorkerInput)
    (after : LinkServer × LinkTable) : Prop
  | keep (answers : List LinkAnswer) (grown : after.2.answers = table.answers ++ answers)
      (refused : ∀ answer ∈ answers, answer.wrote = false ∧ answer.succeeded = false)
      (players : after.2.database.players = table.database.players)
      (checked : ∀ job, after.1.state.worker.control.checkedJob = some job →
        server.state.worker.control.checkedJob = some job ∨
          server.state.worker.control = .linkConflict job ∧
            DbWorker.ConflictMissed { server.state with database := table.database } job
              input.link)
  | complete (job : LinkJob) (control : server.state.worker.control = .linkComplete job)
      (succeeds : input.link = .none)
      (held : table.database.codeRows job.connectCode ≠ [])
      (grown : after.2.answers = table.answers ++ [{ job, notice := linkSuccess, wrote := true }])
      (players : after.2.database.players = (table.database.complete job).players)
      (free : after.1.state.worker.control.checkedJob = none)

section Record

variable {server : LinkServer} {table : LinkTable} {after : DbState}

/-- A step that does not change the players writes nothing. -/
theorem record_same (settled : server.wrote = false)
    (players : after.database.players = table.database.players) (added : List (LinkJob × Bytes))
    (answers : linkAnswers after.worker.journal =
      linkAnswers server.state.worker.journal ++ added) :
    server.record table after =
      ({ state := after },
        { table with
          database := after.database
          answers := table.answers ++ added.map fun answer =>
            { job := answer.1, notice := answer.2, wrote := false } }) := by
  simp [record, settled, players, answers]

theorem record_goTo (settled : server.wrote = false) (control : Control) :
    server.record table
        (DbWorker.goTo { server.state with database := table.database } control) =
      ({ state := DbWorker.goTo { server.state with database := table.database } control },
        table) := by
  simp [record, settled, DbWorker.goTo]

/-- A step that changes them, and is done with its job. -/
theorem record_changed (players : after.database.players ≠ table.database.players)
    (free : after.worker.control.linkJob = none) (added : List (LinkJob × Bytes))
    (answers : linkAnswers after.worker.journal =
      linkAnswers server.state.worker.journal ++ added) :
    server.record table after =
      ({ state := after },
        { table with
          database := after.database
          answers := table.answers ++ added.map fun answer =>
            { job := answer.1, notice := answer.2, wrote := true } }) := by
  simp [record, players, free, answers]

theorem step_tableMove (config : Config) (table : LinkTable) (input : WorkerInput)
    (settled : server.wrote = false) :
    (server.step config table input).1.wrote = false ∧
      TableMove server table input (server.step config table input) := by
  have move := DbWorker.step_linkMove config
    { server.state with database := table.database } input
  unfold step
  generalize DbWorker.step config { server.state with database := table.database } input =
    after at move
  cases move with
  | aside aside =>
      rw [record_same settled aside.players [] (aside.answers.trans (List.append_nil _).symm)]
      refine ⟨rfl, .keep [] rfl nofun aside.players ?_⟩
      intro job checked
      rw [aside.checked] at checked
      cases checked
  | check job control missed =>
      rw [record_goTo settled]
      refine ⟨rfl, .keep [] (List.append_nil _).symm nofun rfl ?_⟩
      intro other checked
      cases checked
      exact .inr ⟨control, missed⟩
  | find job control =>
      rw [record_goTo settled]
      refine ⟨rfl, .keep [] (List.append_nil _).symm nofun rfl ?_⟩
      intro other checked
      cases checked
      left
      change server.state.worker.control = _ at control
      rw [control]
      rfl
  | refuse job notice refused free players answers =>
      rw [record_same settled players [(job, notice)] answers]
      refine ⟨rfl, .keep _ rfl ?_ players ?_⟩
      · intro answer member
        rw [List.mem_singleton.mp member]
        exact ⟨rfl, decide_eq_false refused⟩
      · intro other checked
        rw [Control.checkedJob_of_free free] at checked
        cases checked
  | complete job control succeeds held free players answers =>
      have changed : after.database.players ≠ table.database.players := by
        rw [players]
        exact Database.complete_changes held
      rw [record_changed changed free [(job, linkSuccess)] answers]
      exact ⟨rfl, .complete job control succeeds held rfl players (Control.checkedJob_of_free free)⟩

end Record

end LinkServer

namespace LinkTable

def register (table : LinkTable) (discordId : Option Bytes) : LinkTable :=
  { table with database := { table.database with
    players := table.database.players ++ [{ discordId }] } }

/-- A code that was handed out before is not handed out again. -/
def issue (table : LinkTable) (position : Nat) (code : Bytes) : LinkTable :=
  if code ∈ table.issued then table
  else
    { table with
      database := { table.database with
        players := table.database.players.modify position fun row =>
          { row with connectCode := some code } }
      issued := table.issued ++ [code] }

end LinkTable

namespace LinkNetwork

variable {count : Nat} (config : Fin count → Config)

def step (network : LinkNetwork count) : LinkInput count → LinkNetwork count
  | .worker server input =>
      network.act server ((network.parties server).step (config server) network.shared input)
  | .game server outbound inbound linkJobs linkResults =>
      let state := (network.parties server).state
      network.act server
        ({ network.parties server with
            state := { state with outbound, inbound, linkJobs, linkResults } },
          network.shared)
  | .remote action =>
      { network with shared := { network.shared with
        database := network.shared.database.remote action } }
  | .registered discordId => { network with shared := network.shared.register discordId }
  | .codeIssued position code => { network with shared := network.shared.issue position code }

def initial (startedAt : Fin count → Nanoseconds) (players : List PlayerRow) :
    LinkNetwork count where
  parties server := { state := { worker := .initial (startedAt server) } }
  shared :=
    { database := { players }
      issued := ({ players } : Database).connectCodes }

abbrev run (startedAt : Fin count → Nanoseconds) (players : List PlayerRow)
    (inputs : List (LinkInput count)) : LinkNetwork count :=
  Execution.run (step config) (initial startedAt players) inputs

end LinkNetwork

end PalCrosschat
