import PalCrosschat.Config
import PalCrosschat.Database
import PalCrosschat.Queues
import PalCrosschat.WordFilter

/-! # The database thread

`DbWorker::ThreadMain` as a state machine. Each control state is a point of the
thread between two calls that wait for the database, the queues or the clock;
a step performs one of them. What these calls report is the step's input, so a
list of inputs may make any call fail. -/

namespace PalCrosschat

open Bytes (ascii)

/-! ## Connection -/

inductive Statement
  | insert
  | select
  | cursorUpsert
  | maxId
  | linkLookup
  | linkConflict
  | linkComplete
deriving DecidableEq, Repr

/-- `MysqlConnection`. Handles are numbered by the `mysql_init` calls; a
statement remembers the handle it was prepared on, `none` is a null statement. -/
structure MysqlConnection where
  handle : Option Nat := none
  statements : Statement → Option Nat := fun _ => none
  nextHandle : Nat := 0

namespace MysqlConnection

def close (conn : MysqlConnection) : MysqlConnection :=
  { conn with handle := none, statements := fun _ => none }

/-- `mysql_init`. -/
def init (conn : MysqlConnection) : MysqlConnection :=
  { conn.close with handle := some conn.nextHandle, nextHandle := conn.nextHandle + 1 }

/-- A complete `PrepareStatements`. -/
def prepareStatements (conn : MysqlConnection) : MysqlConnection :=
  { conn with statements := fun _ => conn.handle }

end MysqlConnection

/-- How `Connect` and `PrepareStatements` end. -/
inductive ConnectOutcome
  | initFailed
  | refused
  | prepareFailed
  | ready
deriving DecidableEq, Repr

/-! ## Result buffers -/

/-- The fixed buffers that `poll_inbound` binds to the five text columns. They
keep their contents from one fetched row to the next. -/
structure RowBuffers where
  origin : Bytes := List.replicate 64 0
  senderName : Bytes := List.replicate 64 0
  senderId : Bytes := List.replicate 64 0
  guildName : Bytes := List.replicate 64 0
  message : Bytes := List.replicate 512 0
deriving DecidableEq, Repr

/-- `mysql_stmt_fetch` into one buffer: at most `bufferLength` bytes of the
column are copied. A NULL column leaves the buffer alone. -/
def fetchColumn (buffer : Bytes) (bufferLength : Nat) (column : Option Bytes) : Bytes :=
  match column with
  | none => buffer
  | some text =>
      text.take bufferLength ++ buffer.drop (min text.length bufferLength)

/-- `assign(buffer, is_null ? 0 : length)`, where `length` is the full length of
the column. Past the end of the buffer it reads whatever memory follows. -/
def assignColumn (buffer beyond : Bytes) (column : Option Bytes) : Bytes :=
  match column with
  | none => []
  | some text => (buffer ++ beyond).take text.length

/-- The bound length of a buffer, `sizeof(buffer) - 1`. -/
def boundLength (buffer : Bytes) : Nat := buffer.length - 1

namespace RowBuffers

def fetch (buffers : RowBuffers) (row : Row) : RowBuffers where
  origin := fetchColumn buffers.origin (boundLength buffers.origin) row.origin
  senderName := fetchColumn buffers.senderName (boundLength buffers.senderName) row.senderName
  senderId := fetchColumn buffers.senderId (boundLength buffers.senderId) row.senderId
  guildName := fetchColumn buffers.guildName (boundLength buffers.guildName) row.guildName
  message := fetchColumn buffers.message (boundLength buffers.message) row.message

/-- The `InboundMessage` built from the buffers after a fetch. `beyond` is the
memory behind each of them. -/
def decode (buffers : RowBuffers) (beyond : RowBuffers) (row : Row) : InboundMessage where
  id := row.id
  origin := assignColumn buffers.origin beyond.origin row.origin
  senderName := assignColumn buffers.senderName beyond.senderName row.senderName
  senderId := assignColumn buffers.senderId beyond.senderId row.senderId
  guildName := assignColumn buffers.guildName beyond.guildName row.guildName
  message := assignColumn buffers.message beyond.message row.message

end RowBuffers

/-! ## Thread state -/

/-- The stored result of a poll SELECT: the rows not yet fetched, the buffers,
and the clock reading of the poll. -/
structure Batch where
  rows : List Row
  buffers : RowBuffers
  now : Nanoseconds
deriving DecidableEq, Repr

inductive Control
  | loopHead
  | readMaxId
  | upsertCursor (maxId : Nat)
  | drainLinks
  | linkConflict (job : LinkJob)
  | linkLookup (job : LinkJob)
  | linkComplete (job : LinkJob)
  | drainOutbound
  | inserting (item : OutboundMessage)
  | pollCheck
  | selecting (now : Nanoseconds)
  | fetching (batch : Batch)
  | updatingCursor (id : Nat) (batch : Batch)
  | backoff
  | idle
  | stopped
deriving DecidableEq, Repr

inductive WorkerEvent
  /-- `init_cursor` read this `MAX(id)`. -/
  | maxIdRead (id : Nat)
  /-- The message was stored as this row. -/
  | inserted (msg : OutboundMessage) (row : Row)
  /-- The poll SELECT was executed. -/
  | polled
  /-- The row was pushed to the inbound queue as this message. -/
  | inboundPushed (row : Row) (msg : InboundMessage)
  | linkAnswered (job : LinkJob) (result : LinkResult)
  /-- A backoff sleep of this many seconds started. -/
  | backoffStarted (seconds : Int)
deriving DecidableEq, Repr

structure Worker where
  control : Control := .loopHead
  conn : MysqlConnection := {}
  connected : Bool := false
  cursorReady : Bool := false
  /-- `m_cursor_id`; `none` is its initial -1. -/
  cursorId : Option Nat := none
  backoffSec : Int := 1
  lastPoll : Nanoseconds := 0
  /-- History variable: what the thread did so far, oldest first. -/
  journal : List WorkerEvent := []

/-- Everything the database thread touches. -/
structure DbState where
  outbound : OutboundQueue := .empty
  inbound : InboundQueue := .empty
  linkJobs : LinkQueue := .empty
  linkResults : LinkResultQueue := .empty
  worker : Worker := {}
  database : Database := {}

inductive LinkFault
  | none
  | execute
  | bindOrStore
  | fetch
deriving DecidableEq, Repr

/-- What the calls of one step report. A step reads the parts it needs. -/
structure WorkerInput where
  stopRequested : Bool := false
  /-- The statement of the step succeeds. -/
  ok : Bool := true
  connect : ConnectOutcome := .ready
  link : LinkFault := .none
  now : Nanoseconds := 0
  /-- The memory behind the result buffers. -/
  beyond : RowBuffers := {}

namespace DbWorker

variable (config : Config)

/-! ## Pieces of the thread -/

def goTo (state : DbState) (control : Control) : DbState :=
  { state with worker := { state.worker with control } }

def note (state : DbState) (event : WorkerEvent) : DbState :=
  { state with
    worker := { state.worker with journal := state.worker.journal ++ [event] } }

/-- The `SleepInterruptible(backoff_sec)` after a failure. -/
def startBackoff (state : DbState) : DbState :=
  goTo (note state (.backoffStarted state.worker.backoffSec)) .backoff

/-- `mark_failure`, then the backoff sleep. -/
def markFailure (state : DbState) : DbState :=
  startBackoff
    { state with worker := { state.worker with
      connected := false
      cursorReady := false
      conn := state.worker.conn.close } }

/-- The unsuccessful exits of `ensure_connected`. -/
def connectFailed (state : DbState) (conn : MysqlConnection) : DbState :=
  startBackoff
    { state with worker := { state.worker with
      connected := false
      cursorReady := false
      conn } }

/-- What follows a successful `ensure_connected`. -/
def afterConnect (state : DbState) : DbState :=
  goTo state (if state.worker.cursorReady then .drainLinks else .readMaxId)

def ensureConnected (state : DbState) (outcome : ConnectOutcome) : DbState :=
  if state.worker.conn.handle.isSome && state.worker.connected then
    afterConnect state
  else
    match outcome with
    | .initFailed => connectFailed state state.worker.conn.close
    | .refused => connectFailed state state.worker.conn.init
    | .prepareFailed => connectFailed state state.worker.conn.init.close
    | .ready =>
        afterConnect
          { state with worker := { state.worker with
            connected := true
            conn := state.worker.conn.init.prepareStatements
            backoffSec := 1 } }

/-- `backoff_sec = min(backoff_sec * 2, backoff_cap)` in `int`. -/
def nextBackoff (backoffSec : Int) : Int :=
  min (int32 (backoffSec * 2)) config.reconnectBackoffMaxSec

/-- The row `insert_outbound` stores, apart from its id. -/
def outboundRow (msg : OutboundMessage) : Row where
  id := 0
  origin := some config.serverOrigin
  senderName := some msg.senderName
  senderId := some msg.senderId
  guildName := some msg.guildName
  message := some msg.message

def insertOutbound (state : DbState) (msg : OutboundMessage) : DbState :=
  note { state with database := state.database.insert (outboundRow config msg) }
    (.inserted msg { outboundRow config msg with id := state.database.nextId })

def pollDue (worker : Worker) (now : Nanoseconds) : Bool :=
  config.pollIntervalMs * 1000000 ≤ now - worker.lastPoll

/-- One round of the fetch loop: build the message and push it. -/
def fetchRow (state : DbState) (beyond : RowBuffers) (batch : Batch)
    (row : Row) (rest : List Row) : DbState :=
  let buffers := batch.buffers.fetch row
  let msg := buffers.decode beyond row
  goTo (note { state with inbound := state.inbound.push msg } (.inboundPushed row msg))
    (.updatingCursor row.id { batch with rows := rest, buffers })

/-! ## Link jobs -/

/-- `push_result`: the job is over. -/
def answerLink (state : DbState) (job : LinkJob) (notice : Bytes) : DbState :=
  let result : LinkResult := { notice, platformUserId := job.platformUserId }
  goTo (note { state with linkResults := state.linkResults.push result }
    (.linkAnswered job result)) .drainLinks

def linkDatabaseError : Bytes := ascii "Discord link failed: database error."
def linkInvalidCode : Bytes := ascii "Invalid Discord connect code."

def beginLink (state : DbState) (job : LinkJob) : DbState :=
  if job.connectCode.isEmpty || job.platformUserId.isEmpty then
    answerLink state job (ascii "Discord link failed: missing account id.")
  else goTo state (.linkConflict job)

/-- What fetching a DiscordId reports: a row, no row, a truncated row, an error. -/
inductive FetchResult
  | row
  | noData
  | truncated
  | error
deriving DecidableEq, Repr

def fetchDiscordId (rows : List PlayerRow) (fault : LinkFault) : FetchResult :=
  if fault = .fetch then .error
  else
    match rows with
    | [] => .noData
    | row :: _ =>
        if row.discordId.any fun text => decide (64 ≤ text.length) then .truncated
        else .row

/-- The conflict query. Only a clean fetch of a row counts as a conflict. -/
def linkConflict (state : DbState) (job : LinkJob) (fault : LinkFault) : DbState :=
  if fault = .execute then answerLink state job linkDatabaseError
  else if fault ≠ .bindOrStore ∧
      fetchDiscordId (state.database.linkedRows job.platformUserId) fault = .row then
    answerLink state job (ascii "This in-game account is already linked to Discord.")
  else goTo state (.linkLookup job)

def linkLookup (state : DbState) (job : LinkJob) (fault : LinkFault) : DbState :=
  if fault = .execute ∨ fault = .bindOrStore then answerLink state job linkDatabaseError
  else
    match fetchDiscordId (state.database.codeRows job.connectCode) fault with
    | .noData => answerLink state job linkInvalidCode
    | .error => answerLink state job linkDatabaseError
    | .row | .truncated => goTo state (.linkComplete job)

def linkComplete (state : DbState) (job : LinkJob) (fault : LinkFault) : DbState :=
  if fault ≠ .none then answerLink state job linkDatabaseError
  else
    let affected := (state.database.codeRows job.connectCode).length
    let state := { state with
      database := state.database.completeLink job.platform job.userId
        job.platformUserId job.playerName job.connectCode }
    if affected = 0 then answerLink state job linkInvalidCode
    else answerLink state job (ascii "Discord account linked successfully.")

/-! ## The thread -/

def stop (state : DbState) : DbState :=
  goTo { state with worker := { state.worker with
    conn := state.worker.conn.close
    connected := false } } .stopped

/-- One step of `ThreadMain`. -/
def step (state : DbState) (input : WorkerInput) : DbState :=
  match state.worker.control with
  | .loopHead =>
      if input.stopRequested then stop state else ensureConnected state input.connect
  | .readMaxId =>
      if input.ok then
        goTo (note state (.maxIdRead state.database.maxId))
          (.upsertCursor state.database.maxId)
      else markFailure state
  | .upsertCursor maxId =>
      if input.ok then
        goTo { state with
          database := state.database.upsertCursor config.serverOrigin maxId
          worker := { state.worker with cursorId := some maxId, cursorReady := true } }
          .drainLinks
      else markFailure state
  | .drainLinks =>
      if input.stopRequested then goTo state .drainOutbound
      else
        match state.linkJobs.tryPop with
        | (none, _) => goTo state .drainOutbound
        | (some job, linkJobs) => beginLink { state with linkJobs } job
  | .linkConflict job => linkConflict state job input.link
  | .linkLookup job => linkLookup state job input.link
  | .linkComplete job => linkComplete state job input.link
  | .drainOutbound =>
      if input.stopRequested then goTo state .pollCheck
      else
        match state.outbound.tryPop with
        | (none, _) => goTo state .pollCheck
        | (some item, outbound) => goTo { state with outbound } (.inserting item)
  | .inserting item =>
      if input.ok then goTo (insertOutbound config state item) .drainOutbound
      else markFailure { state with outbound := state.outbound.push item }
  | .pollCheck =>
      if pollDue config state.worker input.now then goTo state (.selecting input.now)
      else goTo state .idle
  | .selecting now =>
      if input.ok then
        goTo (note state .polled) (.fetching
          { rows := state.database.poll (state.worker.cursorId.getD 0)
              config.serverOrigin config.maxBatch.toNat
            buffers := {}
            now })
      else markFailure state
  | .fetching batch =>
      if input.ok then
        match batch.rows with
        | [] =>
            goTo { state with worker := { state.worker with lastPoll := batch.now } } .idle
        | row :: rest => fetchRow state input.beyond batch row rest
      else markFailure state
  | .updatingCursor id batch =>
      if input.ok then
        goTo { state with
          database := state.database.upsertCursor config.serverOrigin id
          worker := { state.worker with cursorId := some id } } (.fetching batch)
      else markFailure state
  | .backoff =>
      if input.stopRequested then stop state
      else
        goTo { state with worker := { state.worker with
          backoffSec := nextBackoff config state.worker.backoffSec } } .loopHead
  | .idle => if input.stopRequested then stop state else goTo state .loopHead
  | .stopped => state

end DbWorker

end PalCrosschat
