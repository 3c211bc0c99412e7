import PalCrosschat.DbWorker

/-! # What a step of the database thread does

`DbWorker.step` has one branch for each point of the thread. For the messages
and the cursor nine of them matter; every other step, failures included, is
quiet. The invariants of the thread are proved move by move. -/

namespace PalCrosschat

namespace Control

/-- The points of an iteration after `init_cursor`. -/
def pastCursorInit : Control → Bool
  | .loopHead | .readMaxId | .upsertCursor _ | .backoff | .idle | .stopped => false
  | _ => true

def holds : Control → Bool
  | .upsertCursor _ | .inserting _ | .fetching _ | .updatingCursor _ _ => true
  | _ => false

def advances : Control → Bool
  | .updatingCursor _ _ => true
  | _ => false

end Control

def WorkerEvent.aboutMessages : WorkerEvent → Bool
  | .maxIdRead _ | .inserted _ _ | .polled | .inboundPushed _ _ => true
  | .linkAnswered _ _ | .backoffStarted _ => false

namespace DbWorker

/-- Past `init_cursor` the cursor is ready. -/
def CursorArmed (worker : Worker) : Prop :=
  worker.control.pastCursorInit = true → worker.cursorReady = true

structure Quiet (state after : DbState) : Prop where
  outbound : after.outbound = state.outbound
  inbound : after.inbound = state.inbound
  messages : after.database.messages = state.database.messages
  inFlight : after.database.inFlight = state.database.inFlight
  nextId : after.database.nextId = state.database.nextId
  cursorId : after.worker.cursorId = state.worker.cursorId
  ready : after.worker.cursorReady = true →
    state.worker.cursorReady = true ∧ state.worker.control.advances = false
  armed : CursorArmed state.worker → CursorArmed after.worker
  unready : after.worker.control = .readMaxId → after.worker.cursorReady = false
  holds : after.worker.control.holds = false
  journal : ∃ added, after.worker.journal = state.worker.journal ++ added ∧
    ∀ event ∈ added, event.aboutMessages = false

inductive Move (config : Config) (state : DbState) : DbState → Prop
  | quiet {after : DbState} (quiet : Quiet state after) : Move config state after
  | readMaxId (control : state.worker.control = .readMaxId) :
      Move config state (goTo (note state (.maxIdRead state.database.maxId))
        (.upsertCursor state.database.maxId))
  | armCursor (maxId : Nat) (control : state.worker.control = .upsertCursor maxId) :
      Move config state (goTo { state with
        database := state.database.upsertCursor config.serverOrigin maxId
        worker := { state.worker with cursorId := some maxId, cursorReady := true } }
        .drainLinks)
  | pop (item : OutboundMessage) (control : state.worker.control = .drainOutbound)
      (popped : state.outbound.tryPop.1 = some item) :
      Move config state
        (goTo { state with outbound := state.outbound.tryPop.2 } (.inserting item))
  | store (item : OutboundMessage) (control : state.worker.control = .inserting item) :
      Move config state (goTo (insertOutbound config state item) .drainOutbound)
  | requeue (item : OutboundMessage) (control : state.worker.control = .inserting item) :
      Move config state (markFailure { state with outbound := state.outbound.push item })
  | select (now : Nanoseconds) (control : state.worker.control = .selecting now) :
      Move config state (goTo (note state .polled) (.fetching
        { rows := state.database.poll (state.worker.cursorId.getD 0)
            config.serverOrigin config.maxBatch.toNat
          buffers := {}
          now }))
  | fetch (batch : Batch) (row : Row) (rest : List Row) (beyond : RowBuffers)
      (control : state.worker.control = .fetching batch) (rows : batch.rows = row :: rest) :
      Move config state (fetchRow state beyond batch row rest)
  | advance (id : Nat) (batch : Batch)
      (control : state.worker.control = .updatingCursor id batch) :
      Move config state (goTo { state with
        database := state.database.upsertCursor config.serverOrigin id
        worker := { state.worker with cursorId := some id } } (.fetching batch))

/-! ## Quiet steps -/

section Quiet

variable {state : DbState}

/-- Between two points that hold nothing the thread moves without a trace. -/
theorem quiet_goTo (settled : state.worker.control.advances = false) {control : Control}
    (free : control.holds = false)
    (unready : control = .readMaxId → state.worker.cursorReady = false)
    (armed : CursorArmed state.worker →
      control.pastCursorInit = true → state.worker.cursorReady = true) :
    Quiet state (goTo state control) where
  outbound := rfl
  inbound := rfl
  messages := rfl
  inFlight := rfl
  nextId := rfl
  cursorId := rfl
  ready ready := ⟨ready, settled⟩
  armed := armed
  unready := unready
  holds := free
  journal := ⟨[], by simp [goTo], by simp⟩

theorem quiet_connectFailed (conn : MysqlConnection) :
    Quiet state (connectFailed state conn) where
  outbound := rfl
  inbound := rfl
  messages := rfl
  inFlight := rfl
  nextId := rfl
  cursorId := rfl
  ready := nofun
  armed _ := nofun
  unready := nofun
  holds := rfl
  journal := ⟨[.backoffStarted state.worker.backoffSec], rfl, by
    simp [WorkerEvent.aboutMessages]⟩

theorem quiet_markFailure : Quiet state (markFailure state) :=
  quiet_connectFailed state.worker.conn.close

theorem quiet_stop (settled : state.worker.control.advances = false) :
    Quiet state (stop state) :=
  ⟨rfl, rfl, rfl, rfl, rfl, rfl, fun ready => ⟨ready, settled⟩, fun _ => nofun, nofun,
    rfl, [], by simp [stop, goTo], by simp⟩

theorem quiet_afterConnect (settled : state.worker.control.advances = false) :
    Quiet state (afterConnect state) := by
  unfold afterConnect
  cases ready : state.worker.cursorReady with
  | false => exact quiet_goTo settled rfl (fun _ => ready) fun _ => nofun
  | true => exact quiet_goTo settled rfl nofun fun _ _ => ready

theorem quiet_ensureConnected (settled : state.worker.control.advances = false)
    (outcome : ConnectOutcome) : Quiet state (ensureConnected state outcome) := by
  unfold ensureConnected
  split
  · exact quiet_afterConnect settled
  · cases outcome with
    | initFailed => exact quiet_connectFailed _
    | refused => exact quiet_connectFailed _
    | prepareFailed => exact quiet_connectFailed _
    | ready =>
        let opened : DbState := { state with
          worker := { state.worker with
            connected := true
            conn := state.worker.conn.init.prepareStatements
            backoffSec := 1 } }
        have connected : Quiet opened (afterConnect opened) := quiet_afterConnect settled
        exact ⟨connected.outbound, connected.inbound, connected.messages,
          connected.inFlight, connected.nextId, connected.cursorId, connected.ready,
          connected.armed, connected.unready, connected.holds, connected.journal⟩

theorem quiet_answerLink (settled : state.worker.control.advances = false)
    (past : CursorArmed state.worker → state.worker.cursorReady = true)
    (job : LinkJob) (notice : Bytes) : Quiet state (answerLink state job notice) where
  outbound := rfl
  inbound := rfl
  messages := rfl
  inFlight := rfl
  nextId := rfl
  cursorId := rfl
  ready ready := ⟨ready, settled⟩
  armed armed _ := past armed
  unready := nofun
  holds := rfl
  journal := ⟨_, rfl, by simp [WorkerEvent.aboutMessages]⟩

theorem quiet_beginLink (settled : state.worker.control.advances = false)
    (past : CursorArmed state.worker → state.worker.cursorReady = true)
    (job : LinkJob) : Quiet state (beginLink state job) := by
  unfold beginLink
  split
  · exact quiet_answerLink settled past job _
  · exact quiet_goTo settled rfl nofun fun armed _ => past armed

theorem quiet_linkConflict (settled : state.worker.control.advances = false)
    (past : CursorArmed state.worker → state.worker.cursorReady = true)
    (job : LinkJob) (fault : LinkFault) : Quiet state (linkConflict state job fault) := by
  unfold linkConflict
  split
  · exact quiet_answerLink settled past job _
  · split
    · exact quiet_answerLink settled past job _
    · exact quiet_goTo settled rfl nofun fun armed _ => past armed

theorem quiet_linkLookup (settled : state.worker.control.advances = false)
    (past : CursorArmed state.worker → state.worker.cursorReady = true)
    (job : LinkJob) (fault : LinkFault) : Quiet state (linkLookup state job fault) := by
  unfold linkLookup
  split
  · exact quiet_answerLink settled past job _
  · split
    · exact quiet_answerLink settled past job _
    · exact quiet_answerLink settled past job _
    · exact quiet_goTo settled rfl nofun fun armed _ => past armed
    · exact quiet_goTo settled rfl nofun fun armed _ => past armed

theorem quiet_linkComplete (settled : state.worker.control.advances = false)
    (past : CursorArmed state.worker → state.worker.cursorReady = true)
    (job : LinkJob) (fault : LinkFault) : Quiet state (linkComplete state job fault) := by
  unfold linkComplete
  split
  · exact quiet_answerLink settled past job _
  · have completed : ∀ notice, Quiet state (answerLink { state with
        database := state.database.completeLink job.platform job.userId
          job.platformUserId job.playerName job.connectCode } job notice) := fun notice =>
      ⟨rfl, rfl, rfl, rfl, rfl, rfl, fun ready => ⟨ready, settled⟩,
        fun armed _ => past armed, nofun, rfl, _, rfl, by
          simp [WorkerEvent.aboutMessages]⟩
    dsimp only
    split
    · exact completed _
    · exact completed _

end Quiet

/-! ## The moves -/

/-- Every step is one of the moves. -/
theorem step_move (config : Config) (state : DbState) (input : WorkerInput) :
    Move config state (step config state input) := by
  have past {control : Control} (here : state.worker.control = control)
      (inside : control.pastCursorInit = true) :
      CursorArmed state.worker → state.worker.cursorReady = true := fun armed =>
    armed (by rw [here]; exact inside)
  have settled {control : Control} (here : state.worker.control = control)
      (still : control.advances = false) : state.worker.control.advances = false := by
    rw [here]
    exact still
  cases here : state.worker.control with
  | loopHead =>
      simp only [step, here]
      split
      · exact .quiet (quiet_stop (settled here rfl))
      · exact .quiet (quiet_ensureConnected (settled here rfl) _)
  | readMaxId =>
      simp only [step, here]
      split
      · exact .readMaxId here
      · exact .quiet quiet_markFailure
  | upsertCursor maxId =>
      simp only [step, here]
      split
      · exact .armCursor maxId here
      · exact .quiet quiet_markFailure
  | drainLinks =>
      have ready := past here rfl
      simp only [step, here]
      split
      · exact .quiet (quiet_goTo (settled here rfl) rfl nofun fun armed _ => ready armed)
      · split
        · exact .quiet (quiet_goTo (settled here rfl) rfl nofun fun armed _ => ready armed)
        · rename_i job linkJobs popped
          have begun : Quiet { state with linkJobs } (beginLink { state with linkJobs } job) :=
            @quiet_beginLink { state with linkJobs } (settled here rfl) ready job
          exact .quiet ⟨begun.outbound, begun.inbound, begun.messages, begun.inFlight,
            begun.nextId, begun.cursorId, begun.ready, begun.armed, begun.unready, begun.holds,
            begun.journal⟩
  | linkConflict job =>
      simp only [step, here]
      exact .quiet (quiet_linkConflict (settled here rfl) (past here rfl) job _)
  | linkLookup job =>
      simp only [step, here]
      exact .quiet (quiet_linkLookup (settled here rfl) (past here rfl) job _)
  | linkComplete job =>
      simp only [step, here]
      exact .quiet (quiet_linkComplete (settled here rfl) (past here rfl) job _)
  | drainOutbound =>
      simp only [step, here]
      split
      · exact .quiet (quiet_goTo (settled here rfl) rfl nofun fun armed _ => past here rfl armed)
      · split
        · exact .quiet (quiet_goTo (settled here rfl) rfl nofun fun armed _ => past here rfl armed)
        · rename_i item outbound popped
          have moved : Move config state (goTo
              { state with outbound := state.outbound.tryPop.2 } (.inserting item)) :=
            .pop item here (by rw [popped])
          rw [popped] at moved
          exact moved
  | inserting item =>
      simp only [step, here]
      split
      · exact .store item here
      · exact .requeue item here
  | pollCheck =>
      simp only [step, here]
      split
      · exact .quiet (quiet_goTo (settled here rfl) rfl nofun fun armed _ => past here rfl armed)
      · exact .quiet (quiet_goTo (settled here rfl) rfl nofun fun _ => nofun)
  | selecting now =>
      simp only [step, here]
      split
      · exact .select now here
      · exact .quiet quiet_markFailure
  | fetching batch =>
      simp only [step, here]
      split
      · split
        · exact .quiet ⟨rfl, rfl, rfl, rfl, rfl, rfl, fun ready => ⟨ready, settled here rfl⟩,
            fun _ => nofun, nofun, rfl, [], by simp [goTo], by simp⟩
        · rename_i row rest rows
          exact .fetch batch row rest _ here rows
      · exact .quiet quiet_markFailure
  | updatingCursor id batch =>
      simp only [step, here]
      split
      · exact .advance id batch here
      · exact .quiet quiet_markFailure
  | backoff =>
      simp only [step, here]
      split
      · exact .quiet (quiet_stop (settled here rfl))
      · exact .quiet ⟨rfl, rfl, rfl, rfl, rfl, rfl, fun ready => ⟨ready, settled here rfl⟩,
          fun _ => nofun, nofun, rfl, [], by simp [goTo], by simp⟩
  | idle =>
      simp only [step, here]
      split
      · exact .quiet (quiet_stop (settled here rfl))
      · exact .quiet (quiet_goTo (settled here rfl) rfl nofun fun _ => nofun)
  | stopped =>
      simp only [step, here]
      exact .quiet ⟨rfl, rfl, rfl, rfl, rfl, rfl, fun ready => ⟨ready, settled here rfl⟩, id,
        fun reading => absurd (here.symm.trans reading) (by simp), by rw [here]; rfl, [],
        by simp, by simp⟩

end DbWorker

end PalCrosschat
