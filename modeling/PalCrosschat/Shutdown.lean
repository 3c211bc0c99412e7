import PalCrosschat.ConnectionState
import PalCrosschat.InboundCursor
import PalCrosschat.LinkSteps
import PalCrosschat.OutboundRetry

/-! # Stopping the database thread

`Stop` requests a stop and joins the thread. Every loop of the thread looks at the stop
token, so what is left to do is the statement at hand and, at worst, the rest of one poll.
Nothing new is taken from a queue meanwhile. -/

namespace PalCrosschat

/-! ## What is left of an iteration -/

def Control.stepsLeft (maxBatch : Nat) : Control → Nat
  | .stopped => 0
  | .loopHead | .backoff | .idle => 1
  | .fetching batch => 2 * batch.rows.length + 2
  | .updatingCursor _ batch => 2 * batch.rows.length + 3
  | .selecting _ => 2 * maxBatch + 3
  | .pollCheck => 2 * maxBatch + 4
  | .drainOutbound => 2 * maxBatch + 5
  | .inserting _ | .drainLinks => 2 * maxBatch + 6
  | .linkComplete _ | .upsertCursor _ => 2 * maxBatch + 7
  | .linkLookup _ | .readMaxId => 2 * maxBatch + 8
  | .linkConflict _ => 2 * maxBatch + 9

def Config.stopLimit (config : Config) : Nat := 2 * config.maxBatch.toNat + 9

/-- The thread takes nothing new: it stores and answers at most what it holds. -/
structure WindsDown (before after : Worker) : Prop where
  stored : ∃ kept : List OutboundMessage,
    (storedMessages after.journal).map Prod.fst =
      (storedMessages before.journal).map Prod.fst ++ kept ∧
    (kept ++ after.control.heldMessage.toList).Sublist before.control.heldMessage.toList
  answered : ∃ done : List LinkJob,
    (linkAnswers after.journal).map Prod.fst =
      (linkAnswers before.journal).map Prod.fst ++ done ∧
    (done ++ after.control.linkJob.toList).Sublist before.control.linkJob.toList

namespace WindsDown

theorem refl (worker : Worker) : WindsDown worker worker :=
  ⟨⟨[], (List.append_nil _).symm, List.Sublist.refl _⟩,
    ⟨[], (List.append_nil _).symm, List.Sublist.refl _⟩⟩

theorem trans {first second third : Worker} (early : WindsDown first second)
    (late : WindsDown second third) : WindsDown first third := by
  constructor
  · rcases early.stored with ⟨kept, stored, fewer⟩
    rcases late.stored with ⟨more, storedLater, fewerLater⟩
    refine ⟨kept ++ more, by rw [storedLater, stored, List.append_assoc], ?_⟩
    rw [List.append_assoc]
    exact (fewerLater.append_left kept).trans fewer
  · rcases early.answered with ⟨done, answered, fewer⟩
    rcases late.answered with ⟨more, answeredLater, fewerLater⟩
    refine ⟨done ++ more, by rw [answeredLater, answered, List.append_assoc], ?_⟩
    rw [List.append_assoc]
    exact (fewerLater.append_left done).trans fewer

end WindsDown

/-- The step takes nothing out of a queue; it may put the message at hand back. -/
structure TakesNothing (before after : DbState) : Prop where
  outbound : after.outbound = before.outbound ∨
    ∃ item, before.worker.control = .inserting item ∧
      after.outbound = before.outbound.push item
  linkJobs : after.linkJobs = before.linkJobs

namespace DbWorker

section Stopping

variable {config : Config} {state : DbState} {input : WorkerInput}

/-- No message is taken out of the outbound queue. -/
theorem stored_of_stop (stop : input.stopRequested = true) :
    ∃ kept : List OutboundMessage,
      (storedMessages (step config state input).worker.journal).map Prod.fst =
        (storedMessages state.worker.journal).map Prod.fst ++ kept ∧
      (kept ++ (step config state input).worker.control.heldMessage.toList).Sublist
        state.worker.control.heldMessage.toList := by
  have stays {after : DbState} (held : after.worker.control.heldMessage = none)
      (stored : storedMessages after.worker.journal = storedMessages state.worker.journal) :
      ∃ kept : List OutboundMessage,
        (storedMessages after.worker.journal).map Prod.fst =
          (storedMessages state.worker.journal).map Prod.fst ++ kept ∧
        (kept ++ after.worker.control.heldMessage.toList).Sublist
          state.worker.control.heldMessage.toList := by
    refine ⟨[], by rw [stored, List.append_nil], ?_⟩
    rw [held]
    exact List.nil_sublist _
  have silent {event : WorkerEvent} (other : event.stored = none) :
      storedMessages (state.worker.journal ++ [event]) = storedMessages state.worker.journal := by
    rw [storedMessages_append, storedMessages, storedMessages, List.filterMap_cons_none other,
      List.filterMap_nil, List.append_nil]
  by_cases draining : state.worker.control = .drainOutbound
  · simp only [step, draining, if_pos stop]
    exact ⟨[], (List.append_nil _).symm, List.nil_sublist _⟩
  · have move := step_move config state input
    generalize step config state input = after at move
    cases move with
    | quiet quiet =>
        have unmoved := OutboundWorld.unmoved_of_quiet quiet
        exact stays unmoved.held unmoved.stored
    | readMaxId control => exact stays rfl (silent rfl)
    | armCursor maxId control => exact stays rfl rfl
    | pop item control popped => exact absurd control draining
    | store item control =>
        refine ⟨[item], ?_, ?_⟩
        · change (storedMessages (state.worker.journal ++ _)).map Prod.fst = _
          rw [storedMessages_append, List.map_append]
          rfl
        · rw [control]
          exact List.Sublist.refl _
    | requeue item control => exact stays rfl (silent rfl)
    | select now control => exact stays rfl (silent rfl)
    | fetch batch row rest beyond control rows => exact stays rfl (silent rfl)
    | advance id batch control => exact stays rfl rfl

/-- The turn of a link job: an answer, or the next statement. -/
inductive LinkTurn (worker : Worker) (job : LinkJob) (after : Worker) : Prop
  | answered (control : after.control = .drainLinks) (result : LinkResult)
      (journal : after.journal = worker.journal ++ [.linkAnswered job result])
  | goesOn (holding : after.control.linkJob = some job) (message : after.control.heldMessage = none)
      (journal : after.journal = worker.journal)

theorem linkTurn_linkConflict (job : LinkJob) (fault : LinkFault) :
    LinkTurn state.worker job (linkConflict state job fault).worker := by
  unfold linkConflict
  split
  · exact .answered rfl _ rfl
  · split
    · exact .answered rfl _ rfl
    · exact .goesOn rfl rfl rfl

theorem linkTurn_linkLookup (job : LinkJob) (fault : LinkFault) :
    LinkTurn state.worker job (linkLookup state job fault).worker := by
  unfold linkLookup
  split
  · exact .answered rfl _ rfl
  · split
    · exact .answered rfl _ rfl
    · exact .answered rfl _ rfl
    · exact .goesOn rfl rfl rfl
    · exact .goesOn rfl rfl rfl

theorem linkTurn_linkComplete (job : LinkJob) (fault : LinkFault) :
    LinkTurn state.worker job (linkComplete state job fault).worker := by
  unfold linkComplete
  split
  · exact .answered rfl _ rfl
  · dsimp only
    split
    · exact .answered rfl _ rfl
    · exact .answered rfl _ rfl

theorem LinkTurn.answers {worker after : Worker} {job : LinkJob} (turn : LinkTurn worker job after)
    (holding : worker.control.linkJob = some job) :
    ∃ done : List LinkJob,
      (linkAnswers after.journal).map Prod.fst =
        (linkAnswers worker.journal).map Prod.fst ++ done ∧
      (done ++ after.control.linkJob.toList).Sublist worker.control.linkJob.toList := by
  cases turn with
  | answered control result journal =>
      refine ⟨[job], ?_, ?_⟩
      · rw [journal, linkAnswers_snoc, List.map_append]
        rfl
      · rw [control, holding]
        exact List.Sublist.refl _
  | goesOn stillHolding message journal =>
      refine ⟨[], by rw [journal, List.append_nil], ?_⟩
      rw [stillHolding, holding]
      exact List.Sublist.refl _

/-- No link job is taken out of its queue. -/
theorem answered_of_stop (stop : input.stopRequested = true) :
    ∃ done : List LinkJob,
      (linkAnswers (step config state input).worker.journal).map Prod.fst =
        (linkAnswers state.worker.journal).map Prod.fst ++ done ∧
      (done ++ (step config state input).worker.control.linkJob.toList).Sublist
        state.worker.control.linkJob.toList := by
  have elsewhere (idle : state.worker.control.linkJob = none)
      (away : state.worker.control ≠ .drainLinks) :
      ∃ done : List LinkJob,
        (linkAnswers (step config state input).worker.journal).map Prod.fst =
          (linkAnswers state.worker.journal).map Prod.fst ++ done ∧
        (done ++ (step config state input).worker.control.linkJob.toList).Sublist
          state.worker.control.linkJob.toList := by
    have moved := step_elsewhere config input idle away
    refine ⟨[], by rw [moved.answers, List.append_nil], ?_⟩
    rw [moved.free]
    exact List.nil_sublist _
  cases control : state.worker.control with
  | drainLinks =>
      simp only [step, control, if_pos stop]
      exact ⟨[], (List.append_nil _).symm, List.nil_sublist _⟩
  | linkConflict job =>
      have holding : state.worker.control.linkJob = some job := by rw [control]; rfl
      simp only [step, control]
      rw [← control]
      exact (linkTurn_linkConflict job _).answers holding
  | linkLookup job =>
      have holding : state.worker.control.linkJob = some job := by rw [control]; rfl
      simp only [step, control]
      rw [← control]
      exact (linkTurn_linkLookup job _).answers holding
  | linkComplete job =>
      have holding : state.worker.control.linkJob = some job := by rw [control]; rfl
      simp only [step, control]
      rw [← control]
      exact (linkTurn_linkComplete job _).answers holding
  | _ =>
      rw [← control]
      exact elsewhere (by rw [control]; rfl) (by simp [control])

theorem windsDown_step (stop : input.stopRequested = true) :
    WindsDown state.worker (step config state input).worker :=
  ⟨stored_of_stop stop, answered_of_stop stop⟩

theorem outbound_of_stop (stop : input.stopRequested = true) :
    (step config state input).outbound = state.outbound ∨
      ∃ item, state.worker.control = .inserting item ∧
        (step config state input).outbound = state.outbound.push item := by
  by_cases draining : state.worker.control = .drainOutbound
  · simp only [step, draining, if_pos stop]
    exact .inl rfl
  · have move := step_move config state input
    generalize step config state input = after at move
    cases move with
    | quiet quiet => exact .inl quiet.outbound
    | pop item control popped => exact absurd control draining
    | requeue item control => exact .inr ⟨item, control, rfl⟩
    | _ => exact .inl rfl

theorem linkJobs_of_stop (stop : input.stopRequested = true) :
    (step config state input).linkJobs = state.linkJobs := by
  cases control : state.worker.control with
  | drainLinks => simp only [step, control, if_pos stop, goTo]
  | linkConflict job =>
      simp only [step, control, linkConflict]
      repeat' split
      all_goals rfl
  | linkLookup job =>
      simp only [step, control, linkLookup]
      repeat' split
      all_goals rfl
  | linkComplete job =>
      simp only [step, control, linkComplete]
      repeat' split
      all_goals rfl
  | _ => exact (step_elsewhere config input (by rw [control]; rfl) (by simp [control])).linkJobs

theorem takesNothing_step (stop : input.stopRequested = true) :
    TakesNothing state (step config state input) :=
  ⟨outbound_of_stop stop, linkJobs_of_stop stop⟩

section StepsLeft

variable (maxBatch : Nat)

@[simp] theorem control_goTo (control : Control) :
    (goTo state control).worker.control = control := rfl

@[simp] theorem control_markFailure : (markFailure state).worker.control = .backoff := rfl

@[simp] theorem control_answerLink (job : LinkJob) (notice : Bytes) :
    (answerLink state job notice).worker.control = .drainLinks := rfl

theorem stepsLeft_linkConflict (job : LinkJob) (fault : LinkFault) :
    (linkConflict state job fault).worker.control.stepsLeft maxBatch ≤ 2 * maxBatch + 8 := by
  unfold linkConflict
  split
  · simp [Control.stepsLeft]
  · split <;> simp [Control.stepsLeft]

theorem stepsLeft_linkLookup (job : LinkJob) (fault : LinkFault) :
    (linkLookup state job fault).worker.control.stepsLeft maxBatch ≤ 2 * maxBatch + 7 := by
  unfold linkLookup
  split
  · simp [Control.stepsLeft]
  · split <;> simp [Control.stepsLeft]

theorem stepsLeft_linkComplete (job : LinkJob) (fault : LinkFault) :
    (linkComplete state job fault).worker.control.stepsLeft maxBatch ≤ 2 * maxBatch + 6 := by
  unfold linkComplete
  split
  · simp [Control.stepsLeft]
  · dsimp only
    split <;> simp [Control.stepsLeft]

end StepsLeft

theorem stepsLeft_step (stop : input.stopRequested = true) :
    (step config state input).worker.control.stepsLeft config.maxBatch.toNat ≤
      state.worker.control.stepsLeft config.maxBatch.toNat - 1 := by
  cases control : state.worker.control with
  | loopHead | backoff | idle =>
      simp only [step, control, if_pos stop]
      exact Nat.le_refl _
  | stopped =>
      simp only [step, control]
      exact Nat.le_refl _
  | drainLinks | drainOutbound =>
      simp only [step, control, if_pos stop, control_goTo, Control.stepsLeft]
      omega
  | linkConflict job =>
      simp only [step, control]
      exact stepsLeft_linkConflict _ job _
  | linkLookup job =>
      simp only [step, control]
      exact stepsLeft_linkLookup _ job _
  | linkComplete job =>
      simp only [step, control]
      exact stepsLeft_linkComplete _ job _
  | selecting now =>
      simp only [step, control]
      split
      · simp only [control_goTo, Control.stepsLeft, Database.poll, List.length_take]
        omega
      · simp only [control_markFailure, Control.stepsLeft]
        omega
  | fetching batch =>
      simp only [step, control]
      split
      · split
        · simp only [control_goTo, Control.stepsLeft]
          omega
        · rename_i row rest rows
          simp only [fetchRow, control_goTo, Control.stepsLeft, rows, List.length_cons]
          omega
      · simp only [control_markFailure, Control.stepsLeft]
        omega
  | pollCheck =>
      simp only [step, control]
      split <;> simp only [control_goTo, Control.stepsLeft] <;> omega
  | readMaxId | upsertCursor maxId | inserting item | updatingCursor id batch =>
      simp only [step, control]
      split
      · simp only [control_goTo, Control.stepsLeft]
        omega
      · simp only [control_markFailure, Control.stepsLeft]
        omega

theorem stepsLeft_le {control : Control} {maxBatch : Nat}
    (rows : control.rows.length ≤ maxBatch) :
    control.stepsLeft maxBatch ≤ 2 * maxBatch + 9 := by
  cases control with
  | fetching batch | updatingCursor id batch =>
      simp only [Control.rows] at rows
      simp only [Control.stepsLeft]
      omega
  | _ =>
      simp only [Control.stepsLeft]
      omega

/-- A poll fetches at most `max_batch` rows. -/
theorem rows_le_step (rows : state.worker.control.rows.length ≤ config.maxBatch.toNat) :
    (step config state input).worker.control.rows.length ≤ config.maxBatch.toNat := by
  have move := step_move config state input
  generalize step config state input = after at move
  cases move with
  | quiet quiet =>
      have free := quiet.holds
      cases control : after.worker.control with
      | fetching batch | updatingCursor id batch =>
          rw [control] at free
          cases free
      | _ => exact Nat.zero_le _
  | select now control => exact List.length_take_le _ _
  | fetch batch row rest beyond control fetched =>
      rw [control, Control.rows, fetched, List.length_cons] at rows
      exact Nat.le_of_succ_le rows
  | advance id batch control =>
      rw [control] at rows
      exact rows
  | _ => exact Nat.zero_le _

def Closed (worker : Worker) : Prop :=
  worker.control = .stopped → worker.conn.handle = none ∧ worker.connected = false

theorem closed_of_inPass {worker : Worker} (inPass : worker.control.inPass = true) :
    Closed worker := by
  intro stopped
  rw [stopped] at inPass
  cases inPass

theorem closed_ensureConnected (outcome : ConnectOutcome) :
    Closed (ensureConnected state outcome).worker := by
  unfold ensureConnected
  split
  · exact closed_of_inPass afterConnect_inPass
  · cases outcome with
    | ready => exact closed_of_inPass afterConnect_inPass
    | _ => exact fun stopped => by cases stopped

theorem closed_step (closed : Closed state.worker) : Closed (step config state input).worker := by
  cases control : state.worker.control with
  | loopHead =>
      simp only [step, control]
      split
      · exact fun _ => ⟨rfl, rfl⟩
      · exact closed_ensureConnected _
  | backoff | idle =>
      simp only [step, control]
      split
      · exact fun _ => ⟨rfl, rfl⟩
      · exact fun stopped => by cases stopped
  | stopped =>
      simp only [step, control]
      exact closed
  | linkConflict job =>
      simp only [step, control]
      exact closed_of_inPass (walksOn_linkConflict job _).onward.inPass
  | linkLookup job =>
      simp only [step, control]
      exact closed_of_inPass (walksOn_linkLookup job _).onward.inPass
  | linkComplete job =>
      simp only [step, control]
      exact closed_of_inPass (walksOn_linkComplete job _).onward.inPass
  | drainLinks =>
      simp only [step, control]
      split
      · exact closed_of_inPass rfl
      · split
        · exact closed_of_inPass rfl
        · exact closed_of_inPass (walksOn_beginLink _).onward.inPass
  | drainOutbound =>
      simp only [step, control]
      split
      · exact closed_of_inPass rfl
      · split <;> exact closed_of_inPass rfl
  | fetching batch =>
      simp only [step, control]
      split
      · split <;> exact closed_of_inPass rfl
      · exact fun stopped => by cases stopped
  | _ =>
      simp only [step, control]
      split <;> exact fun stopped => by cases stopped

end Stopping

end DbWorker

/-! ## Runs -/

namespace World

def ownTurn : WorldInput → Bool
  | .worker _ => true
  | _ => false

/-- From here on the thread sees the stop request. -/
def StopRequested (inputs : List WorldInput) : Prop :=
  ∀ input, .worker input ∈ inputs → input.stopRequested = true

variable (engine : Engine) (config : Config)

theorem windsDown_run {inputs : List WorldInput} (requested : StopRequested inputs)
    (world : World) : WindsDown world.worker (run engine config world inputs).worker := by
  refine Execution.run_relation_of_mem
    (fun before after : World => WindsDown before.worker after.worker)
    (fun world => .refl world.worker) .trans inputs fun world input member => ?_
  cases input with
  | worker input =>
      exact @DbWorker.windsDown_step config world.dbState input (requested input member)
  | _ => exact .refl world.worker

theorem stepsLeft_run {inputs : List WorldInput} (requested : StopRequested inputs)
    (world : World) :
    (run engine config world inputs).worker.control.stepsLeft config.maxBatch.toNat ≤
      world.worker.control.stepsLeft config.maxBatch.toNat - inputs.countP ownTurn := by
  refine Execution.run_countdown (fun _ => True) (fun world : World =>
    world.worker.control.stepsLeft config.maxBatch.toNat) inputs (fun _ _ _ _ => trivial)
    (fun world _ input member => ?_) trivial
  cases input with
  | worker input =>
      exact @DbWorker.stepsLeft_step config world.dbState input (requested input member)
  | _ => exact Nat.le_refl _

theorem rows_le_run (compile : RegexCompiler) (startedAt : Nanoseconds)
    (players : List PlayerRow) (inputs : List WorldInput) :
    (run engine config (.initial compile config startedAt players)
      inputs).worker.control.rows.length ≤ config.maxBatch.toNat := by
  refine Execution.run_invariant (fun world : World =>
    world.worker.control.rows.length ≤ config.maxBatch.toNat) (fun world input rows => ?_)
    (Nat.zero_le _) inputs
  cases input with
  | worker input => exact @DbWorker.rows_le_step config world.dbState input rows
  | _ => exact rows

theorem closed_run (compile : RegexCompiler) (startedAt : Nanoseconds)
    (players : List PlayerRow) (inputs : List WorldInput) :
    DbWorker.Closed (run engine config (.initial compile config startedAt players)
      inputs).worker := by
  refine Execution.run_invariant (fun world : World => DbWorker.Closed world.worker)
    (fun world input closed => ?_) (fun stopped => by cases stopped) inputs
  cases input with
  | worker input => exact @DbWorker.closed_step config world.dbState input closed
  | _ => exact closed

theorem stopped_of_stepsLeft {control : Control} {maxBatch : Nat}
    (none : control.stepsLeft maxBatch = 0) : control = .stopped := by
  cases control with
  | stopped => rfl
  | _ =>
      simp only [Control.stepsLeft] at none
      omega

end World

end PalCrosschat
