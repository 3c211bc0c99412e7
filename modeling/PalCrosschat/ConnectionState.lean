import PalCrosschat.ReconnectBackoff
import PalCrosschat.WorkerSteps

/-! # The connection of the database thread

The thread knows by three flags what it may use: the handle, `m_connected` and
`cursor_ready`. Every failure exit resets them one by one. Here `Connect` and
`PrepareStatements` are followed call by call, and the flags through every run. -/

namespace PalCrosschat

/-! ## `Connect` and `PrepareStatements`, call by call -/

/-- What a `MYSQL_STMT*` points to. -/
inductive StatementPointer
  | null
  /-- A result of `mysql_stmt_init`. -/
  | initialised (handle : Nat)
  | prepared (handle : Nat)
deriving DecidableEq, Repr

/-- What the calls of one attempt report. -/
structure ConnectCalls where
  init : Bool
  connects : Bool
  initialises : Statement → Bool
  prepares : Statement → Bool

def ConnectCalls.Succeed (calls : ConnectCalls) : Prop :=
  calls.init = true ∧ calls.connects = true ∧ (∀ statement, calls.initialises statement = true) ∧
    ∀ statement, calls.prepares statement = true

/-- The eight pointers of `MysqlConnection`. -/
structure MysqlPointers where
  mysql : Option Nat := none
  statements : Statement → StatementPointer := fun _ => .null
  nextHandle : Nat := 0

/-- The order of the calls in `PrepareStatements`. -/
def Statement.all : List Statement :=
  [.insert, .select, .cursorUpsert, .maxId, .linkLookup, .linkConflict, .linkComplete]

theorem Statement.mem_all (statement : Statement) : statement ∈ all := by
  cases statement <;> decide

theorem Statement.all_all {holds : Statement → Bool} :
    all.all holds = true ↔ ∀ statement, holds statement = true := by
  rw [List.all_eq_true]
  exact ⟨fun each statement => each statement statement.mem_all, fun each statement _ =>
    each statement⟩

namespace MysqlPointers

def freeStmts (conn : MysqlPointers) : MysqlPointers := { conn with statements := fun _ => .null }

def close (conn : MysqlPointers) : MysqlPointers := { conn.freeStmts with mysql := none }

def connect (conn : MysqlPointers) (calls : ConnectCalls) : Bool × MysqlPointers :=
  let conn := conn.close
  if calls.init then
    (calls.connects,
      { conn with mysql := some conn.nextHandle, nextHandle := conn.nextHandle + 1 })
  else
    (false, conn)

/-- A failed `mysql_stmt_init` frees all statements, the first failed
`mysql_stmt_prepare` leaves them to the caller. -/
def prepareStatements (conn : MysqlPointers) (calls : ConnectCalls) : Bool × MysqlPointers :=
  let conn :=
    { conn.freeStmts with
      statements := fun statement =>
        if calls.initialises statement then conn.mysql.elim .null .initialised else .null }
  if Statement.all.all fun statement => conn.statements statement != .null then
    let done := Statement.all.takeWhile calls.prepares
    (Statement.all.all calls.prepares,
      { conn with
        statements := fun statement =>
          if statement ∈ done then conn.mysql.elim .null .prepared else conn.statements statement })
  else
    (false, conn.freeStmts)

/-- The calls of `ensure_connected` without an open connection. -/
def attempt (conn : MysqlPointers) (calls : ConnectCalls) : ConnectOutcome × MysqlPointers :=
  let (connected, conn) := conn.connect calls
  if connected then
    let (prepared, conn) := conn.prepareStatements calls
    if prepared then (.ready, conn) else (.prepareFailed, conn.close)
  else
    (if calls.init then .refused else .initFailed, conn)

end MysqlPointers

namespace MysqlConnection

def pointers (conn : MysqlConnection) : MysqlPointers where
  mysql := conn.handle
  statements := fun statement => (conn.statements statement).elim .null .prepared
  nextHandle := conn.nextHandle

def attempted (conn : MysqlConnection) : ConnectOutcome → MysqlConnection
  | .initFailed => conn.close
  | .refused => conn.init
  | .prepareFailed => conn.init.close
  | .ready => conn.init.prepareStatements

def Complete (conn : MysqlConnection) : Prop :=
  ∃ handle, conn.pointers.mysql = some handle ∧
    ∀ statement, conn.pointers.statements statement = .prepared handle

theorem init_pointers (conn : MysqlConnection) {calls : ConnectCalls} (init : calls.init = true) :
    conn.pointers.connect calls = (calls.connects, conn.init.pointers) := by
  rw [MysqlPointers.connect, init]
  rfl

theorem close_prepareStatements (conn : MysqlPointers) (calls : ConnectCalls) :
    (conn.prepareStatements calls).2.close = conn.close := by
  unfold MysqlPointers.prepareStatements
  dsimp only
  split
  · rfl
  · rfl

/-- `PrepareStatements` on an open handle is done when all statements are prepared on it. -/
theorem prepareStatements_true {conn : MysqlPointers} {handle : Nat}
    (opened : conn.mysql = some handle) {calls : ConnectCalls}
    (initialises : ∀ statement, calls.initialises statement = true)
    (prepares : ∀ statement, calls.prepares statement = true) :
    conn.prepareStatements calls =
      (true, { conn with statements := fun _ => .prepared handle }) := by
  have done : Statement.all.takeWhile calls.prepares = Statement.all :=
    List.takeWhile_eq_self_iff.mpr fun statement _ => prepares statement
  unfold MysqlPointers.prepareStatements
  dsimp only [MysqlPointers.freeStmts]
  rw [if_pos, done, Statement.all_all.mpr prepares, opened]
  · simp [Statement.mem_all]
  · rw [Statement.all_all]
    intro statement
    rw [initialises, if_pos rfl, opened]
    rfl

theorem prepareStatements_false {conn : MysqlPointers} {calls : ConnectCalls}
    (fails : ¬((∀ statement, calls.initialises statement = true) ∧
      ∀ statement, calls.prepares statement = true)) :
    (conn.prepareStatements calls).1 = false := by
  rw [Bool.eq_false_iff]
  intro prepared
  apply fails
  unfold MysqlPointers.prepareStatements at prepared
  dsimp only [MysqlPointers.freeStmts] at prepared
  split at prepared
  · rename_i initialised
    refine ⟨fun statement => ?_, Statement.all_all.mp prepared⟩
    by_contra failed
    have isNull := Statement.all_all.mp initialised statement
    rw [if_neg failed] at isNull
    exact absurd isNull (by decide)
  · cases prepared

/-- An attempt has one of four ends, whichever of its calls fails. -/
theorem attempt_pointers (conn : MysqlConnection) (calls : ConnectCalls) :
    ∃ outcome, conn.pointers.attempt calls = (outcome, (conn.attempted outcome).pointers) ∧
      (outcome = .ready ↔ calls.Succeed) := by
  unfold MysqlPointers.attempt
  cases init : calls.init with
  | false =>
      refine ⟨.initFailed, ?_, by simp [ConnectCalls.Succeed, init]⟩
      have closed : conn.pointers.connect calls = (false, conn.close.pointers) := by
        rw [MysqlPointers.connect, init]
        rfl
      rw [closed]
      rfl
  | true =>
      rw [init_pointers conn init]
      cases connects : calls.connects with
      | false => exact ⟨.refused, rfl, by simp [ConnectCalls.Succeed, connects]⟩
      | true =>
          dsimp only
          rw [if_pos rfl]
          by_cases prepared : (∀ statement, calls.initialises statement = true) ∧
              ∀ statement, calls.prepares statement = true
          · refine ⟨.ready, ?_, by simp [ConnectCalls.Succeed, init, connects, prepared]⟩
            rw [@prepareStatements_true _ conn.nextHandle rfl _ prepared.1 prepared.2]
            rfl
          · refine ⟨.prepareFailed, ?_, ?_⟩
            · rw [prepareStatements_false prepared, if_neg (by decide), close_prepareStatements]
              rfl
            · simpa [ConnectCalls.Succeed, init, connects] using prepared

end MysqlConnection

/-- An attempt of `ensure_connected` is all or nothing, whichever of its calls fails: it leaves
the pointers of its calls, with all statements prepared on the new handle or none left. -/
theorem DbWorker.ensureConnected_attempt (state : DbState) (calls : ConnectCalls)
    (closed : (state.worker.conn.handle.isSome && state.worker.connected) = false) :
    let attempt := state.worker.conn.pointers.attempt calls
    let after := (ensureConnected state attempt.1).worker
    after.conn.pointers = attempt.2 ∧
    (after.connected = true ↔ calls.Succeed) ∧
    (calls.Succeed → attempt.2.mysql = some state.worker.conn.nextHandle ∧
      ∀ statement, attempt.2.statements statement = .prepared state.worker.conn.nextHandle) ∧
    (¬calls.Succeed → ∀ statement, attempt.2.statements statement = .null) := by
  intro attempt after
  rcases state.worker.conn.attempt_pointers calls with ⟨outcome, ended, ready⟩
  have left : (ensureConnected state outcome).worker.conn = state.worker.conn.attempted outcome ∧
      ((ensureConnected state outcome).worker.connected = true ↔ outcome = .ready) := by
    unfold ensureConnected
    rw [closed]
    cases outcome <;> exact ⟨rfl, by simp [connectFailed, afterConnect, startBackoff, goTo, note]⟩
  simp only [attempt, after, ended]
  rw [left.1, left.2, ← ready]
  refine ⟨rfl, Iff.rfl, ?_, ?_⟩
  · rintro rfl
    exact ⟨rfl, fun _ => rfl⟩
  · intro failed
    cases outcome with
    | ready => exact absurd rfl failed
    | _ => exact fun _ => rfl

/-- Calls of which only the sixth `mysql_stmt_prepare` fails. -/
def lateFailure : ConnectCalls where
  init := true
  connects := true
  initialises _ := true
  prepares statement := statement != .linkConflict

/-- The five statements that were prepared before the failure are closed again. -/
theorem ensureConnected_attempt_late :
    lateFailure.prepares .linkLookup = true ∧
      ∀ statement, (({} : Worker).conn.pointers.attempt lateFailure).2.statements statement =
        .null := by
  refine ⟨rfl, (DbWorker.ensureConnected_attempt {} lateFailure rfl).2.2.2 ?_⟩
  rintro ⟨-, -, -, prepares⟩
  exact absurd (prepares .linkConflict) (by decide)

/-! ## What a step does to the flags -/

def Control.statement? : Control → Option Statement
  | .readMaxId => some .maxId
  | .upsertCursor _ | .updatingCursor _ _ => some .cursorUpsert
  | .linkConflict _ => some .linkConflict
  | .linkLookup _ => some .linkLookup
  | .linkComplete _ => some .linkComplete
  | .inserting _ => some .insert
  | .selecting _ | .fetching _ => some .select
  | _ => none

theorem Control.inPass_of_statement {control : Control} {statement : Statement}
    (used : control.statement? = some statement) : control.inPass = true := by
  cases control with
  | loopHead | backoff | stopped => cases used
  | _ => rfl

namespace DbWorker

structure SameFlags (worker after : Worker) : Prop where
  conn : after.conn = worker.conn
  connected : after.connected = worker.connected
  cursorReady : after.cursorReady = worker.cursorReady

theorem WalksOn.sameFlags {worker after : Worker} (walks : WalksOn worker after) :
    SameFlags worker after := by
  cases walks with
  | goesTo control journal inPass => exact ⟨rfl, rfl, rfl⟩

inductive FlagStep (input : WorkerInput) (worker after : Worker) : Prop
  /-- On with the pass. Nothing leads past `init_cursor` but a ready cursor. -/
  | onward (opened : worker.control.inPass = true ∨ worker.control = .loopHead ∧
        (worker.conn.handle.isSome && worker.connected) = true)
      (same : SameFlags worker after)
      (past : after.control.pastCursorInit = true →
        worker.control.pastCursorInit = true ∨ worker.cursorReady = true)
      (running : after.control.inPass = true)
  | armed (maxId : Nat) (control : worker.control = .upsertCursor maxId) (ok : input.ok = true)
      (conn : after.conn = worker.conn) (connected : after.connected = worker.connected)
      (cursorReady : after.cursorReady = true) (running : after.control.inPass = true)
  | connected (control : worker.control = .loopHead)
      (closed : (worker.conn.handle.isSome && worker.connected) = false)
      (conn : after.conn = worker.conn.attempted .ready) (connected : after.connected = true)
      (cursorReady : after.cursorReady = worker.cursorReady)
      (past : after.control.pastCursorInit = true → worker.cursorReady = true)
      (running : after.control.inPass = true)
  | failed (control : after.control = .backoff) (connected : after.connected = false)
      (cursorReady : after.cursorReady = false)
  | rested (asleep : worker.control.asleep = true) (control : after.control = .loopHead)
      (same : SameFlags worker after)
  | stopped (control : after.control = .stopped) (connected : after.connected = false)
  | halted (same : after = worker)

section Pieces

variable {state : DbState} {input : WorkerInput}

/-- The successful end of `ensure_connected`. -/
theorem afterConnect_inPass : (afterConnect state).worker.control.inPass = true := by
  unfold afterConnect goTo
  cases state.worker.cursorReady <;> rfl

theorem afterConnect_past
    (past : (afterConnect state).worker.control.pastCursorInit = true) :
    state.worker.cursorReady = true := by
  unfold afterConnect goTo at past
  cases ready : state.worker.cursorReady with
  | true => rfl
  | false =>
      rw [ready] at past
      cases past

theorem flagStep_ensureConnected (control : state.worker.control = .loopHead) :
    FlagStep input state.worker (ensureConnected state input.connect).worker := by
  unfold ensureConnected
  by_cases opened : (state.worker.conn.handle.isSome && state.worker.connected) = true
  · rw [if_pos opened]
    exact .onward (Or.inr ⟨control, opened⟩) ⟨rfl, rfl, rfl⟩
      (fun past => Or.inr (afterConnect_past past)) afterConnect_inPass
  · rw [if_neg opened]
    cases input.connect with
    | initFailed => exact .failed rfl rfl rfl
    | refused => exact .failed rfl rfl rfl
    | prepareFailed => exact .failed rfl rfl rfl
    | ready =>
        refine .connected control (Bool.eq_false_iff.mpr opened) rfl rfl rfl ?_
          afterConnect_inPass
        exact fun past => afterConnect_past past

end Pieces

theorem flagStep (config : Config) (state : DbState) (input : WorkerInput) :
    FlagStep input state.worker (step config state input).worker := by
  -- A step inside a pass that touches no flag.
  have onward {control : Control} {after : Worker} (here : state.worker.control = control)
      (inPass : control.inPass = true) (same : SameFlags state.worker after)
      (past : after.control.pastCursorInit = true → control.pastCursorInit = true)
      (running : after.control.inPass = true) : FlagStep input state.worker after := by
    rw [← here] at inPass past
    exact .onward (Or.inl inPass) same (fun inside => Or.inl (past inside)) running
  have walksOn {control : Control} {after : Worker} (here : state.worker.control = control)
      (inPass : control.inPass = true) (past : control.pastCursorInit = true)
      (walks : WalksOn state.worker after) : FlagStep input state.worker after :=
    onward here inPass walks.sameFlags (fun _ => past) walks.onward.inPass
  cases here : state.worker.control with
  | loopHead =>
      simp only [step, here]
      split
      · exact .stopped rfl rfl
      · exact flagStep_ensureConnected here
  | readMaxId =>
      simp only [step, here]
      split
      · exact onward here rfl ⟨rfl, rfl, rfl⟩ (fun past => absurd past Bool.false_ne_true) rfl
      · exact .failed rfl rfl rfl
  | upsertCursor maxId =>
      simp only [step, here]
      split
      · rename_i ok
        exact .armed maxId here ok rfl rfl rfl rfl
      · exact .failed rfl rfl rfl
  | drainLinks =>
      simp only [step, here]
      split
      · exact walksOn here rfl rfl (walksOn_goTo rfl)
      · split
        · exact walksOn here rfl rfl (walksOn_goTo rfl)
        · rename_i job linkJobs popped
          have begun : WalksOn state.worker (beginLink { state with linkJobs } job).worker :=
            @walksOn_beginLink { state with linkJobs } job
          exact walksOn here rfl rfl begun
  | linkConflict job =>
      simp only [step, here]
      exact walksOn here rfl rfl (walksOn_linkConflict job _)
  | linkLookup job =>
      simp only [step, here]
      exact walksOn here rfl rfl (walksOn_linkLookup job _)
  | linkComplete job =>
      simp only [step, here]
      exact walksOn here rfl rfl (walksOn_linkComplete job _)
  | drainOutbound =>
      simp only [step, here]
      split
      · exact walksOn here rfl rfl (walksOn_goTo rfl)
      · split
        · exact walksOn here rfl rfl (walksOn_goTo rfl)
        · exact onward here rfl ⟨rfl, rfl, rfl⟩ (fun _ => rfl) rfl
  | inserting item =>
      simp only [step, here]
      split
      · exact onward here rfl ⟨rfl, rfl, rfl⟩ (fun _ => rfl) rfl
      · exact .failed rfl rfl rfl
  | pollCheck =>
      simp only [step, here]
      split
      · exact walksOn here rfl rfl (walksOn_goTo rfl)
      · exact onward here rfl ⟨rfl, rfl, rfl⟩ (fun past => absurd past Bool.false_ne_true) rfl
  | selecting now =>
      simp only [step, here]
      split
      · exact onward here rfl ⟨rfl, rfl, rfl⟩ (fun _ => rfl) rfl
      · exact .failed rfl rfl rfl
  | fetching batch =>
      simp only [step, here]
      split
      · split
        · exact onward here rfl ⟨rfl, rfl, rfl⟩ (fun past => absurd past Bool.false_ne_true) rfl
        · exact onward here rfl ⟨rfl, rfl, rfl⟩ (fun _ => rfl) rfl
      · exact .failed rfl rfl rfl
  | updatingCursor id batch =>
      simp only [step, here]
      split
      · exact onward here rfl ⟨rfl, rfl, rfl⟩ (fun _ => rfl) rfl
      · exact .failed rfl rfl rfl
  | backoff =>
      simp only [step, here]
      split
      · exact .stopped rfl rfl
      · exact .rested (by rw [here]; rfl) rfl ⟨rfl, rfl, rfl⟩
  | idle =>
      simp only [step, here]
      split
      · exact .stopped rfl rfl
      · exact .rested (by rw [here]; rfl) rfl ⟨rfl, rfl, rfl⟩
  | stopped =>
      simp only [step, here]
      exact .halted rfl

/-! ## The invariant -/

/-- What the flags promise. A stopped thread has closed the connection and uses nothing. -/
structure FlagsSound (worker : Worker) : Prop where
  opened : worker.connected = true → worker.conn.Complete
  inPass : worker.control.inPass = true → worker.connected = true
  ready : worker.control ≠ .stopped → worker.cursorReady = true → worker.connected = true
  armed : worker.control.pastCursorInit = true → worker.cursorReady = true

section Sound

variable {input : WorkerInput} {worker after : Worker}

theorem flagsSound_closed (connected : after.connected = false)
    (outside : after.control.inPass = false) (past : after.control.pastCursorInit = false)
    (ready : after.control ≠ .stopped → after.cursorReady = false) : FlagsSound after where
  opened opened := by
    rw [connected] at opened
    cases opened
  inPass inside := by
    rw [outside] at inside
    cases inside
  ready running isReady := by
    rw [ready running] at isReady
    cases isReady
  armed inside := by
    rw [past] at inside
    cases inside

theorem FlagsSound.ready_of_inPass (sound : FlagsSound worker)
    (opened : worker.control.inPass = true ∨ worker.control = .loopHead ∧
      (worker.conn.handle.isSome && worker.connected) = true) : worker.connected = true := by
  rcases opened with inside | ⟨-, both⟩
  · exact sound.inPass inside
  · exact (Bool.and_eq_true_iff.mp both).2

theorem FlagsSound.not_ready (sound : FlagsSound worker) (control : worker.control = .loopHead)
    (closed : (worker.conn.handle.isSome && worker.connected) = false) :
    worker.cursorReady = false := by
  by_contra ready
  have running : worker.control ≠ .stopped := by
    rw [control]
    nofun
  have connected := sound.ready running (Bool.eq_true_of_not_eq_false ready)
  rcases sound.opened connected with ⟨handle, opened, -⟩
  have isSome : worker.conn.handle.isSome = true := Option.isSome_of_eq_some opened
  rw [isSome, connected] at closed
  cases closed

theorem FlagsSound.step (sound : FlagsSound worker) (step : FlagStep input worker after) :
    FlagsSound after := by
  cases step with
  | onward opened same past running =>
      have connected : after.connected = true := by
        rw [same.connected]
        exact sound.ready_of_inPass opened
      constructor
      · intro isConnected
        rw [same.connected] at isConnected
        rw [same.conn]
        exact sound.opened isConnected
      · exact fun _ => connected
      · exact fun _ _ => connected
      · intro inside
        rw [same.cursorReady]
        rcases past inside with before | ready
        · exact sound.armed before
        · exact ready
  | armed maxId control ok conn connected cursorReady running =>
      have inside : worker.connected = true := by
        apply sound.inPass
        rw [control]
        rfl
      constructor
      · intro _
        rw [conn]
        exact sound.opened inside
      · exact fun _ => connected.trans inside
      · exact fun _ _ => connected.trans inside
      · exact fun _ => cursorReady
  | connected control closed conn connected cursorReady past running =>
      constructor
      · intro _
        rw [conn]
        exact ⟨worker.conn.nextHandle, rfl, fun _ => rfl⟩
      · exact fun _ => connected
      · exact fun _ _ => connected
      · exact fun inside => cursorReady.trans (past inside)
  | failed control connected cursorReady =>
      apply flagsSound_closed connected
      · rw [control]
        rfl
      · rw [control]
        rfl
      · exact fun _ => cursorReady
  | rested asleep control same =>
      have running : worker.control ≠ .stopped := by
        intro stopped
        rw [stopped] at asleep
        cases asleep
      constructor
      · intro isConnected
        rw [same.connected] at isConnected
        rw [same.conn]
        exact sound.opened isConnected
      · intro inside
        rw [control] at inside
        cases inside
      · intro _ isReady
        rw [same.cursorReady] at isReady
        rw [same.connected]
        exact sound.ready running isReady
      · intro inside
        rw [control] at inside
        cases inside
  | stopped control connected =>
      apply flagsSound_closed connected
      · rw [control]
        rfl
      · rw [control]
        rfl
      · exact fun running => absurd control running
  | halted same =>
      rw [same]
      exact sound

end Sound

end DbWorker

/-! ## Runs -/

namespace World

section Runs

variable (engine : Engine) (config : Config) (initial : World)

/-- `init_cursor` succeeded in the run on this connection. -/
def CursorInitialised (inputs : List WorldInput) (conn : MysqlConnection) : Prop :=
  ∃ front input rest maxId, inputs = front ++ .worker input :: rest ∧ input.ok = true ∧
    (run engine config initial front).worker.control = .upsertCursor maxId ∧
      (run engine config initial front).worker.conn = conn

variable {engine config initial}

theorem CursorInitialised.snoc {inputs : List WorldInput} {conn : MysqlConnection}
    (initialised : CursorInitialised engine config initial inputs conn) (last : WorldInput) :
    CursorInitialised engine config initial (inputs ++ [last]) conn := by
  rcases initialised with ⟨front, input, rest, maxId, rfl, ok, control, same⟩
  exact ⟨front, input, rest ++ [last], maxId, by simp, ok, control, same⟩

/-- The flags are sound, and a ready cursor was initialised on the connection it is used on. -/
structure ConnectionAccounts (engine : Engine) (config : Config) (initial : World)
    (inputs : List WorldInput) (world : World) : Prop where
  flags : DbWorker.FlagsSound world.worker
  cursor : world.worker.control ≠ .stopped → world.worker.cursorReady = true →
    CursorInitialised engine config initial inputs world.worker.conn

theorem ConnectionAccounts.step {past : List WorldInput}
    (accounts : ConnectionAccounts engine config initial past (run engine config initial past))
    (input : WorldInput) :
    ConnectionAccounts engine config initial (past ++ [input])
      ((run engine config initial past).step engine config input) := by
  generalize reached : run engine config initial past = world at accounts ⊢
  cases input with
  | worker input =>
      have step := DbWorker.flagStep config world.dbState input
      refine ⟨accounts.flags.step step, ?_⟩
      change (DbWorker.step config world.dbState input).worker.control ≠ .stopped →
        (DbWorker.step config world.dbState input).worker.cursorReady = true →
          CursorInitialised engine config initial _
            (DbWorker.step config world.dbState input).worker.conn
      intro running ready
      cases step with
      | onward opened same past running =>
          rw [same.cursorReady] at ready
          rw [same.conn]
          refine (accounts.cursor ?_ ready).snoc _
          rcases opened with inside | ⟨control, -⟩
          · intro stopped
            change world.worker.control.inPass = true at inside
            rw [stopped] at inside
            cases inside
          · exact fun stopped => by cases control.symm.trans stopped
      | armed maxId control ok conn connected cursorReady running =>
          rw [conn, ← reached]
          rw [← reached] at control
          exact ⟨past, input, [], maxId, rfl, ok, control, rfl⟩
      | connected control closed conn connected cursorReady past running =>
          have notReady := accounts.flags.not_ready control closed
          exact absurd (notReady.symm.trans (cursorReady.symm.trans ready)) Bool.false_ne_true
      | failed control connected cursorReady =>
          rw [cursorReady] at ready
          cases ready
      | rested asleep control same =>
          rw [same.cursorReady] at ready
          rw [same.conn]
          refine (accounts.cursor ?_ ready).snoc _
          intro stopped
          change world.worker.control.asleep = true at asleep
          rw [stopped] at asleep
          cases asleep
      | stopped control connected => exact absurd control running
      | halted same =>
          rw [same] at running ready ⊢
          exact (accounts.cursor running ready).snoc _
  | _ =>
      exact ⟨accounts.flags, fun running ready => (accounts.cursor running ready).snoc _⟩

theorem connectionAccounts (compile : RegexCompiler) (startedAt : Nanoseconds)
    (players : List PlayerRow) (inputs : List WorldInput) :
    ConnectionAccounts engine config (.initial compile config startedAt players) inputs
      (run engine config (.initial compile config startedAt players) inputs) := by
  have fresh : ConnectionAccounts engine config (.initial compile config startedAt players) []
      (.initial compile config startedAt players) :=
    ⟨DbWorker.flagsSound_closed rfl rfl rfl fun _ => rfl,
      fun _ ready => absurd ready Bool.false_ne_true⟩
  exact Execution.run_history_invariant
    (ConnectionAccounts engine config (.initial compile config startedAt players)) fresh
    (fun past input accounts => accounts.step input) inputs

end Runs

/-- What the thread relies on, after any run. -/
structure ConnectionUsable (engine : Engine) (config : Config) (initial : World)
    (inputs : List WorldInput) (worker : Worker) : Prop where
  /-- A statement is used with an open handle and all statements prepared on it. -/
  statements : ∀ statement, worker.control.statement? = some statement → worker.conn.Complete
  /-- Link jobs, INSERTs and polls come after `init_cursor` on the same connection. -/
  cursor : ∀ statement, worker.control.statement? = some statement →
    worker.control.pastCursorInit = true →
      CursorInitialised engine config initial inputs worker.conn
  loopHead : worker.control = .loopHead →
    (worker.cursorReady = true → worker.connected = true) ∧
      (worker.connected = true → worker.conn.Complete)

/-- In every run, with failures at any call, a statement is used only on the open
connection it was prepared on. -/
theorem connectionUsable (engine : Engine) (config : Config) (compile : RegexCompiler)
    (startedAt : Nanoseconds) (players : List PlayerRow) (inputs : List WorldInput) :
    ConnectionUsable engine config (.initial compile config startedAt players) inputs
      (run engine config (.initial compile config startedAt players) inputs).worker := by
  have accounts : ConnectionAccounts engine config (.initial compile config startedAt players)
      inputs (run engine config (.initial compile config startedAt players) inputs) :=
    connectionAccounts compile startedAt players inputs
  have flags := accounts.flags
  constructor
  · intro statement used
    exact flags.opened (flags.inPass (Control.inPass_of_statement used))
  · intro statement used past
    apply accounts.cursor _ (flags.armed past)
    intro stopped
    rw [stopped] at used
    cases used
  · intro control
    refine ⟨flags.ready ?_, flags.opened⟩
    rw [control]
    nofun

end World

end PalCrosschat
