import Mathlib.Data.List.Chain
import PalCrosschat.Foundation.Backoff
import PalCrosschat.World

/-! # The backoff of the database thread

Every failure exit of the main loop doubles one counter, and every successful
connect sets it back to one. A row of failed passes is delayed on the doubling
schedule as long as none of them but the first gets past `ensure_connected`. -/

namespace PalCrosschat

/-! ## Passes through the main loop -/

/-- Where a pass failed. A failed `PrepareStatements` is a failed connect. -/
inductive PassStage
  | connect
  | cursorInit
  | insert
  | poll
deriving DecidableEq, Repr

structure FailedPass where
  stage : PassStage
  /-- The backoff sleep behind the failure. -/
  seconds : Int
deriving DecidableEq, Repr

inductive PassEnd
  | idle
  | failed (pass : FailedPass)
deriving DecidableEq, Repr

namespace Control

def passStage : Control → PassStage
  | .loopHead => .connect
  | .readMaxId | .upsertCursor _ => .cursorInit
  | .inserting _ => .insert
  | _ => .poll

/-- The points of a pass behind `ensure_connected`. -/
def inPass : Control → Bool
  | .loopHead | .backoff | .stopped => false
  | _ => true

def asleep : Control → Bool
  | .backoff | .idle => true
  | _ => false

end Control

def Worker.passEnd (worker after : Worker) : Option PassEnd :=
  if worker.control.asleep then none
  else
    match after.control with
    | .idle => some .idle
    | .backoff =>
        some (.failed { stage := worker.control.passStage, seconds := after.backoffSec })
    | _ => none

namespace World

variable (engine : Engine) (config : Config)

def passes (initial : World) (inputs : List WorldInput) : List PassEnd :=
  (Execution.trace (step engine config)
    (fun world input => world.worker.passEnd (world.step engine config input).worker)
    initial inputs).filterMap id

end World

/-- A row of failed passes between a successful pass and the next one, or the end. -/
def IsFailureBlock (passes : List PassEnd) (block : List FailedPass) : Prop :=
  ∃ front rest, passes = front ++ .idle :: (block.map .failed ++ rest) ∧
    ∀ pass, rest.head? ≠ some (.failed pass)

/-- The i-th sleep of a row lasts `min(2^i, cap)` seconds. -/
def DoublesUpToCap (config : Config) (block : List FailedPass) : Prop :=
  block.map (·.seconds) =
    (List.range block.length).map (Backoff.delay config.reconnectBackoffMaxSec)

/-! ## What a step does to the counter -/

namespace DbWorker

structure Onward (worker after : Worker) : Prop where
  inPass : after.control.inPass = true
  connected : after.connected = worker.connected
  conn : after.conn = worker.conn
  backoffSec : after.backoffSec = worker.backoffSec

inductive LoopStep (config : Config) (worker after : Worker) : Prop
  | onward (awake : worker.control.asleep = false)
      (opened : worker.control.inPass = true ∨ worker.connected = true)
      (next : Onward worker after)
  | reconnected (control : worker.control = .loopHead) (inPass : after.control.inPass = true)
      (connected : after.connected = true) (handle : after.conn.handle.isSome = true)
      (reset : after.backoffSec = 1)
  | unreachable (control : worker.control = .loopHead)
      (closed : (worker.conn.handle.isSome && worker.connected) = false)
      (next : after.control = .backoff) (connected : after.connected = false)
      (backoffSec : after.backoffSec = worker.backoffSec)
  | failed (inPass : worker.control.inPass = true) (awake : worker.control.asleep = false)
      (next : after.control = .backoff) (connected : after.connected = false)
      (backoffSec : after.backoffSec = worker.backoffSec)
  | rested (control : worker.control = .idle)
      (next : after = { worker with control := .loopHead })
  | waited (control : worker.control = .backoff)
      (next : after = { worker with
        control := .loopHead, backoffSec := nextBackoff config worker.backoffSec })
  | stopped (next : after.control = .stopped) (connected : after.connected = false)
  | halted (control : worker.control = .stopped) (next : after = worker)

inductive WalksOn (worker : Worker) : Worker → Prop
  | goesTo (control : Control) (journal : List WorkerEvent) (inPass : control.inPass = true) :
      WalksOn worker { worker with control, journal }

theorem WalksOn.onward {worker after : Worker} (walks : WalksOn worker after) :
    Onward worker after := by
  cases walks with
  | goesTo control journal inPass => exact ⟨inPass, rfl, rfl, rfl⟩

section WalksOn

variable {state : DbState}

theorem walksOn_goTo {control : Control} (inPass : control.inPass = true) :
    WalksOn state.worker (goTo state control).worker :=
  .goesTo control _ inPass

theorem walksOn_answerLink (job : LinkJob) (notice : Bytes) :
    WalksOn state.worker (answerLink state job notice).worker :=
  .goesTo .drainLinks _ rfl

theorem walksOn_beginLink (job : LinkJob) :
    WalksOn state.worker (beginLink state job).worker := by
  unfold beginLink
  split
  · exact walksOn_answerLink job _
  · exact walksOn_goTo rfl

theorem walksOn_linkConflict (job : LinkJob) (fault : LinkFault) :
    WalksOn state.worker (linkConflict state job fault).worker := by
  unfold linkConflict
  split
  · exact walksOn_answerLink job _
  · split
    · exact walksOn_answerLink job _
    · exact walksOn_goTo rfl

theorem walksOn_linkLookup (job : LinkJob) (fault : LinkFault) :
    WalksOn state.worker (linkLookup state job fault).worker := by
  unfold linkLookup
  split
  · exact walksOn_answerLink job _
  · split
    · exact walksOn_answerLink job _
    · exact walksOn_answerLink job _
    · exact walksOn_goTo rfl
    · exact walksOn_goTo rfl

theorem walksOn_linkComplete (job : LinkJob) (fault : LinkFault) :
    WalksOn state.worker (linkComplete state job fault).worker := by
  unfold linkComplete
  split
  · exact walksOn_answerLink job _
  · dsimp only
    split
    · exact .goesTo .drainLinks _ rfl
    · exact .goesTo .drainLinks _ rfl

end WalksOn

/-- A failure behind `ensure_connected`. -/
theorem loopStep_markFailure {config : Config} {worker : Worker} {state : DbState}
    (same : state.worker.backoffSec = worker.backoffSec)
    (inPass : worker.control.inPass = true) (awake : worker.control.asleep = false) :
    LoopStep config worker (markFailure state).worker :=
  .failed inPass awake rfl rfl same

theorem loopStep_ensureConnected (config : Config) {state : DbState}
    (control : state.worker.control = .loopHead) (outcome : ConnectOutcome) :
    LoopStep config state.worker (ensureConnected state outcome).worker := by
  have inside (other : DbState) : (afterConnect other).worker.control.inPass = true := by
    unfold afterConnect goTo
    cases other.worker.cursorReady <;> rfl
  cases opened : state.worker.conn.handle.isSome && state.worker.connected with
  | true =>
      have connected : state.worker.connected = true := by
        simp only [Bool.and_eq_true] at opened
        exact opened.2
      have kept : ensureConnected state outcome = afterConnect state := if_pos opened
      rw [kept]
      apply LoopStep.onward
      · rw [control]
        rfl
      · exact .inr connected
      · exact ⟨inside state, rfl, rfl, rfl⟩
  | false =>
      unfold ensureConnected
      rw [opened]
      cases outcome with
      | initFailed => exact .unreachable control opened rfl rfl rfl
      | refused => exact .unreachable control opened rfl rfl rfl
      | prepareFailed => exact .unreachable control opened rfl rfl rfl
      | ready => exact .reconnected control (inside _) rfl rfl rfl

theorem loopStep (config : Config) (state : DbState) (input : WorkerInput) :
    LoopStep config state.worker (step config state input).worker := by
  -- A step inside a pass, and a failure there.
  have onward {control : Control} {after : Worker} (here : state.worker.control = control)
      (inPass : control.inPass = true) (awake : control.asleep = false)
      (next : Onward state.worker after) : LoopStep config state.worker after :=
    .onward (by rw [here]; exact awake) (.inl (by rw [here]; exact inPass)) next
  have failed {control : Control} {before : DbState} (here : state.worker.control = control)
      (inPass : control.inPass = true) (awake : control.asleep = false)
      (same : before.worker = state.worker) :
      LoopStep config state.worker (markFailure before).worker :=
    loopStep_markFailure (by rw [same]) (by rw [here]; exact inPass) (by rw [here]; exact awake)
  cases here : state.worker.control with
  | loopHead =>
      simp only [step, here]
      split
      · exact .stopped rfl rfl
      · exact loopStep_ensureConnected config here _
  | readMaxId =>
      simp only [step, here]
      split
      · exact onward here rfl rfl ⟨rfl, rfl, rfl, rfl⟩
      · exact failed here rfl rfl rfl
  | upsertCursor maxId =>
      simp only [step, here]
      split
      · exact onward here rfl rfl ⟨rfl, rfl, rfl, rfl⟩
      · exact failed here rfl rfl rfl
  | drainLinks =>
      simp only [step, here]
      split
      · exact onward here rfl rfl (walksOn_goTo rfl).onward
      · split
        · exact onward here rfl rfl (walksOn_goTo rfl).onward
        · rename_i job linkJobs popped
          have begun : WalksOn state.worker (beginLink { state with linkJobs } job).worker :=
            @walksOn_beginLink { state with linkJobs } job
          exact onward here rfl rfl begun.onward
  | linkConflict job =>
      simp only [step, here]
      exact onward here rfl rfl (walksOn_linkConflict job _).onward
  | linkLookup job =>
      simp only [step, here]
      exact onward here rfl rfl (walksOn_linkLookup job _).onward
  | linkComplete job =>
      simp only [step, here]
      exact onward here rfl rfl (walksOn_linkComplete job _).onward
  | drainOutbound =>
      simp only [step, here]
      split
      · exact onward here rfl rfl (walksOn_goTo rfl).onward
      · split
        · exact onward here rfl rfl (walksOn_goTo rfl).onward
        · exact onward here rfl rfl ⟨rfl, rfl, rfl, rfl⟩
  | inserting item =>
      simp only [step, here]
      split
      · exact onward here rfl rfl ⟨rfl, rfl, rfl, rfl⟩
      · exact failed here rfl rfl rfl
  | pollCheck =>
      simp only [step, here]
      split
      · exact onward here rfl rfl (walksOn_goTo rfl).onward
      · exact onward here rfl rfl (walksOn_goTo rfl).onward
  | selecting now =>
      simp only [step, here]
      split
      · exact onward here rfl rfl ⟨rfl, rfl, rfl, rfl⟩
      · exact failed here rfl rfl rfl
  | fetching batch =>
      simp only [step, here]
      split
      · split
        · exact onward here rfl rfl ⟨rfl, rfl, rfl, rfl⟩
        · exact onward here rfl rfl ⟨rfl, rfl, rfl, rfl⟩
      · exact failed here rfl rfl rfl
  | updatingCursor id batch =>
      simp only [step, here]
      split
      · exact onward here rfl rfl ⟨rfl, rfl, rfl, rfl⟩
      · exact failed here rfl rfl rfl
  | backoff =>
      simp only [step, here]
      split
      · exact .stopped rfl rfl
      · exact .waited here rfl
  | idle =>
      simp only [step, here]
      split
      · exact .stopped rfl rfl
      · exact .rested here rfl
  | stopped =>
      simp only [step, here]
      exact .halted here rfl

/-! ## One pass after the other -/

inductive Follows (config : Config) : PassEnd → PassEnd → Prop
  | idle (last : PassEnd) : Follows config last .idle
  | connected (last : PassEnd) {stage : PassStage} (other : stage ≠ .connect) :
      Follows config last (.failed { stage, seconds := 1 })
  | unreachable (last : FailedPass) :
      Follows config (.failed last)
        (.failed { stage := .connect, seconds := nextBackoff config last.seconds })

structure CounterAt (config : Config) (last : Option PassEnd) (worker : Worker) : Prop where
  armed : worker.connected = true →
    worker.conn.handle.isSome = true ∧ worker.backoffSec = 1
  inPass : worker.control.inPass = true → worker.connected = true
  idle : worker.control = .idle → last = some .idle
  backoff : worker.control = .backoff → worker.connected = false ∧
    ∃ stage, last = some (.failed { stage, seconds := worker.backoffSec })
  afterIdle : worker.control = .loopHead → last = some .idle → worker.connected = true
  afterFailure : ∀ pass, worker.control = .loopHead → last = some (.failed pass) →
    worker.backoffSec = nextBackoff config pass.seconds

section Counter

variable {config : Config} {last : Option PassEnd} {worker after : Worker}

theorem passEnd_of_asleep (asleep : worker.control.asleep = true) :
    worker.passEnd after = none := if_pos asleep

theorem passEnd_self (worker : Worker) : worker.passEnd worker = none := by
  unfold Worker.passEnd
  cases worker.control <;> rfl

theorem passEnd_of_backoff (awake : worker.control.asleep = false)
    (next : after.control = .backoff) :
    worker.passEnd after =
      some (.failed { stage := worker.control.passStage, seconds := after.backoffSec }) := by
  simp [Worker.passEnd, awake, next]

/-- Behind `ensure_connected` only a successful pass ends. -/
theorem passEnd_of_inPass (awake : worker.control.asleep = false)
    (inPass : after.control.inPass = true) :
    worker.passEnd after = if after.control = .idle then some .idle else none := by
  unfold Worker.passEnd
  rw [awake]
  cases control : after.control with
  | loopHead | backoff | stopped =>
      rw [control] at inPass
      cases inPass
  | idle => rfl
  | _ => simp

theorem counterAt_inPass (awake : worker.control.asleep = false)
    (inPass : after.control.inPass = true) (connected : after.connected = true)
    (armed : after.conn.handle.isSome = true ∧ after.backoffSec = 1) :
    CounterAt config ((worker.passEnd after).or last) after ∧
      ∀ pass ∈ worker.passEnd after, ∀ previous ∈ last, Follows config previous pass := by
  have elsewhere {control : Control} (outside : control.inPass = false) :
      after.control ≠ control := by
    intro here
    rw [here, outside] at inPass
    cases inPass
  rw [passEnd_of_inPass awake inPass]
  constructor
  · constructor
    · exact fun _ => armed
    · exact fun _ => connected
    · intro idle
      rw [if_pos idle]
      rfl
    · exact fun here => absurd here (elsewhere rfl)
    · exact fun here => absurd here (elsewhere rfl)
    · exact fun _ here => absurd here (elsewhere rfl)
  · intro pass ended previous found
    split at ended
    · cases ended
      exact .idle previous
    · cases ended

/-- Without a connection and not in front of the next pass, only a sleep behind a failure
counts. -/
theorem counterAt_closed (connected : after.connected = false)
    (outside : after.control.inPass = false) (later : after.control ≠ .loopHead)
    (failed : after.control = .backoff →
      ∃ stage, last = some (.failed { stage, seconds := after.backoffSec })) :
    CounterAt config last after := by
  constructor
  · intro opened
    rw [connected] at opened
    cases opened
  · intro inside
    rw [outside] at inside
    cases inside
  · intro idle
    rw [idle] at outside
    cases outside
  · exact fun here => ⟨connected, failed here⟩
  · exact fun here => absurd here later
  · exact fun _ here => absurd here later

theorem counterAt_backoff (awake : worker.control.asleep = false)
    (next : after.control = .backoff) (connected : after.connected = false) :
    CounterAt config ((worker.passEnd after).or last) after := by
  rw [passEnd_of_backoff awake next]
  apply counterAt_closed connected
  · rw [next]
    rfl
  · simp [next]
  · exact fun _ => ⟨_, rfl⟩

/-- The first pass behind a success has its connection, and behind a failure the counter
was doubled. -/
theorem follows_unreachable (counter : CounterAt config last worker)
    (control : worker.control = .loopHead)
    (closed : (worker.conn.handle.isSome && worker.connected) = false) :
    ∀ previous ∈ last, Follows config previous
      (.failed { stage := .connect, seconds := worker.backoffSec }) := by
  intro previous found
  cases previous with
  | idle =>
      have opened := counter.afterIdle control found
      simp [opened, (counter.armed opened).1] at closed
  | failed previous =>
      rw [counter.afterFailure previous control found]
      exact .unreachable previous

theorem follows_failed (counter : CounterAt config last worker)
    (inPass : worker.control.inPass = true) (previous : PassEnd) :
    Follows config previous
      (.failed { stage := worker.control.passStage, seconds := worker.backoffSec }) := by
  rw [(counter.armed (counter.inPass inPass)).2]
  apply Follows.connected
  cases control : worker.control with
  | loopHead =>
      rw [control] at inPass
      cases inPass
  | _ => simp [Control.passStage]

theorem counterAt_rested (counter : CounterAt config last worker)
    (control : worker.control = .idle) :
    CounterAt config last { worker with control := .loopHead } := by
  have connected : worker.connected = true := counter.inPass (by rw [control]; rfl)
  have idle := counter.idle control
  refine ⟨counter.armed, nofun, nofun, nofun, fun _ _ => connected, ?_⟩
  intro pass here failed
  rw [idle] at failed
  cases failed

theorem counterAt_waited (counter : CounterAt config last worker)
    (control : worker.control = .backoff) :
    CounterAt config last { worker with
      control := .loopHead, backoffSec := nextBackoff config worker.backoffSec } := by
  rcases counter.backoff control with ⟨closed, stage, failed⟩
  rw [failed]
  refine ⟨?_, nofun, nofun, nofun, nofun, ?_⟩
  · intro opened
    rw [closed] at opened
    cases opened
  · rintro pass here ⟨⟩
    rfl

theorem counterAt_stopped (next : after.control = .stopped)
    (connected : after.connected = false) : CounterAt config last after := by
  apply counterAt_closed connected
  · rw [next]
    rfl
  · simp [next]
  · exact fun here => absurd (next.symm.trans here) (by simp)

theorem counterAt_step (step : LoopStep config worker after)
    (counter : CounterAt config last worker) :
    CounterAt config ((worker.passEnd after).or last) after ∧
      ∀ pass ∈ worker.passEnd after, ∀ previous ∈ last, Follows config previous pass := by
  cases step with
  | onward awake opened next =>
      have connected : worker.connected = true := opened.elim counter.inPass id
      apply counterAt_inPass awake next.inPass
      · rw [next.connected, connected]
      · rw [next.conn, next.backoffSec]
        exact counter.armed connected
  | reconnected control inPass connected handle reset =>
      apply counterAt_inPass _ inPass connected ⟨handle, reset⟩
      rw [control]
      rfl
  | unreachable control closed next connected backoffSec =>
      have awake : worker.control.asleep = false := by
        rw [control]
        rfl
      refine ⟨counterAt_backoff awake next connected, ?_⟩
      rw [passEnd_of_backoff awake next, control, backoffSec]
      rintro pass ⟨⟩
      exact follows_unreachable counter control closed
  | failed inPass awake next connected backoffSec =>
      refine ⟨counterAt_backoff awake next connected, ?_⟩
      rw [passEnd_of_backoff awake next, backoffSec]
      rintro pass ⟨⟩ previous found
      exact follows_failed counter inPass previous
  | rested control next =>
      subst next
      rw [passEnd_of_asleep (by rw [control]; rfl), Option.none_or]
      exact ⟨counterAt_rested counter control, nofun⟩
  | waited control next =>
      subst next
      rw [passEnd_of_asleep (by rw [control]; rfl), Option.none_or]
      exact ⟨counterAt_waited counter control, nofun⟩
  | stopped next connected =>
      have ended : worker.passEnd after = none := by simp [Worker.passEnd, next]
      rw [ended]
      exact ⟨counterAt_stopped next connected, nofun⟩
  | halted control next =>
      subst next
      rw [passEnd_self, Option.none_or]
      exact ⟨counter, nofun⟩

end Counter

end DbWorker

/-! ## The passes of a run -/

namespace World

variable {engine : Engine} {config : Config} {initial : World}

theorem passes_snoc (inputs : List WorldInput) (input : WorldInput) :
    passes engine config initial (inputs ++ [input]) =
      passes engine config initial inputs ++
        ((run engine config initial inputs).worker.passEnd
          ((run engine config initial inputs).step engine config input).worker).toList := by
  unfold passes
  rw [Execution.trace_snoc, List.filterMap_append]
  congr 1

/-- The other threads leave the counter alone. -/
theorem counterAt_step {last : Option PassEnd} {world : World}
    (counter : DbWorker.CounterAt config last world.worker) (input : WorldInput) :
    DbWorker.CounterAt config
        ((world.worker.passEnd (world.step engine config input).worker).or last)
        (world.step engine config input).worker ∧
      ∀ pass ∈ world.worker.passEnd (world.step engine config input).worker,
        ∀ previous ∈ last, DbWorker.Follows config previous pass := by
  cases input with
  | worker input =>
      exact DbWorker.counterAt_step (DbWorker.loopStep config world.dbState input) counter
  | _ =>
      have same : world.worker.passEnd world.worker = none := DbWorker.passEnd_self _
      simp only [step, same, Option.none_or]
      exact ⟨counter, nofun⟩

structure Counted (config : Config) (ended : List PassEnd) (worker : Worker) : Prop where
  chain : ended.IsChain (DbWorker.Follows config)
  counter : DbWorker.CounterAt config ended.getLast? worker

theorem Counted.step {past : List WorldInput}
    (counted : Counted config (passes engine config initial past)
      (run engine config initial past).worker) (input : WorldInput) :
    Counted config (passes engine config initial (past ++ [input]))
      ((run engine config initial past).step engine config input).worker := by
  have next := @counterAt_step engine config _ _ counted.counter input
  rw [passes_snoc]
  cases ended : (run engine config initial past).worker.passEnd
    ((run engine config initial past).step engine config input).worker with
  | none =>
      rw [ended] at next
      rw [Option.toList_none, List.append_nil]
      exact ⟨counted.chain, next.1⟩
  | some pass =>
      rw [ended] at next
      constructor
      · rw [Option.toList_some, List.isChain_append]
        refine ⟨counted.chain, .singleton pass, ?_⟩
        rintro previous found other ⟨⟩
        exact next.2 _ rfl previous found
      · rw [Option.toList_some, List.getLast?_concat]
        exact next.1

theorem follows_passes (engine : Engine) (config : Config) (compile : RegexCompiler)
    (startedAt : Nanoseconds) (players : List PlayerRow) (inputs : List WorldInput) :
    (passes engine config (.initial compile config startedAt players) inputs).IsChain
      (DbWorker.Follows config) := by
  have counted : Counted config
      (passes engine config (.initial compile config startedAt players) inputs)
      (run engine config (.initial compile config startedAt players) inputs).worker := by
    apply Execution.run_history_invariant fun past (world : World) =>
      Counted config (passes engine config (.initial compile config startedAt players) past)
        world.worker
    · exact ⟨.nil, nofun, nofun, nofun, nofun, nofun, nofun⟩
    · exact fun past input counted => counted.step input
  exact counted.chain

end World

/-! ## Rows of failures -/

/-- A failure behind `ensure_connected`. -/
def FailedPass.connected (pass : FailedPass) : Bool := pass.stage != .connect

section Rows

variable {config : Config} {block : List FailedPass}

theorem next_eq (seconds : Int) :
    Backoff.next 31 config.reconnectBackoffMaxSec seconds =
      DbWorker.nextBackoff config seconds := rfl

/-- The sleeps of a row that follows a failure. -/
theorem seconds_of_follows {last : FailedPass}
    (chain : (PassEnd.failed last :: block.map .failed).IsChain (DbWorker.Follows config)) :
    block.map (·.seconds) =
      Backoff.delays 31 config.reconnectBackoffMaxSec
        (DbWorker.nextBackoff config last.seconds) (block.map (·.connected)) := by
  induction block generalizing last with
  | nil => rfl
  | cons pass rest induction =>
      rw [List.map_cons, List.isChain_cons_cons] at chain
      have later := induction chain.2
      cases chain.1 with
      | connected _ other => simp [Backoff.delays, FailedPass.connected, other, later, next_eq]
      | unreachable => simp [Backoff.delays, FailedPass.connected, later, next_eq]

theorem seconds_of_follows_idle
    (chain : (PassEnd.idle :: block.map .failed).IsChain (DbWorker.Follows config)) :
    block.map (·.seconds) =
      Backoff.delays 31 config.reconnectBackoffMaxSec 1 (block.map (·.connected)) := by
  cases block with
  | nil => rfl
  | cons pass rest =>
      rw [List.map_cons, List.isChain_cons_cons] at chain
      have later := seconds_of_follows chain.2
      cases chain.1 with
      | connected _ other => simp [Backoff.delays, later, next_eq]

theorem doublesUpToCap_iff_of_follows (positive : 1 ≤ config.reconnectBackoffMaxSec)
    (chain : (PassEnd.idle :: block.map .failed).IsChain (DbWorker.Follows config)) :
    DoublesUpToCap config block ↔
      config.reconnectBackoffMaxSec = 1 ∨
        (∀ pass ∈ block.tail, pass.stage = .connect) ∧
          (config.reconnectBackoffMaxSec < 2 ^ 30 ∨ block.length ≤ 31) := by
  unfold DoublesUpToCap
  rw [seconds_of_follows_idle chain]
  cases block with
  | nil => simp [Backoff.delays]
  | cons first rest =>
      have schedule := Backoff.delays_eq_iff positive (by decide : 2 ≤ 31) first.connected
        (rest.map (·.connected))
      have unconnected : (∀ again ∈ rest.map (·.connected), again = false) ↔
          ∀ pass ∈ rest, pass.stage = .connect := by
        simp [FailedPass.connected]
      have room : config.reconnectBackoffMaxSec * 2 < 2 ^ 31 ∨ rest.length < 31 ↔
          config.reconnectBackoffMaxSec < 2 ^ 30 ∨ rest.length + 1 ≤ 31 := by
        omega
      rw [List.length_map, unconnected, room] at schedule
      exact schedule

end Rows

namespace World

/-- In every run a row of failures is delayed by `min(2^i, cap)` seconds if and only if the
cap is one, or no pass of the row but the first gets past `ensure_connected` and the counter
stays an `int`. -/
theorem doublesUpToCap_iff (engine : Engine) (config : Config) (compile : RegexCompiler)
    (startedAt : Nanoseconds) (players : List PlayerRow) (inputs : List WorldInput)
    (positive : 1 ≤ config.reconnectBackoffMaxSec) (block : List FailedPass)
    (found : IsFailureBlock
      (passes engine config (.initial compile config startedAt players) inputs) block) :
    DoublesUpToCap config block ↔
      config.reconnectBackoffMaxSec = 1 ∨
        (∀ pass ∈ block.tail, pass.stage = .connect) ∧
          (config.reconnectBackoffMaxSec < 2 ^ 30 ∨ block.length ≤ 31) := by
  rcases found with ⟨front, rest, split, -⟩
  have chain := follows_passes engine config compile startedAt players inputs
  rw [split] at chain
  apply doublesUpToCap_iff_of_follows positive
  have behind := chain.right_of_append
  rw [← List.cons_append] at behind
  exact behind.left_of_append

def pollLost : List WorldInput :=
  List.replicate 8 (.worker {}) ++
    (List.replicate 5 (.worker { now := 60 * nanosecondsPerSecond }) ++
      [.worker { ok := false }, .worker {}])

/-- A poll is lost, then the database refuses two connects. -/
theorem doublesUpToCap_refused :
    DoublesUpToCap plainConfig [⟨.poll, 1⟩, ⟨.connect, 2⟩, ⟨.connect, 4⟩] ↔
      plainConfig.reconnectBackoffMaxSec = 1 ∨
        (∀ pass ∈ [⟨.connect, 2⟩, ⟨.connect, 4⟩], FailedPass.stage pass = .connect) ∧
          (plainConfig.reconnectBackoffMaxSec < 2 ^ 30 ∨ 3 ≤ 31) := by
  have block : IsFailureBlock
      (passes quietEngine plainConfig (.initial literalRegex plainConfig 0 [])
        (pollLost ++ [.worker { connect := .refused }, .worker {},
          .worker { connect := .refused }]))
      [⟨.poll, 1⟩, ⟨.connect, 2⟩, ⟨.connect, 4⟩] :=
    ⟨[], [], by decide +kernel, nofun⟩
  exact doublesUpToCap_iff quietEngine plainConfig literalRegex 0 [] _ (by decide) _ block

/-- The database takes every connect and answers neither the poll nor, twice, the cursor
query: each of the three sleeps lasts a second. -/
theorem doublesUpToCap_fails :
    ¬∀ block, IsFailureBlock
      (passes quietEngine plainConfig (.initial literalRegex plainConfig 0 [])
        (pollLost ++ [.worker {}, .worker { ok := false }, .worker {}, .worker {},
          .worker { ok := false }]))
      block → DoublesUpToCap plainConfig block := by
  intro doubles
  have block : IsFailureBlock
      (passes quietEngine plainConfig (.initial literalRegex plainConfig 0 [])
        (pollLost ++ [.worker {}, .worker { ok := false }, .worker {}, .worker {},
          .worker { ok := false }]))
      [⟨.poll, 1⟩, ⟨.cursorInit, 1⟩, ⟨.cursorInit, 1⟩] :=
    ⟨[], [], by decide +kernel, nofun⟩
  have sleeps := doubles _ block
  revert sleeps
  unfold DoublesUpToCap
  decide

end World

end PalCrosschat
