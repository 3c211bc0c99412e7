import Mathlib.Data.List.Chain
import PalCrosschat.World

/-! # The iterations of the database thread

A failed INSERT puts the message back, skips the poll and closes the connection. Here
the passes through the main loop are counted, while the database rejects one message
for good: an iteration that meets the message does not poll, and every other one does. -/

namespace PalCrosschat

open Bytes (ascii)

/-! ## Watching the loop -/

structure Iteration where
  /-- The drain found the rejected message at the front of the outbound queue. -/
  met : Bool := false
  /-- `poll_inbound` was called. -/
  polled : Bool := false
deriving DecidableEq, Repr

structure LoopLog where
  finished : List Iteration := []
  current : Iteration := {}
deriving DecidableEq, Repr

section Watching

variable (config : Config) (rejected : OutboundMessage)

/-- What a step of the thread means to the log. An iteration ends after its sleep. -/
def LoopLog.step (log : LoopLog) (state : DbState) (input : WorkerInput) : LoopLog :=
  match state.worker.control with
  | .drainOutbound =>
      if !input.stopRequested && state.outbound.tryPop.1 == some rejected then
        { log with current := { log.current with met := true } }
      else log
  | .pollCheck =>
      if DbWorker.pollDue config state.worker input.now then
        { log with current := { log.current with polled := true } }
      else log
  | .idle | .backoff => { finished := log.finished ++ [log.current], current := {} }
  | _ => log

structure WatchedWorld where
  world : World
  log : LoopLog := {}

def WatchedWorld.step (engine : Engine) (watched : WatchedWorld) (input : WorldInput) :
    WatchedWorld where
  world := watched.world.step engine config input
  log :=
    match input with
    | .worker input => watched.log.step config rejected watched.world.dbState input
    | _ => watched.log

abbrev WatchedWorld.run (engine : Engine) (initial : World) (inputs : List WorldInput) :
    WatchedWorld :=
  Execution.run (step config rejected engine) { world := initial } inputs

/-- Connecting, preparing, the cursor and the poll SELECT succeed, a poll is due, and the
database rejects this message and no other. -/
def DbWorker.onlyRejects (state : DbState) (input : WorkerInput) : Bool :=
  match state.worker.control with
  | .loopHead => input.connect == .ready
  | .readMaxId | .upsertCursor _ | .selecting _ => input.ok
  | .inserting item => input.ok == (item != rejected)
  | .pollCheck => DbWorker.pollDue config state.worker input.now
  | _ => true

def WatchedWorld.OnlyRejects (watched : WatchedWorld) : WorldInput → Prop
  | .worker input => DbWorker.onlyRejects config rejected watched.world.dbState input = true
  | _ => True

instance (watched : WatchedWorld) :
    ∀ input, Decidable (watched.OnlyRejects config rejected input)
  | .worker input => inferInstanceAs (Decidable (DbWorker.onlyRejects _ _ _ input = true))
  | .hook _ | .update | .join _ | .remote _ | .webhookPopped => .isTrue trivial

end Watching

/-- Watching changes nothing. -/
theorem WatchedWorld.run_world (config : Config) (rejected : OutboundMessage)
    (engine : Engine) (initial : World) (inputs : List WorldInput) :
    (WatchedWorld.run config rejected engine initial inputs).world =
      World.run engine config initial inputs :=
  (List.foldl_hom WatchedWorld.world fun _ _ => rfl).symm

/-! ## The current iteration at each point -/

def Control.early : Control → Bool
  | .loopHead | .readMaxId | .upsertCursor _ | .drainLinks | .linkConflict _ | .linkLookup _
  | .linkComplete _ | .drainOutbound => true
  | _ => false

def Control.untold : Control → Bool
  | .pollCheck => true
  | control => control.early

theorem Control.untold_of_early {control : Control} (early : control.early = true) :
    control.untold = true := by
  cases control <;> first | exact early | rfl

/-- The points after `poll_inbound` was called. -/
def Control.told : Control → Bool
  | .selecting _ | .fetching _ | .updatingCursor _ _ | .idle => true
  | _ => false

structure AtPoint (rejected : OutboundMessage) (control : Control) (current : Iteration) :
    Prop where
  untold : control.untold = true → current = {}
  inserting : ∀ item, control = .inserting item →
    current = { met := decide (item = rejected) }
  told : control.told = true → current = { polled := true }
  backoff : control = .backoff → current.polled = !current.met

namespace AtPoint

variable {rejected : OutboundMessage} {control : Control} {current : Iteration}

theorem of_untold (untold : control.untold = true) : AtPoint rejected control {} := by
  refine ⟨fun _ => rfl, ?_, ?_, ?_⟩
  · rintro item rfl
    cases untold
  · intro told
    cases control <;> cases untold <;> cases told
  · rintro rfl
    cases untold

theorem of_told (told : control.told = true) : AtPoint rejected control { polled := true } := by
  refine ⟨?_, ?_, fun _ => rfl, fun _ => rfl⟩
  · intro untold
    cases control <;> cases untold <;> cases told
  · rintro item rfl
    cases told

theorem of_inserting (item : OutboundMessage) :
    AtPoint rejected (.inserting item) { met := decide (item = rejected) } := by
  refine ⟨nofun, ?_, nofun, nofun⟩
  rintro other ⟨⟩
  rfl

theorem of_backoff (opposite : current.polled = !current.met) :
    AtPoint rejected .backoff current :=
  ⟨nofun, nofun, nofun, fun _ => opposite⟩

theorem of_stopped : AtPoint rejected .stopped current := ⟨nofun, nofun, nofun, nofun⟩

end AtPoint

/-! ## One step -/

structure LoopSound (rejected : OutboundMessage) (control : Control) (log : LoopLog) : Prop where
  point : AtPoint rejected control log.current
  finished : ∀ iteration ∈ log.finished, iteration.polled = !iteration.met

namespace DbWorker

variable {state : DbState}

theorem early_afterConnect : (afterConnect state).worker.control.early = true := by
  unfold afterConnect goTo
  cases state.worker.cursorReady <;> rfl

theorem early_ensureConnected :
    (ensureConnected state .ready).worker.control.early = true := by
  unfold ensureConnected
  split
  · exact early_afterConnect
  · exact early_afterConnect

theorem early_beginLink (job : LinkJob) :
    (beginLink state job).worker.control.early = true := by
  unfold beginLink
  split <;> rfl

theorem early_linkConflict (job : LinkJob) (fault : LinkFault) :
    (linkConflict state job fault).worker.control.early = true := by
  unfold linkConflict
  split
  · rfl
  · split <;> rfl

theorem early_linkLookup (job : LinkJob) (fault : LinkFault) :
    (linkLookup state job fault).worker.control.early = true := by
  unfold linkLookup
  split
  · rfl
  · split <;> rfl

theorem early_linkComplete (job : LinkJob) (fault : LinkFault) :
    (linkComplete state job fault).worker.control.early = true := by
  unfold linkComplete
  split
  · rfl
  · dsimp only
    split <;> rfl

variable {config : Config} {rejected : OutboundMessage} {input : WorkerInput}

/-- Up to the outbound queue the iteration goes on, unless the thread stops. -/
theorem early_step (early : state.worker.control.early = true)
    (undrained : state.worker.control ≠ .drainOutbound)
    (allowed : onlyRejects config rejected state input = true) :
    (step config state input).worker.control = .stopped ∧ input.stopRequested = true ∨
      (step config state input).worker.control.early = true := by
  cases control : state.worker.control with
  | loopHead =>
      have ready : input.connect = .ready := by
        simpa [onlyRejects, control] using allowed
      simp only [step, control]
      split
      · rename_i stopping
        exact .inl ⟨rfl, stopping⟩
      · rw [ready]
        exact .inr early_ensureConnected
  | readMaxId =>
      have ok : input.ok = true := by simpa [onlyRejects, control] using allowed
      simp only [step, control, ok]
      exact .inr rfl
  | upsertCursor maxId =>
      have ok : input.ok = true := by simpa [onlyRejects, control] using allowed
      simp only [step, control, ok]
      exact .inr rfl
  | drainLinks =>
      simp only [step, control]
      split
      · exact .inr rfl
      · split
        · exact .inr rfl
        · exact .inr (early_beginLink _)
  | linkConflict job =>
      simp only [step, control]
      exact .inr (early_linkConflict job _)
  | linkLookup job =>
      simp only [step, control]
      exact .inr (early_linkLookup job _)
  | linkComplete job =>
      simp only [step, control]
      exact .inr (early_linkComplete job _)
  | drainOutbound => exact absurd control undrained
  | _ =>
      rw [control] at early
      cases early

/-- After the poll was started the iteration goes on to its end. -/
theorem told_step (told : state.worker.control.told = true)
    (working : state.worker.control ≠ .idle)
    (allowed : onlyRejects config rejected state input = true) :
    (step config state input).worker.control = .backoff ∨
      (step config state input).worker.control.told = true := by
  cases control : state.worker.control with
  | selecting now =>
      have ok : input.ok = true := by simpa [onlyRejects, control] using allowed
      simp only [step, control, ok]
      exact .inr rfl
  | fetching batch =>
      simp only [step, control]
      split
      · split
        · exact .inr rfl
        · exact .inr rfl
      · exact .inl rfl
  | updatingCursor id batch =>
      simp only [step, control]
      split
      · exact .inr rfl
      · exact .inl rfl
  | idle => exact absurd control working
  | _ =>
      rw [control] at told
      cases told

theorem step_of_sleeping (sleeping : state.worker.control = .idle ∨
    state.worker.control = .backoff) :
    (step config state input).worker.control = .stopped ∨
      (step config state input).worker.control = .loopHead := by
  rcases sleeping with control | control
  · simp only [step, control]
    split
    · exact .inl rfl
    · exact .inr rfl
  · simp only [step, control]
    split
    · exact .inl rfl
    · exact .inr rfl

end DbWorker

section Step

variable {config : Config} {rejected : OutboundMessage} {state : DbState} {log : LoopLog}
  {input : WorkerInput}

theorem LoopLog.step_of_sleeping (sleeping : state.worker.control = .idle ∨
    state.worker.control = .backoff) :
    log.step config rejected state input =
      { finished := log.finished ++ [log.current], current := {} } := by
  rcases sleeping with control | control
  · simp only [LoopLog.step, control]
  · simp only [LoopLog.step, control]

namespace LoopSound

theorem early (sound : LoopSound rejected state.worker.control log)
    (early : state.worker.control.early = true)
    (undrained : state.worker.control ≠ .drainOutbound)
    (unlogged : log.step config rejected state input = log)
    (allowed : DbWorker.onlyRejects config rejected state input = true) :
    LoopSound rejected (DbWorker.step config state input).worker.control
      (log.step config rejected state input) := by
  rw [unlogged]
  refine ⟨?_, sound.finished⟩
  rcases DbWorker.early_step early undrained allowed with ⟨stopped, -⟩ | onward
  · rw [stopped]
    exact .of_stopped
  · rw [sound.point.untold (Control.untold_of_early early)]
    exact .of_untold (Control.untold_of_early onward)

theorem told (sound : LoopSound rejected state.worker.control log)
    (told : state.worker.control.told = true) (working : state.worker.control ≠ .idle)
    (unlogged : log.step config rejected state input = log)
    (allowed : DbWorker.onlyRejects config rejected state input = true) :
    LoopSound rejected (DbWorker.step config state input).worker.control
      (log.step config rejected state input) := by
  rw [unlogged]
  refine ⟨?_, sound.finished⟩
  rw [sound.point.told told]
  rcases DbWorker.told_step told working allowed with failed | onward
  · rw [failed]
    exact .of_backoff rfl
  · exact .of_told onward

theorem sleeping (sound : LoopSound rejected state.worker.control log)
    (sleeping : state.worker.control = .idle ∨ state.worker.control = .backoff)
    (opposite : log.current.polled = !log.current.met) :
    LoopSound rejected (DbWorker.step config state input).worker.control
      (log.step config rejected state input) := by
  rw [LoopLog.step_of_sleeping sleeping]
  constructor
  · rcases DbWorker.step_of_sleeping sleeping with stopped | next
    · rw [stopped]
      exact .of_stopped
    · rw [next]
      exact .of_untold rfl
  · intro iteration member
    rcases List.mem_append.mp member with old | last
    · exact sound.finished iteration old
    · rw [List.mem_singleton.mp last]
      exact opposite

theorem drainOutbound (sound : LoopSound rejected .drainOutbound log)
    (control : state.worker.control = .drainOutbound) :
    LoopSound rejected (DbWorker.step config state input).worker.control
      (log.step config rejected state input) := by
  have fresh := sound.point.untold rfl
  have leaves (unlogged : log.step config rejected state input = log)
      (next : (DbWorker.step config state input).worker.control = .pollCheck) :
      LoopSound rejected (DbWorker.step config state input).worker.control
        (log.step config rejected state input) := by
    rw [unlogged, next]
    refine ⟨?_, sound.finished⟩
    rw [fresh]
    exact .of_untold rfl
  cases stopping : input.stopRequested with
  | true =>
      apply leaves
      · simp [LoopLog.step, control, stopping]
      · simp [DbWorker.step, control, stopping, DbWorker.goTo]
  | false =>
      cases front : state.outbound.tryPop with
      | mk popped outbound =>
          cases popped with
          | none =>
              apply leaves
              · simp [LoopLog.step, control, stopping, front]
              · simp [DbWorker.step, control, stopping, front, DbWorker.goTo]
          | some item =>
              have next : (DbWorker.step config state input).worker.control =
                  .inserting item := by
                simp [DbWorker.step, control, stopping, front, DbWorker.goTo]
              have logged : log.step config rejected state input =
                  { log with current := { met := decide (item = rejected) } } := by
                by_cases same : item = rejected <;>
                  simp [LoopLog.step, control, stopping, front, fresh, same]
                rw [← fresh]
              rw [next, logged]
              exact ⟨.of_inserting item, sound.finished⟩

/-- The rejected message ends the iteration, every other one goes in. -/
theorem inserting {item : OutboundMessage} (sound : LoopSound rejected (.inserting item) log)
    (control : state.worker.control = .inserting item)
    (allowed : DbWorker.onlyRejects config rejected state input = true) :
    LoopSound rejected (DbWorker.step config state input).worker.control
      (log.step config rejected state input) := by
  have current := sound.point.inserting item rfl
  have unlogged : log.step config rejected state input = log := by
    simp [LoopLog.step, control]
  have rejects : input.ok = (item != rejected) := by
    simpa [DbWorker.onlyRejects, control] using allowed
  rw [unlogged]
  by_cases same : item = rejected
  · have next : (DbWorker.step config state input).worker.control = .backoff := by
      simp [DbWorker.step, control, rejects, same, DbWorker.markFailure,
        DbWorker.startBackoff, DbWorker.goTo, DbWorker.note]
    rw [next]
    exact ⟨.of_backoff (by simp [current, same]), sound.finished⟩
  · have next : (DbWorker.step config state input).worker.control = .drainOutbound := by
      simp [DbWorker.step, control, rejects, same, DbWorker.goTo]
    rw [next]
    refine ⟨?_, sound.finished⟩
    rw [current, decide_eq_false same]
    exact .of_untold rfl

theorem pollCheck (sound : LoopSound rejected .pollCheck log)
    (control : state.worker.control = .pollCheck)
    (allowed : DbWorker.onlyRejects config rejected state input = true) :
    LoopSound rejected (DbWorker.step config state input).worker.control
      (log.step config rejected state input) := by
  have fresh := sound.point.untold rfl
  have due : DbWorker.pollDue config state.worker input.now = true := by
    simpa [DbWorker.onlyRejects, control] using allowed
  have next : (DbWorker.step config state input).worker.control = .selecting input.now := by
    simp [DbWorker.step, control, due, DbWorker.goTo]
  have logged : log.step config rejected state input =
      { log with current := { polled := true } } := by
    simp [LoopLog.step, control, due, fresh]
  rw [next, logged]
  exact ⟨.of_told rfl, sound.finished⟩

theorem step (sound : LoopSound rejected state.worker.control log)
    (allowed : DbWorker.onlyRejects config rejected state input = true) :
    LoopSound rejected (DbWorker.step config state input).worker.control
      (log.step config rejected state input) := by
  cases control : state.worker.control with
  | loopHead | readMaxId | upsertCursor _ | drainLinks | linkConflict _ | linkLookup _
  | linkComplete _ =>
      apply sound.early
      · rw [control]
        rfl
      · simp [control]
      · simp [LoopLog.step, control]
      · exact allowed
  | drainOutbound =>
      rw [control] at sound
      exact sound.drainOutbound control
  | inserting item =>
      rw [control] at sound
      exact sound.inserting control allowed
  | pollCheck =>
      rw [control] at sound
      exact sound.pollCheck control allowed
  | selecting _ | fetching _ | updatingCursor _ _ =>
      apply sound.told
      · rw [control]
        rfl
      · simp [control]
      · simp [LoopLog.step, control]
      · exact allowed
  | backoff => exact sound.sleeping (.inr control) (sound.point.backoff control)
  | idle =>
      apply sound.sleeping (.inl control)
      rw [sound.point.told (by rw [control]; rfl)]
      rfl
  | stopped =>
      have unlogged : log.step config rejected state input = log := by
        simp [LoopLog.step, control]
      have still : DbWorker.step config state input = state := by
        unfold DbWorker.step
        rw [control]
      rw [unlogged, still]
      exact sound

end LoopSound

end Step

/-! ## Whole runs -/

namespace WatchedWorld

variable {config : Config} {rejected : OutboundMessage} {engine : Engine}

theorem sound_step {watched : WatchedWorld} {input : WorldInput}
    (allowed : watched.OnlyRejects config rejected input)
    (sound : LoopSound rejected watched.world.worker.control watched.log) :
    LoopSound rejected (watched.step config rejected engine input).world.worker.control
      (watched.step config rejected engine input).log := by
  cases input with
  | worker input => exact sound.step allowed
  | hook context => exact sound
  | update => exact sound
  | join playerState => exact sound
  | remote action => exact sound
  | webhookPopped => exact sound

theorem sound_run {compile : RegexCompiler} {startedAt : Nanoseconds}
    {players : List PlayerRow} {inputs : List WorldInput}
    (rejects : Execution.Along (step config rejected engine) (OnlyRejects config rejected)
      { world := .initial compile config startedAt players } inputs) :
    let watched := run config rejected engine (.initial compile config startedAt players) inputs
    LoopSound rejected watched.world.worker.control watched.log :=
  Execution.run_along_invariant
    (fun _ (watched : WatchedWorld) => LoopSound rejected watched.world.worker.control watched.log)
    ⟨.of_untold rfl, fun _ member => absurd member List.not_mem_nil⟩
    (fun _ _ allowed sound => sound_step allowed sound) inputs rejects

/-- While the database rejects one message for good, one of any two consecutive iterations
polls if and only if no two consecutive iterations meet the message. -/
theorem polls_iff (engine : Engine) (config : Config) (compile : RegexCompiler)
    (startedAt : Nanoseconds) (players : List PlayerRow) (rejected : OutboundMessage)
    (inputs : List WorldInput)
    (rejects : Execution.Along (step config rejected engine) (OnlyRejects config rejected)
      { world := .initial compile config startedAt players } inputs) :
    let iterations :=
      (run config rejected engine (.initial compile config startedAt players) inputs).log.finished
    (iterations.IsChain fun first second => first.polled = true ∨ second.polled = true) ↔
      iterations.IsChain fun first second => ¬(first.met = true ∧ second.met = true) := by
  apply List.IsChain.iff_of_mem_imp
  intro first second firstMember secondMember
  have sound := (sound_run rejects).finished
  rw [sound first firstMember, sound second secondMember]
  cases first.met <;> cases second.met <;> simp

def nameless (text : Bytes) : OutboundMessage where
  senderName := ascii "Unknown"
  senderId := []
  guildName := []
  message := text

/-- The hook takes the line `hello`, the next tick relays it. -/
def relayHello : List WorldInput := [.hook (typed (ascii "hello")), .update]

/-- The first iteration polls, in the second one the line is rejected. -/
theorem polls_iff_hello :
    let inputs := List.replicate 9 (.worker {}) ++ relayHello ++ List.replicate 3 (.worker {}) ++
      [.worker { ok := false }, .worker {}]
    let iterations :=
      (run plainConfig (nameless (ascii "hello")) quietEngine
        (.initial literalRegex plainConfig 0 []) inputs).log.finished
    iterations = [{ polled := true }, { met := true, polled := false }] ∧
      ((iterations.IsChain fun first second => first.polled = true ∨ second.polled = true) ↔
        iterations.IsChain fun first second => ¬(first.met = true ∧ second.met = true)) := by
  intro inputs
  have rejects : Execution.Along (step plainConfig (nameless (ascii "hello")) quietEngine)
      (OnlyRejects plainConfig (nameless (ascii "hello")))
      { world := .initial literalRegex plainConfig 0 [] } inputs := by
    decide +kernel
  exact ⟨by decide +kernel,
    polls_iff quietEngine plainConfig literalRegex 0 [] (nameless (ascii "hello")) inputs rejects⟩

/-- The line is rejected, put back, and rejected again: neither iteration polls. -/
theorem rejected_stops_polls :
    let inputs := relayHello ++ List.replicate 5 (.worker {}) ++
      [.worker { ok := false }, .worker {}] ++ List.replicate 5 (.worker {}) ++
      [.worker { ok := false }, .worker {}]
    let watched :=
      run plainConfig (nameless (ascii "hello")) quietEngine
        (.initial literalRegex plainConfig 0 []) inputs
    Execution.Along (step plainConfig (nameless (ascii "hello")) quietEngine)
        (OnlyRejects plainConfig (nameless (ascii "hello")))
        { world := .initial literalRegex plainConfig 0 [] } inputs ∧
      ¬watched.log.finished.IsChain fun first second =>
        first.polled = true ∨ second.polled = true := by
  intro inputs watched
  have twice : watched.log.finished =
      [{ met := true, polled := false }, { met := true, polled := false }] := by
    decide +kernel
  refine ⟨by decide +kernel, ?_⟩
  rw [twice]
  simp

end WatchedWorld

end PalCrosschat
