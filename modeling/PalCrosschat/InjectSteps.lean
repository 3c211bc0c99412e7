import PalCrosschat.Foundation.Monitor
import PalCrosschat.InjectRules

/-! # What the inject programs do

Every program of `ChatInject` only adds to the journal. `Advances` says what all
of them have in common: nothing is enqueued, deferred actions only leave at the
front, and the added entries follow the circuit breaker's monitor. -/

namespace PalCrosschat

/-! ## The circuit breaker -/

/-- The life of the circuit breaker. After a faulted broadcast the very next
entry must open the circuit, and nothing is called once it is open. -/
inductive CircuitPhase
  | closed
  | faulted
  | opened
deriving DecidableEq, Repr

def InjectEvent.isNote : InjectEvent → Bool
  | .flushing _ | .injecting _ | .injected _ _ | .rosterEmpty | .gameStateReady _ => true
  | .enqueued _ | .processEvent _ _ _ | .circuitOpened => false

namespace CircuitPhase

def next : CircuitPhase → InjectEvent → Option CircuitPhase
  | .closed, .processEvent _ (.sendScreenLogToClient _ _) _ => some .closed
  | .closed, .processEvent _ _ returned => some (if returned then .closed else .faulted)
  | .closed, .circuitOpened => some .opened
  | .closed, _ => some .closed
  | .faulted, .circuitOpened => some .opened
  | .faulted, _ => none
  | .opened, .processEvent _ _ _ => none
  | .opened, .circuitOpened => none
  | .opened, _ => some .opened

theorem next_of_isNote {phase : CircuitPhase} {event : InjectEvent}
    (isNote : event.isNote = true) (settled : phase ≠ .faulted) :
    phase.next event = some phase := by
  cases phase with
  | closed => cases event <;> simp_all [InjectEvent.isNote, next]
  | faulted => exact absurd rfl settled
  | opened => cases event <;> simp_all [InjectEvent.isNote, next]

end CircuitPhase

def InjectWorld.phase (world : InjectWorld) : CircuitPhase :=
  if world.inject.circuitOpen then .opened else .closed

theorem InjectWorld.phase_ne_faulted (world : InjectWorld) : world.phase ≠ .faulted := by
  unfold phase
  split <;> simp

/-! ## Advancing -/

/-- What a program may change when it adds these entries to the journal and
leaves the monitor in this phase. -/
structure AdvancesTo (start : InjectWorld) (phase : CircuitPhase)
    (added : List InjectEvent) (world : InjectWorld) : Prop where
  journal : world.inject.journal = start.inject.journal ++ added
  noEnqueue : ∀ action, .enqueued action ∉ added
  deferred : world.inject.deferred.items.IsSuffix start.inject.deferred.items
  readyAt : world.inject.worldReadyAt = start.inject.worldReadyAt
  phase : Monitor.follow CircuitPhase.next start.phase added = some phase
  moment : start.moment ≤ world.moment
  moments : ∀ moment call returned, .processEvent moment call returned ∈ added →
    start.moment ≤ moment

abbrev AdvancesBy (start : InjectWorld) (added : List InjectEvent)
    (world : InjectWorld) : Prop :=
  AdvancesTo start world.phase added world

def Advances (start world : InjectWorld) : Prop :=
  ∃ added, AdvancesBy start added world

theorem AdvancesBy.refl (world : InjectWorld) : AdvancesBy world [] world where
  journal := (List.append_nil _).symm
  noEnqueue := by simp
  deferred := List.suffix_rfl
  readyAt := rfl
  phase := rfl
  moment := Nat.le_refl _
  moments := by simp

theorem AdvancesBy.trans {first second third : InjectWorld} {phase : CircuitPhase}
    {left right : List InjectEvent} (toSecond : AdvancesBy first left second)
    (toThird : AdvancesTo second phase right third) :
    AdvancesTo first phase (left ++ right) third where
  journal := by rw [toThird.journal, toSecond.journal, List.append_assoc]
  noEnqueue := by
    intro action member
    rcases List.mem_append.mp member with inLeft | inRight
    · exact toSecond.noEnqueue action inLeft
    · exact toThird.noEnqueue action inRight
  deferred := toThird.deferred.trans toSecond.deferred
  readyAt := toThird.readyAt.trans toSecond.readyAt
  phase := Monitor.follow_trans toSecond.phase toThird.phase
  moment := Nat.le_trans toSecond.moment toThird.moment
  moments := by
    intro moment call returned member
    rcases List.mem_append.mp member with inLeft | inRight
    · exact toSecond.moments moment call returned inLeft
    · exact Nat.le_trans toSecond.moment (toThird.moments moment call returned inRight)

theorem Unseen.advancesBy {start world : InjectWorld} (unseen : Unseen start world) :
    AdvancesBy start [] world where
  journal := unseen.journal.trans (List.append_nil _).symm
  noEnqueue := by simp
  deferred := by
    have same : world.inject.deferred.items = start.inject.deferred.items := by
      rw [unseen.deferred]
    exact same ▸ List.suffix_rfl
  readyAt := unseen.readyAt
  phase := by
    rw [Monitor.follow_nil, InjectWorld.phase, InjectWorld.phase, unseen.circuit]
  moment := unseen.moment
  moments := by simp

instance : IsPreorder InjectWorld Advances where
  refl world := ⟨[], .refl world⟩
  trans _ _ _ toSecond toThird := by
    rcases toSecond with ⟨left, toSecond⟩
    rcases toThird with ⟨right, toThird⟩
    exact ⟨left ++ right, toSecond.trans toThird⟩

theorem Advances.refl (world : InjectWorld) : Advances world world :=
  refl_of Advances world

theorem Advances.trans {first second third : InjectWorld}
    (toSecond : Advances first second) (toThird : Advances second third) :
    Advances first third :=
  trans_of Advances toSecond toThird

theorem Unseen.advances {start world : InjectWorld} (unseen : Unseen start world) :
    Advances start world :=
  ⟨[], unseen.advancesBy⟩

/-- Advanced from `start` with the circuit still closed. -/
structure Closed (start world : InjectWorld) : Prop where
  advances : Advances start world
  closed : world.inject.circuitOpen = false

/-- Advanced from `start` up to a faulted call that has not tripped yet. -/
structure Faulted (start world : InjectWorld) : Prop where
  advances : ∃ added, AdvancesTo start .faulted added world
  closed : world.inject.circuitOpen = false

theorem AdvancesTo.closed {start world : InjectWorld}
    (quiet : AdvancesBy start [] world) (isClosed : start.inject.circuitOpen = false) :
    world.inject.circuitOpen = false := by
  have samePhase : start.phase = world.phase := Option.some.inj quiet.phase
  by_contra isOpen
  simp [InjectWorld.phase, isClosed, isOpen] at samePhase

theorem Closed.phase {start world : InjectWorld} (closed : Closed start world) :
    world.phase = .closed := by
  simp [InjectWorld.phase, closed.closed]

/-- A step that adds one entry. -/
theorem AdvancesTo.single {start world : InjectWorld} {phase : CircuitPhase}
    {event : InjectEvent}
    (journal : world.inject.journal = start.inject.journal ++ [event])
    (phaseStep : CircuitPhase.next start.phase event = some phase)
    (noEnqueue : ∀ action, event ≠ .enqueued action := by simp)
    (deferred : world.inject.deferred.items.IsSuffix start.inject.deferred.items := by
      exact List.suffix_rfl)
    (readyAt : world.inject.worldReadyAt = start.inject.worldReadyAt := by rfl)
    (moment : start.moment ≤ world.moment := by exact Nat.le_refl _)
    (moments : ∀ moment call returned, event = .processEvent moment call returned →
      start.moment ≤ moment := by simp) :
    AdvancesTo start phase [event] world where
  journal := journal
  noEnqueue action member := noEnqueue action (List.mem_singleton.mp member).symm
  deferred := deferred
  readyAt := readyAt
  phase := by simp [phaseStep]
  moment := moment
  moments moment call returned member :=
    moments moment call returned (List.mem_singleton.mp member).symm

def InjectWorld.issued (world : InjectWorld) (call : EngineCall) (returned : Bool) : InjectWorld :=
  { world with
    moment := world.moment + 1
    inject := world.inject.note (.processEvent world.moment call returned) }

theorem Closed.issue {start world : InjectWorld} (closed : Closed start world)
    {call : EngineCall} {returned : Bool} {phase : CircuitPhase}
    (moved : CircuitPhase.next .closed (.processEvent world.moment call returned) =
      some phase) :
    ∃ added, AdvancesTo start phase added (world.issued call returned) := by
  rcases closed.advances with ⟨added, advances⟩
  refine ⟨added ++ [.processEvent world.moment call returned],
    advances.trans (.single rfl ?_ nofun List.suffix_rfl rfl (Nat.le_succ _) (by simp))⟩
  rw [closed.phase]
  exact moved

theorem Closed.issue_closed {start world : InjectWorld} (closed : Closed start world)
    {call : EngineCall} {returned : Bool}
    (moved : CircuitPhase.next .closed (.processEvent world.moment call returned) =
      some .closed) : Closed start (world.issued call returned) := by
  rcases closed.issue moved with ⟨added, advances⟩
  have phase : (world.issued call returned).phase = .closed := closed.phase
  refine ⟨⟨added, ?_⟩, closed.closed⟩
  rw [AdvancesBy, phase]
  exact advances

/-! ## Programs -/

namespace ChatInject

variable {α : Type}

abbrev Steady (program : InjectProgram α) : Prop := Respects Advances program

namespace Silent

theorem keeps {program : InjectProgram α} (silent : Silent program)
    (start : InjectWorld) : Keeps (AdvancesBy start []) program :=
  fun world before => before.trans (silent world).advancesBy

theorem keeps_closed {program : InjectProgram α} (silent : Silent program)
    (start : InjectWorld) : Keeps (Closed start) program :=
  fun world before =>
    ⟨before.advances.trans (silent world).advances,
      (silent world).advancesBy.closed before.closed⟩

end Silent

theorem Steady.guarded {skipped : α} {program : InjectProgram α}
    (spec : ∀ start, Ensures (Closed start) program fun _ world => Advances start world) :
    Steady (do if (← get).inject.circuitOpen then return skipped else program) := by
  intro start
  change Advances start ((if start.inject.circuitOpen then Pure.pure skipped
    else program : InjectProgram α).run start).2
  cases isOpen : start.inject.circuitOpen with
  | true => exact .refl start
  | false => exact spec start start ⟨.refl start, isOpen⟩

/-! ## The programs, one by one -/

section Programs

variable (engine : Engine) (config : Config)

theorem tripInjectCircuit_run {world : InjectWorld}
    (isClosed : world.inject.circuitOpen = false) :
    (tripInjectCircuit.run world).2 =
      { world with inject := { world.inject with
          circuitOpen := true, gameState := none }.note .circuitOpened } := by
  change { world with inject := if world.inject.circuitOpen then _ else _ } = _
  rw [isClosed]
  rfl

theorem tripInjectCircuit_quiet {start : InjectWorld}
    (isClosed : start.inject.circuitOpen = false) :
    Ensures (AdvancesBy start []) tripInjectCircuit
      fun _ => AdvancesBy start [.circuitOpened] := by
  intro world quiet
  rw [tripInjectCircuit_run (quiet.closed isClosed)]
  have phase : world.phase = .closed := by
    simp [InjectWorld.phase, quiet.closed isClosed]
  exact quiet.trans (.single rfl (by rw [phase]; rfl))

theorem tripInjectCircuit_faulted (start : InjectWorld) :
    Ensures (Faulted start) tripInjectCircuit fun _ => Advances start := by
  intro world faulted
  rw [tripInjectCircuit_run faulted.closed]
  rcases faulted.advances with ⟨added, advances⟩
  exact ⟨added ++ [.circuitOpened],
    { journal := by simp [note, advances.journal]
      noEnqueue := by simpa using advances.noEnqueue
      deferred := advances.deferred
      readyAt := advances.readyAt
      phase := Monitor.follow_trans advances.phase rfl
      moment := advances.moment
      moments := by simpa using advances.moments }⟩

theorem processEvent_run (call : EngineCall) (world : InjectWorld) :
    (processEvent engine call).run world =
      (engine.processEvent world.moment,
        world.issued call (engine.processEvent world.moment)) := rfl

theorem processEvent_spec (start : InjectWorld) (call : EngineCall)
    (broadcasts : ∀ controller message, call ≠ .sendScreenLogToClient controller message) :
    Ensures (Closed start) (processEvent engine call) fun returned world =>
      if returned then Closed start world else Faulted start world := by
  intro world before
  rw [processEvent_run]
  cases engine.processEvent world.moment with
  | true =>
      rw [if_pos rfl]
      exact before.issue_closed (by cases call <;> simp [CircuitPhase.next])
  | false =>
      rw [if_neg (by simp)]
      refine ⟨before.issue ?_, before.closed⟩
      cases call with
      | broadcastChatMessage chat => rfl
      | broadcastServerNotice notice => rfl
      | sendScreenLogToClient controller message =>
          exact absurd rfl (broadcasts controller message)

theorem processEvent_screenLog_spec (start : InjectWorld) (controller : ObjectRef)
    (message : WideText) :
    Keeps (Closed start) (processEvent engine (.sendScreenLogToClient controller message)) :=
  fun _ before => before.issue_closed rfl

/-- Resolving the GameState is silent, unless it fails and opens the circuit. -/
theorem resolveGameState_quiet {start : InjectWorld}
    (isClosed : start.inject.circuitOpen = false) :
    Ensures (AdvancesBy start []) (resolveGameState engine) fun found world =>
      AdvancesBy start [] world ∨
        found = none ∧ AdvancesBy start [.circuitOpened] world := by
  unfold resolveGameState
  refine .bind (Silent.keeps .get start) fun world => ?_
  refine .bind ((Silent.ask _).keeps start) fun answer => ?_
  rcases answer with ⟨cached, weak⟩
  dsimp only
  refine .ite (fun found => ?_) fun missing => ?_
  · refine .bind ((Silent.updateInject (by simp)).keeps start) fun _ => ?_
    exact .pure fun world => .inl
  · refine .bind ((Silent.updateInject (by simp)).keeps start) fun _ => ?_
    refine .bind ((Silent.ask _).keeps start) fun answer => ?_
    cases answer with
    | faulted =>
        refine .bind ((Silent.updateInject (by simp)).keeps start) fun _ => ?_
        refine .bind (Silent.keeps .get start) fun counted => ?_
        refine .ite (fun _ => ?_) fun _ => .pure fun world => .inl
        refine .bind (tripInjectCircuit_quiet isClosed) fun _ => ?_
        exact .pure fun world tripped => .inr ⟨rfl, tripped⟩
    | missing => exact .pure fun world => .inl
    | found object =>
        refine .bind ((Silent.ask _).keeps start) fun cached => ?_
        refine .ite (fun _ => ?_) fun _ => .pure fun world => .inl
        refine .bind ((Silent.updateInject (by simp)).keeps start) fun _ => ?_
        exact .pure fun world => .inl

theorem resolveGameState_spec (start : InjectWorld) :
    Ensures (Closed start) (resolveGameState engine) fun found world =>
      Advances start world ∧ (found.isSome → Closed start world) := by
  intro world before
  rcases resolveGameState_quiet engine before.closed world (.refl world) with
    quiet | ⟨missing, tripped⟩
  · have closed := quiet.closed before.closed
    exact ⟨before.advances.trans ⟨_, quiet⟩,
      fun _ => ⟨before.advances.trans ⟨_, quiet⟩, closed⟩⟩
  · rw [missing]
    exact ⟨before.advances.trans ⟨_, tripped⟩, by simp⟩

/-! ## Broadcasting -/

theorem broadcastDisplay_steady (displaySender message : Bytes) (category : Category)
    (receivers : List Guid) (senderPlayerUid : Option Guid) :
    Steady (broadcastDisplay engine displaySender message category receivers
      senderPlayerUid) := by
  refine Steady.guarded fun start => ?_
  refine .bind (resolveGameState_spec engine start) fun gameState => ?_
  refine .ite (fun _ => .pure fun world resolved => resolved.1) fun resolved => ?_
  refine .bind (((ensureBroadcastFunction_silent engine).keeps_closed start).weaken
    (fun world found => found.2 (by simpa [Option.isSome_iff_ne_none] using resolved))
    fun _ _ closed => closed)
    fun ready => ?_
  refine .ite (fun _ => .pure fun world closed => closed.advances) fun _ => ?_
  refine .bind ((fillInitFString_silent engine displaySender).keeps_closed start)
    fun sender => ?_
  refine .bind ((fillInitFString_silent engine message).keeps_closed start) fun text => ?_
  refine .bind ((fillReceivers_silent engine receivers).keeps_closed start) fun uids => ?_
  refine .bind (resolveGameState_spec engine start) fun again => ?_
  refine .ite (fun _ => .pure fun world resolved => resolved.1) fun resolvedAgain => ?_
  refine .bind ((processEvent_spec engine start _ (by simp)).weaken
    (fun world found => found.2 (by simpa [Option.isSome_iff_ne_none] using resolvedAgain))
    fun _ _ issued => issued) fun returned => ?_
  refine .ite (fun ok => .pure fun world issued => ?_) fun faulted => ?_
  · rw [if_pos ok] at issued
    exact issued.advances
  · refine .bind (.modifies (fun _ => Faulted start) fun world issued => ?_)
      fun _ => ?_
    · rw [if_neg faulted] at issued
      rcases issued.advances with ⟨added, advances⟩
      exact ⟨⟨added, { advances with }⟩, issued.closed⟩
    · exact .bind (tripInjectCircuit_faulted start) fun _ => .pure fun _ advances => advances

theorem note_steady {event : InjectEvent} (isNote : event.isNote = true) :
    Steady (updateInject fun inject => inject.note event) := by
  intro start
  exact ⟨[event], .single rfl (CircuitPhase.next_of_isNote isNote start.phase_ne_faulted)
    (by cases event <;> simp_all [InjectEvent.isNote]) List.suffix_rfl rfl (Nat.le_refl _)
    (by cases event <;> simp_all [InjectEvent.isNote])⟩

theorem showServerNotice_steady (noticeMessage : Bytes) :
    Steady (showServerNotice engine noticeMessage) := by
  refine Steady.guarded fun start => ?_
  dsimp only
  refine .ite (fun _ => .pure fun world closed => closed.advances) fun _ => ?_
  refine .bind (resolveGameState_spec engine start) fun gameState => ?_
  refine .ite (fun _ => .pure fun world resolved => resolved.1) fun resolved => ?_
  refine .bind (((ensureServerNoticeFunction_silent engine).keeps_closed start).weaken
    (fun world found => found.2 (by simpa [Option.isSome_iff_ne_none] using resolved))
    fun _ _ closed => closed) fun ready => ?_
  refine .ite (fun _ => .pure fun world closed => closed.advances) fun _ => ?_
  refine .bind ((fillInitFString_silent engine _).keeps_closed start) fun notice => ?_
  refine .bind (resolveGameState_spec engine start) fun again => ?_
  refine .ite (fun _ => .pure fun world resolved => resolved.1) fun resolvedAgain => ?_
  refine .bind ((processEvent_spec engine start _ (by simp)).weaken
    (fun world found => found.2 (by simpa [Option.isSome_iff_ne_none] using resolvedAgain))
    fun _ _ issued => issued) fun returned => ?_
  refine .ite (fun ok => .pure fun world issued => ?_) fun faulted => ?_
  · rw [if_pos ok] at issued
    exact issued.advances
  · refine .bind ((tripInjectCircuit_faulted start).weaken (fun world issued => ?_)
      fun _ _ advances => advances) fun _ => .pure fun world advances => advances
    rw [if_neg faulted] at issued
    exact issued

theorem sendScreenLog_steady (playerController : ObjectRef) (message : Bytes) :
    Steady (sendScreenLog engine playerController message) := by
  refine Steady.guarded fun start => ?_
  dsimp only
  refine .ite (fun _ => .pure fun world closed => closed.advances) fun _ => ?_
  refine .bind ((Silent.ask _).keeps_closed start) fun found => ?_
  refine .ite (fun _ => .pure fun world closed => closed.advances) fun _ => ?_
  refine .bind ((fillInitFString_silent engine _).keeps_closed start) fun text => ?_
  exact (processEvent_screenLog_spec engine start playerController text).weaken
    (fun _ closed => closed) fun _ _ closed => closed.advances

theorem steadyRules : InjectRules engine Advances where
  unseen := Unseen.advances
  rosterEmpty := note_steady rfl
  display := broadcastDisplay_steady engine
  notice := showServerNotice_steady engine
  screenLog := sendScreenLog_steady engine

/-! ## The tick -/

theorem popDeferred_steady (action : DeferredAction) : Steady (popDeferred action) := by
  intro start
  exact ⟨[.flushing action], .single rfl
    (CircuitPhase.next_of_isNote rfl start.phase_ne_faulted) nofun (List.tail_suffix _)⟩

theorem flushDeferred_steady (maxActions : Nat) :
    Steady (flushDeferred engine config maxActions) := by
  induction maxActions with
  | zero => exact .pure _
  | succ remaining induction =>
      refine .bind .get fun world => ?_
      cases world.inject.deferred.items with
      | nil => exact .pure _
      | cons action rest =>
          exact .bind (popDeferred_steady action) fun _ =>
            .bind ((steadyRules engine).actionRules.runAction config action) fun _ => induction

theorem drainInbound_steady (filter : WordFilter) (limit : Nat) :
    Steady (drainInbound engine config filter limit) := by
  induction limit with
  | zero => exact .pure _
  | succ remaining induction =>
      intro start
      rw [drainInbound, run_get_bind]
      rcases start.inbound.tryPop with ⟨popped, inbound⟩
      cases popped with
      | none => exact .refl start
      | some item =>
          have taken : Advances start { start with
              inbound, inject := start.inject.note (.injecting item) } :=
            Advances.trans (note_steady (rfl : (InjectEvent.injecting item).isNote = true) start)
              (Unseen.inbound _ inbound).advances
          have rest : Steady (do
              let sent ← broadcastOne engine config filter item
              updateInject fun inject => inject.note (.injected item sent)
              if sent then
                drainInbound engine config filter remaining
              else
                modify fun world => { world with inbound := world.inbound.push item }) := by
            refine .bind ((steadyRules engine).actionRules.broadcastOne config filter item)
              fun sent => ?_
            refine .bind (note_steady rfl) fun _ => ?_
            exact .ite induction fun world => (Unseen.inbound world _).advances
          exact taken.trans (rest _)

/-- The world after `CanInjectNow` saw a GameState. -/
def sighted (world : InjectWorld) : InjectWorld :=
  { world with
    moment := world.moment + 1
    inject := { world.inject with
      worldReadyAt :=
        if world.inject.worldReadyAt = 0 then engine.now world.moment
        else world.inject.worldReadyAt }.note (.gameStateReady world.moment) }

theorem warmup_of_tickLimit {configuredMax : Int} {elapsed : Nanoseconds}
    (allowed : (tickLimit configuredMax elapsed).isSome) : kInjectWarmup ≤ elapsed := by
  by_contra early
  simp [tickLimit, Int.not_le.mp early] at allowed

/-- How `CanInjectNow` ends: without a GameState, or with a sighting, after which
lines are allowed only when the warm-up is over. -/
def TickStart (start : InjectWorld) (limit : Option Nat) (world : InjectWorld) : Prop :=
  ∃ resolved added, AdvancesBy start added resolved ∧ added ⊆ [.circuitOpened] ∧
    (limit = none ∧ world = resolved ∨
      resolved.inject.circuitOpen = false ∧ world = sighted engine resolved ∧
      (limit.isSome → kInjectWarmup ≤
        engine.now resolved.moment - world.inject.worldReadyAt))

theorem canInjectNow_spec (configuredMax : Int) (start : InjectWorld) :
    Ensures (fun world => world = start) (canInjectNow engine configuredMax)
      (TickStart engine start) := by
  unfold canInjectNow
  refine .bind (.get (fun value world => value = start ∧ world = start)
    fun world same => ⟨same, same⟩) fun value => ?_
  refine .ite (fun isOpen => ?_) fun isClosed => ?_
  · intro world given
    rcases given with ⟨-, rfl⟩
    exact ⟨world, [], .refl world, by simp, .inl ⟨rfl, rfl⟩⟩
  intro world given
  rcases given with ⟨rfl, rfl⟩
  have closedBefore : world.inject.circuitOpen = false := by simpa using isClosed
  refine Ensures.bind (resolveGameState_quiet engine closedBefore) (fun found => ?_)
    world (.refl world)
  refine .ite (fun missing => ?_) fun resolved => ?_
  · intro after either
    rcases either with quiet | ⟨-, tripped⟩
    · exact ⟨after, [], quiet, by simp, .inl ⟨rfl, rfl⟩⟩
    · exact ⟨after, [.circuitOpened], tripped, by simp, .inl ⟨rfl, rfl⟩⟩
  · intro after either
    rcases either with quiet | ⟨missing, -⟩
    · refine ⟨after, [], quiet, by simp, .inr ⟨quiet.closed closedBefore, rfl, ?_⟩⟩
      exact fun allowed => warmup_of_tickLimit allowed
    · simp [missing] at resolved

/-- A tick: the start of `CanInjectNow`, and when the warm-up is over whatever the
flush and the inbound loop do after the sighting. -/
def Ticked (start world : InjectWorld) : Prop :=
  ∃ resolved added, AdvancesBy start added resolved ∧ added ⊆ [.circuitOpened] ∧
    (world = resolved ∨
      resolved.inject.circuitOpen = false ∧
      (world = sighted engine resolved ∨
        kInjectWarmup ≤ engine.now resolved.moment -
          (sighted engine resolved).inject.worldReadyAt ∧
        Advances (sighted engine resolved) world))

theorem drain_spec (filter : WordFilter) (maxPerTick : Int) (start : InjectWorld) :
    Ticked engine start ((drain engine config filter maxPerTick).run start).2 := by
  suffices spec : Ensures (fun world => world = start)
      (drain engine config filter maxPerTick) fun _ world => Ticked engine start world from
    spec start rfl
  unfold drain
  refine .bind (canInjectNow_spec engine maxPerTick start) fun limit => ?_
  cases limit with
  | none =>
      intro world given
      rcases given with ⟨resolved, added, advances, few, ended⟩
      refine ⟨resolved, added, advances, few, ?_⟩
      rcases ended with ⟨-, idle⟩ | ⟨isClosed, seen, -⟩
      · exact .inl idle
      · exact .inr ⟨isClosed, .inl seen⟩
  | some limit =>
      intro world given
      rcases given with ⟨resolved, added, advances, few, ended⟩
      refine ⟨resolved, added, advances, few, .inr ?_⟩
      rcases ended with ⟨impossible, -⟩ | ⟨isClosed, seen, warm⟩
      · cases impossible
      · rw [seen] at warm ⊢
        refine ⟨isClosed, .inr ⟨warm rfl, ?_⟩⟩
        exact Respects.bind (flushDeferred_steady engine config _)
          (fun _ => drainInbound_steady engine config filter limit) _

theorem Ticked.moment {engine : Engine} {start world : InjectWorld}
    (ticked : Ticked engine start world) : start.moment ≤ world.moment := by
  rcases ticked with ⟨resolved, added, advances, -, rfl | ⟨-, rfl | ⟨-, rest, after⟩⟩⟩
  · exact advances.moment
  · exact advances.moment.trans (Nat.le_succ _)
  · exact (advances.moment.trans (Nat.le_succ _)).trans after.moment

/-- What matters to the rest of the mod: a tick enqueues nothing, and deferred
actions only leave the deque. -/
theorem Ticked.frame {engine : Engine} {start world : InjectWorld}
    (ticked : Ticked engine start world) :
    (∃ added, world.inject.journal = start.inject.journal ++ added ∧
      ∀ action, .enqueued action ∉ added) ∧
    world.inject.deferred.items.IsSuffix start.inject.deferred.items := by
  rcases ticked with ⟨resolved, added, advances, -, rfl | ⟨-, rfl | ⟨-, rest, after⟩⟩⟩
  · exact ⟨⟨added, advances.journal, advances.noEnqueue⟩, advances.deferred⟩
  · refine ⟨⟨added ++ [.gameStateReady resolved.moment], ?_, ?_⟩, advances.deferred⟩
    · simp [sighted, note, advances.journal]
    · simpa using advances.noEnqueue
  · refine ⟨⟨added ++ .gameStateReady resolved.moment :: rest, ?_, ?_⟩,
      after.deferred.trans advances.deferred⟩
    · rw [after.journal]
      simp [sighted, note, advances.journal]
    · simpa using fun action => ⟨advances.noEnqueue action, after.noEnqueue action⟩

end Programs

end ChatInject

end PalCrosschat
