import PalCrosschat.Foundation.Execution
import PalCrosschat.InjectSteps

/-! # Circuit breaker and warm-up

`ChatInject` as a machine of its own: the other components may enqueue, change
the roster, fill the inbound queue and use the engine at any time between two
ticks. -/

namespace PalCrosschat

inductive InjectInput
  | enqueueLocalTagged (senderName guildName message : Bytes) (category : Category)
      (senderPlayerUid : Guid)
  | enqueueServerNotice (noticeMessage : Bytes)
  | enqueueScreenLog (playerController : Option ObjectRef) (message : Bytes)
  | enqueuePrivateChat (receiverPlayerUid : Guid) (message : Bytes)
  | drain (filter : WordFilter) (maxPerTick : Int)
  /-- The roster becomes any roster. -/
  | audience (audience : AudienceTracker)
  | inboundPushed (msg : InboundMessage)
  /-- The rest of the mod makes this many engine calls. -/
  | elapse (calls : Nat)

namespace InjectWorld

def changeInject (world : InjectWorld) (change : ChatInject → ChatInject) : InjectWorld :=
  { world with inject := change world.inject }

def step (engine : Engine) (config : Config) (world : InjectWorld) :
    InjectInput → InjectWorld
  | .enqueueLocalTagged senderName guildName message category senderPlayerUid =>
      world.changeInject fun inject =>
        inject.enqueueLocalTagged senderName guildName message category senderPlayerUid
  | .enqueueServerNotice noticeMessage =>
      world.changeInject fun inject => inject.enqueueServerNotice noticeMessage
  | .enqueueScreenLog playerController message =>
      world.changeInject fun inject => inject.enqueueScreenLog playerController message
  | .enqueuePrivateChat receiverPlayerUid message =>
      world.changeInject fun inject => inject.enqueuePrivateChat receiverPlayerUid message
  | .drain filter maxPerTick =>
      ((ChatInject.drain engine config filter maxPerTick).run world).2
  | .audience audience => { world with audience }
  | .inboundPushed msg => { world with inbound := world.inbound.push msg }
  | .elapse calls => { world with moment := world.moment + calls }

/-- The state of a fresh `ChatInject` after a list of inputs. -/
abbrev run (engine : Engine) (config : Config) (inputs : List InjectInput) : InjectWorld :=
  Execution.run (step engine config) {} inputs

end InjectWorld

/-! ## The monitor -/

namespace CircuitPhase

theorem opened_final (event : InjectEvent) (after : CircuitPhase)
    (moved : CircuitPhase.opened.next event = some after) : after = .opened := by
  cases event <;> simp_all [next]

theorem silent_of_opened {last : CircuitPhase} {events : List InjectEvent}
    (accepted : Monitor.follow CircuitPhase.next .opened events = some last) :
    last = .opened ∧
      ∀ moment call returned, .processEvent moment call returned ∉ events := by
  rcases Monitor.next_of_final opened_final accepted with ⟨same, stays⟩
  exact ⟨same, fun moment call returned member => nomatch stays _ member⟩

theorem next_circuitOpened {phase after : CircuitPhase}
    (moved : phase.next .circuitOpened = some after) : after = .opened := by
  cases phase <;> simp_all [next]

end CircuitPhase

/-- A fault in `BroadcastChatMessage` or `BroadcastServerNotice`. -/
def InjectEvent.isFault : InjectEvent → Bool
  | .processEvent _ (.sendScreenLogToClient _ _) _ => false
  | .processEvent _ _ returned => !returned
  | _ => false

def CircuitPhase.faultsLeft : CircuitPhase → Nat
  | .closed => 1
  | .faulted => 0
  | .opened => 0

theorem CircuitPhase.next_faultsLeft {phase after : CircuitPhase} {event : InjectEvent}
    (moved : phase.next event = some after) :
    (if event.isFault then 1 else 0) + after.faultsLeft ≤ phase.faultsLeft := by
  cases phase with
  | closed =>
      cases event with
      | processEvent moment call returned =>
          cases call <;> cases returned <;>
            simp_all [next, InjectEvent.isFault] <;> subst moved <;> simp [faultsLeft]
      | _ =>
          simp_all [next, InjectEvent.isFault] <;> subst moved <;> simp [faultsLeft]
  | faulted =>
      cases event <;> simp_all [next, InjectEvent.isFault]
      subst moved
      simp [faultsLeft]
  | opened =>
      have stays := opened_final event after moved
      subst stays
      cases event <;> simp_all [next, InjectEvent.isFault]

theorem CircuitPhase.faults_le {phase last : CircuitPhase} {events : List InjectEvent}
    (accepted : Monitor.follow CircuitPhase.next phase events = some last) :
    (events.filter InjectEvent.isFault).length ≤ phase.faultsLeft := by
  induction events generalizing phase with
  | nil => simp
  | cons event events induction =>
      rw [Monitor.follow_cons] at accepted
      cases moved : phase.next event with
      | none => simp [moved] at accepted
      | some after =>
          rw [moved] at accepted
          have rest := induction accepted
          have budget := next_faultsLeft moved
          cases isFault : event.isFault with
          | true =>
              rw [isFault, if_pos rfl] at budget
              rw [List.filter_cons_of_pos isFault, List.length_cons]
              omega
          | false =>
              rw [isFault, if_neg (by simp)] at budget
              rw [List.filter_cons_of_neg (by simp [isFault])]
              omega

/-! ## The invariant -/

def firstSighting (journal : List InjectEvent) : Option Nat :=
  journal.findSome? fun
    | .gameStateReady moment => some moment
    | _ => none

theorem firstSighting_append (first second : List InjectEvent) :
    firstSighting (first ++ second) =
      (firstSighting first).or (firstSighting second) := by
  simp [firstSighting, List.findSome?_append]

structure BreakerInvariant (engine : Engine) (world : InjectWorld) : Prop where
  phase : Monitor.follow CircuitPhase.next .closed world.inject.journal = some world.phase
  ready : world.inject.worldReadyAt =
    ((firstSighting world.inject.journal).map engine.now).getD 0
  warm : ∀ moment call returned,
    .processEvent moment call returned ∈ world.inject.journal →
    ∃ ready, firstSighting world.inject.journal = some ready ∧
      kInjectWarmup ≤ engine.now moment - engine.now ready

namespace BreakerInvariant

variable {engine : Engine} {world : InjectWorld}

/-- Entries that are neither calls nor sightings keep the invariant. -/
theorem extend (invariant : BreakerInvariant engine world) {after : InjectWorld}
    {added : List InjectEvent}
    (journal : after.inject.journal = world.inject.journal ++ added)
    (phase : Monitor.follow CircuitPhase.next world.phase added = some after.phase)
    (readyAt : after.inject.worldReadyAt = world.inject.worldReadyAt)
    (noSighting : ∀ moment, .gameStateReady moment ∉ added)
    (noCall : ∀ moment call returned, .processEvent moment call returned ∉ added) :
    BreakerInvariant engine after := by
  have unseen : firstSighting added = none := by
    rw [firstSighting, List.findSome?_eq_none_iff]
    intro event member
    cases event <;> simp_all
  have same : firstSighting after.inject.journal =
      firstSighting world.inject.journal := by
    rw [journal, firstSighting_append, unseen, Option.or_none]
  exact
    { phase := by
        rw [journal]
        exact Monitor.follow_trans invariant.phase phase
      ready := by rw [readyAt, same, invariant.ready]
      warm := by
        intro moment call returned member
        rw [same]
        rw [journal] at member
        rcases List.mem_append.mp member with old | new
        · exact invariant.warm moment call returned old
        · exact absurd new (noCall moment call returned) }

theorem enqueue (invariant : BreakerInvariant engine world) (action : DeferredAction) :
    BreakerInvariant engine (world.changeInject fun inject => inject.enqueue action) := by
  have journal : (world.inject.enqueue action).journal =
      world.inject.journal ++ [.enqueued action] := rfl
  refine invariant.extend journal ?_ rfl (by simp) (by simp)
  change Monitor.follow _ world.phase _ = some world.phase
  unfold InjectWorld.phase
  split <;> rfl

theorem sighted (clock : engine.SteadyClock) (invariant : BreakerInvariant engine world) :
    BreakerInvariant engine (ChatInject.sighted engine world) := by
  have journal : (ChatInject.sighted engine world).inject.journal =
      world.inject.journal ++ [.gameStateReady world.moment] := rfl
  have seen : firstSighting (ChatInject.sighted engine world).inject.journal =
      (firstSighting world.inject.journal).or (some world.moment) := by
    rw [journal, firstSighting_append]
    rfl
  have readyAt : (ChatInject.sighted engine world).inject.worldReadyAt =
      if world.inject.worldReadyAt = 0 then engine.now world.moment
      else world.inject.worldReadyAt := rfl
  refine ⟨?_, ?_, ?_⟩
  · rw [journal]
    refine Monitor.follow_trans invariant.phase ?_
    rw [Monitor.follow_cons,
      CircuitPhase.next_of_isNote (by rfl) world.phase_ne_faulted]
    rfl
  · rw [readyAt, seen, invariant.ready]
    cases firstSighting world.inject.journal with
    | none => simp
    | some ready =>
        have positive := clock.positive ready
        simp only [Option.map_some, Option.getD_some, Option.some_or]
        rw [if_neg (Int.ne_of_gt positive)]
  · intro moment call returned member
    rw [journal] at member
    have old : .processEvent moment call returned ∈ world.inject.journal := by
      simpa using member
    rcases invariant.warm moment call returned old with ⟨ready, first, warm⟩
    exact ⟨ready, by rw [seen, first]; rfl, warm⟩

/-- Once the warm-up is over, any program of `ChatInject` keeps the invariant. -/
theorem advances (clock : engine.SteadyClock) {after : InjectWorld}
    (invariant : BreakerInvariant engine world)
    {ready : Nat} (seen : firstSighting world.inject.journal = some ready)
    (warm : kInjectWarmup ≤ engine.now world.moment - engine.now ready)
    (steps : Advances world after) : BreakerInvariant engine after := by
  rcases steps with ⟨added, steps⟩
  have stillSeen : firstSighting after.inject.journal = some ready := by
    rw [steps.journal, firstSighting_append, seen]
    rfl
  refine ⟨?_, ?_, ?_⟩
  · rw [steps.journal]
    exact Monitor.follow_trans invariant.phase steps.phase
  · rw [steps.readyAt, invariant.ready, seen, stillSeen]
  · intro moment call returned member
    rw [steps.journal] at member
    refine ⟨ready, stillSeen, ?_⟩
    rcases List.mem_append.mp member with old | new
    · rcases invariant.warm moment call returned old with ⟨first, firstSeen, warmBefore⟩
      rw [seen] at firstSeen
      cases firstSeen
      exact warmBefore
    · have later := clock.monotone (steps.moments moment call returned new)
      exact Int.le_trans warm (Int.sub_le_sub_right later _)

theorem tick (clock : engine.SteadyClock) {after : InjectWorld}
    (invariant : BreakerInvariant engine world)
    (ticked : ChatInject.Ticked engine world after) : BreakerInvariant engine after := by
  rcases ticked with ⟨resolved, added, steps, few, ended⟩
  have resolvedInvariant : BreakerInvariant engine resolved :=
    invariant.extend steps.journal steps.phase steps.readyAt
      (fun moment member => by simpa using few member)
      (fun moment call returned member => by simpa using few member)
  have sightedInvariant := resolvedInvariant.sighted clock
  rcases ended with rfl | ⟨-, rfl | ⟨warm, rest⟩⟩
  · exact resolvedInvariant
  · exact sightedInvariant
  · cases seen : firstSighting (ChatInject.sighted engine resolved).inject.journal with
    | none =>
        have impossible : firstSighting (ChatInject.sighted engine resolved).inject.journal =
            (firstSighting resolved.inject.journal).or (some resolved.moment) :=
          firstSighting_append _ _
        rw [seen] at impossible
        simp at impossible
    | some ready =>
        have readyAt := sightedInvariant.ready
        rw [seen] at readyAt
        have later := clock.monotone (Nat.le_succ resolved.moment)
        refine sightedInvariant.advances clock seen ?_ rest
        change kInjectWarmup ≤ engine.now (resolved.moment + 1) - engine.now ready
        rw [readyAt] at warm
        exact Int.le_trans warm (Int.sub_le_sub_right later _)

theorem step (clock : engine.SteadyClock) (config : Config)
    (invariant : BreakerInvariant engine world) (input : InjectInput) :
    BreakerInvariant engine (world.step engine config input) := by
  cases input with
  | enqueueLocalTagged senderName guildName message category senderPlayerUid =>
      exact invariant.enqueue _
  | enqueueServerNotice noticeMessage => exact invariant.enqueue _
  | enqueueScreenLog playerController message =>
      cases playerController with
      | none => exact invariant
      | some controller => exact invariant.enqueue _
  | enqueuePrivateChat receiverPlayerUid message =>
      by_cases ignored : receiverPlayerUid = .nil ∨ message = []
      · have unchanged : world.step engine config
            (.enqueuePrivateChat receiverPlayerUid message) = world := by
          simp only [InjectWorld.step, InjectWorld.changeInject,
            ChatInject.enqueuePrivateChat, if_pos ignored]
        rw [unchanged]
        exact invariant
      · simp only [InjectWorld.step, ChatInject.enqueuePrivateChat, if_neg ignored]
        exact invariant.enqueue _
  | drain filter maxPerTick =>
      exact invariant.tick clock (ChatInject.drain_spec engine config filter maxPerTick world)
  | audience audience => exact { invariant with }
  | inboundPushed msg => exact { invariant with }
  | elapse calls => exact { invariant with }

theorem run (clock : engine.SteadyClock) (config : Config) (inputs : List InjectInput) :
    BreakerInvariant engine (InjectWorld.run engine config inputs) :=
  Execution.run_invariant (BreakerInvariant engine)
    (fun _ input holds => holds.step clock config input)
    { phase := rfl, ready := rfl, warm := by simp } inputs

end BreakerInvariant

/-! ## Main result -/

namespace InjectWorld

theorem step_journal (engine : Engine) (config : Config) (world : InjectWorld)
    (input : InjectInput) :
    world.inject.journal.IsPrefix (world.step engine config input).inject.journal := by
  have enqueued : ∀ action, world.inject.journal.IsPrefix
      (world.inject.enqueue action).journal := fun action => List.prefix_append _ _
  cases input with
  | enqueueScreenLog playerController message =>
      cases playerController with
      | none => exact List.prefix_refl _
      | some controller => exact enqueued _
  | enqueuePrivateChat receiverPlayerUid message =>
      simp only [step, changeInject, ChatInject.enqueuePrivateChat]
      split
      · exact List.prefix_refl _
      · exact enqueued _
  | drain filter maxPerTick =>
      rcases (ChatInject.drain_spec engine config filter maxPerTick world).frame with
        ⟨⟨added, grown, -⟩, -⟩
      exact ⟨added, grown.symm⟩
  | enqueueLocalTagged | enqueueServerNotice => exact enqueued _
  | audience | inboundPushed | elapse => exact List.prefix_refl _

theorem run_journal (engine : Engine) (config : Config) (past later : List InjectInput) :
    (run engine config past).inject.journal.IsPrefix
      (run engine config (past ++ later)).inject.journal := by
  rw [run, run, Execution.run_append]
  exact Execution.run_relation
    (fun earlier after : InjectWorld =>
      earlier.inject.journal.IsPrefix after.inject.journal)
    (fun _ => List.prefix_refl _) (fun left right => left.trans right)
    (step_journal engine config) later

end InjectWorld

namespace InjectWorld

theorem phase_eq_opened_iff {world : InjectWorld} :
    world.phase = .opened ↔ world.inject.circuitOpen = true := by
  unfold phase
  split <;> simp_all

end InjectWorld

/-- Under a steady clock: an open circuit stays open and ends all calls, at most
one broadcast or notice ever faults, and every call comes at least 15 seconds
after the first sighting of a GameState. -/
theorem circuitBreaker (engine : Engine) (clock : engine.SteadyClock) (config : Config)
    (past later : List InjectInput) :
    let earlier := (InjectWorld.run engine config past).inject
    let now := (InjectWorld.run engine config (past ++ later)).inject
    (earlier.circuitOpen = true → now.circuitOpen = true ∧
      ∃ added, now.journal = earlier.journal ++ added ∧
        ∀ moment call returned, .processEvent moment call returned ∉ added) ∧
    (∀ before after, now.journal = before ++ .circuitOpened :: after →
      now.circuitOpen = true ∧
      ∀ moment call returned, .processEvent moment call returned ∉ after) ∧
    (now.journal.filter InjectEvent.isFault).length ≤ 1 ∧
    ∀ moment call returned, .processEvent moment call returned ∈ now.journal →
      ∃ ready, firstSighting now.journal = some ready ∧
        15 * nanosecondsPerSecond ≤ engine.now moment - engine.now ready := by
  have before := BreakerInvariant.run clock config past
  have after := BreakerInvariant.run clock config (past ++ later)
  refine ⟨fun isOpen => ?_, fun first rest split => ?_,
    CircuitPhase.faults_le after.phase, after.warm⟩
  · rcases InjectWorld.run_journal engine config past later with ⟨added, grown⟩
    have accepted := after.phase
    rw [← grown, Monitor.follow_append, before.phase,
      InjectWorld.phase_eq_opened_iff.mpr isOpen] at accepted
    rcases CircuitPhase.silent_of_opened accepted with ⟨opened, silent⟩
    exact ⟨InjectWorld.phase_eq_opened_iff.mp opened, added, grown.symm, silent⟩
  · have accepted := after.phase
    rw [split, Monitor.follow_append] at accepted
    rcases Option.bind_eq_some_iff.mp accepted with ⟨middle, -, accepted⟩
    rcases Option.bind_eq_some_iff.mp accepted with ⟨phase, moved, accepted⟩
    rw [CircuitPhase.next_circuitOpened moved] at accepted
    rcases CircuitPhase.silent_of_opened accepted with ⟨stillOpen, silent⟩
    exact ⟨InjectWorld.phase_eq_opened_iff.mp stillOpen, silent⟩

def unfiltered : WordFilter := .ofConfig (fun _ => none) { serverOrigin := [] }

def firstTick : List InjectInput := [.enqueueScreenLog (some 0) [0x41], .drain unfiltered 1]

def secondTick : List InjectInput := [.elapse 20, .drain unfiltered 1]

/-- A screen log that waits for the warm-up and is sent in the second tick. -/
theorem circuitBreaker_screenLog :
    ∃ ready, firstSighting (InjectWorld.run quietEngine { serverOrigin := [] }
        (firstTick ++ secondTick)).inject.journal = some ready ∧
      15 * nanosecondsPerSecond ≤ quietEngine.now 29 - quietEngine.now ready :=
  (circuitBreaker quietEngine quietEngine_steadyClock { serverOrigin := [] }
    firstTick secondTick).2.2.2 29 (.sendScreenLogToClient 0 [0x41]) true (by decide)

end PalCrosschat
