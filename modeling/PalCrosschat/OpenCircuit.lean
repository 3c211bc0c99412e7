import PalCrosschat.CircuitBreaker
import PalCrosschat.InjectTraffic
import PalCrosschat.RelaySoundness

/-! # Chat behind an open circuit

Once the inject circuit is open nothing is rebroadcast any more. The hook does not
look at the circuit: with ShowLocalServerTag it still clears the lines that it
hands to inject. -/

namespace PalCrosschat

open Bytes (ascii)

/-! ## Silence -/

def StaysSilent (before after : ChatInject) : Prop :=
  before.circuitOpen = true → after.circuitOpen = true ∧
    ∃ added, after.journal = before.journal ++ added ∧
      ∀ moment call returned, .processEvent moment call returned ∉ added

namespace StaysSilent

theorem refl (inject : ChatInject) : StaysSilent inject inject :=
  fun isOpen => ⟨isOpen, [], (List.append_nil _).symm, nofun⟩

theorem trans {first second third : ChatInject} (left : StaysSilent first second)
    (right : StaysSilent second third) : StaysSilent first third := by
  intro isOpen
  rcases left isOpen with ⟨stillOpen, leftAdded, leftGrown, leftSilent⟩
  rcases right stillOpen with ⟨open_, rightAdded, rightGrown, rightSilent⟩
  refine ⟨open_, leftAdded ++ rightAdded, by rw [rightGrown, leftGrown, List.append_assoc], ?_⟩
  intro moment call returned member
  rcases List.mem_append.mp member with inLeft | inRight
  · exact leftSilent moment call returned inLeft
  · exact rightSilent moment call returned inRight

theorem enqueueAll (inject : ChatInject) (actions : List DeferredAction) :
    StaysSilent inject (inject.enqueueAll actions) := by
  intro isOpen
  rw [ChatInject.enqueueAll_eq]
  exact ⟨isOpen, actions.map .enqueued, rfl, by simp⟩

theorem tick {engine : Engine} {start world : InjectWorld}
    (ticked : ChatInject.Ticked engine start world) :
    StaysSilent start.inject world.inject := by
  intro isOpen
  rcases ticked with ⟨resolved, added, advances, -, ended⟩
  have accepted := advances.phase
  rw [show start.phase = .opened from if_pos isOpen] at accepted
  rcases CircuitPhase.silent_of_opened accepted with ⟨phase, silent⟩
  have stillOpen : resolved.inject.circuitOpen = true :=
    InjectWorld.phase_eq_opened_iff.mp phase
  rcases ended with rfl | ⟨isClosed, -⟩
  · exact ⟨stillOpen, added, advances.journal, silent⟩
  · exact absurd (stillOpen.symm.trans isClosed) (by simp)

end StaysSilent

theorem staysSilent_step (engine : Engine) (config : Config) (world : World)
    (input : WorldInput) :
    StaysSilent world.mod.world.inject
      (world.step engine config input).mod.world.inject := by
  cases input with
  | hook context =>
      change StaysSilent _ (world.mod.handleHook engine config context).1.world.inject
      rw [Mod.handleHook_inject]
      exact .enqueueAll _ _
  | update =>
      rcases Mod.drainInject_eq engine (world.mod.beforeDrain engine) config with
        ⟨drained, ticked, equal⟩
      change StaysSilent _
        ((world.mod.beforeDrain engine).drainInject engine config).world.inject
      rw [equal]
      refine .trans ?_ (.tick ticked)
      rw [Mod.beforeDrain_inject]
      exact .enqueueAll _ _
  | _ => exact .refl _

/-- From an open circuit on every run is silent. -/
theorem staysSilent_run (engine : Engine) (config : Config) (world : World)
    (inputs : List WorldInput) :
    StaysSilent world.mod.world.inject
      (World.run engine config world inputs).mod.world.inject :=
  Execution.run_relation
    (fun before after : World => StaysSilent before.mod.world.inject after.mod.world.inject)
    (fun _ => .refl _) .trans (staysSilent_step engine config) inputs

/-! ## The lines -/

/-- Behind an open circuit a line that passes the gates is left to the game exactly
when it is not one that the hook clears for its tag; nothing brings a cleared line
back. -/
theorem openCircuit_intact_iff (engine : Engine) (config : Config)
    (compile : RegexCompiler) (startedAt : Nanoseconds) (players : List PlayerRow)
    (inputs : List WorldInput) (context : HookContext)
    (isOpen : (World.run engine config (.initial compile config startedAt players)
      inputs).mod.world.inject.circuitOpen = true)
    (category : context.categoryByte = chatCategoryGlobal)
    (notCommand : isCommand (context.line engine.codec) = false)
    (noCode : tryParseSetDiscord (context.line engine.codec) = none)
    (noHit : (World.run engine config (.initial compile config startedAt players)
      inputs).mod.filter.findMatch (context.line engine.codec) = none)
    (notMuted : (World.run engine config (.initial compile config startedAt players)
      inputs).mod.senderMute engine context = none) :
    let world := World.run engine config (.initial compile config startedAt players) inputs
    ((world.mod.handleHook engine config context).2.message = context.message ↔
      ¬(config.showLocalServerTag = true ∧ context.line engine.codec ≠ [] ∧
        ¬LooksTagged config (context.line engine.codec) ∧
        context.message.clearable = true)) ∧
    ∀ later, ∃ added,
      (World.run engine config world (.hook context :: later)).mod.world.inject.journal =
        world.mod.world.inject.journal ++ added ∧
      ∀ moment call returned, .processEvent moment call returned ∉ added := by
  intro world
  refine ⟨?_, fun later => (staysSilent_run engine config world _ isOpen).2⟩
  by_cases nonempty : context.line engine.codec = []
  · have branch : world.mod.hookBranch engine config context = .empty := by
      simp [Mod.hookBranch, nonempty]
    rw [Mod.handleHook_eq, branch]
    simp [nonempty]
  · rw [Mod.handleHook_eq, Mod.hookBranch_of_passing config nonempty noCode notMuted noHit
      notCommand category, ← startsWithAnyPrefix_loopGuard_iff]
    cases startsWithAnyPrefix (context.line engine.codec) (loopGuardPrefixes config) with
    | true => simp
    | false =>
        simp only [Bool.false_eq_true, if_false, Mod.localTag, category, beq_self_eq_true,
          Bool.and_true]
        cases config.showLocalServerTag with
        | false => simp
        | true => simp [HookContext.clearMessage_message_eq_iff nonempty, nonempty]

def faultingEngine : Engine :=
  { quietEngine with findGameState := fun _ => .faulted }

def threeTicks : List WorldInput := [.update, .update, .update]

theorem openCircuit_untagged :
    ((World.run faultingEngine plainConfig (.initial literalRegex plainConfig 0 [])
      threeTicks).mod.handleHook faultingEngine plainConfig
        (typed (ascii "hello"))).2.message = (typed (ascii "hello")).message :=
  (openCircuit_intact_iff faultingEngine plainConfig literalRegex 0 [] threeTicks
    (typed (ascii "hello")) (by decide) (by decide) (by decide) (by decide) (by decide)
    (by decide)).1.mpr fun clears => absurd clears.1 (by decide)

/-- With local tags the line is cleared although nothing will be rebroadcast. -/
theorem hello_not_intact :
    let world := World.run faultingEngine taggingConfig
      (.initial literalRegex taggingConfig 0 []) threeTicks
    world.mod.world.inject.circuitOpen = true ∧
    (typed (ascii "hello")).categoryByte = chatCategoryGlobal ∧
    isCommand ((typed (ascii "hello")).line faultingEngine.codec) = false ∧
    tryParseSetDiscord ((typed (ascii "hello")).line faultingEngine.codec) = none ∧
    world.mod.filter.findMatch ((typed (ascii "hello")).line faultingEngine.codec) = none ∧
    world.mod.senderMute faultingEngine (typed (ascii "hello")) = none ∧
    (world.mod.handleHook faultingEngine taggingConfig (typed (ascii "hello"))).2.message ≠
      (typed (ascii "hello")).message := by
  decide

end PalCrosschat
