import PalCrosschat.InjectRules
import PalCrosschat.Roster

/-! # What broadcasting leaves alone

Deferred actions and inbound lines change the roster by calls of the tracker
only, and never touch the inbound queue. -/

namespace PalCrosschat

def RosterCalls (before after : AudienceTracker) : Prop :=
  ∃ operations, after = Execution.run AudienceTracker.step before operations

namespace RosterCalls

theorem of_eq {before after : AudienceTracker} (equal : after = before) :
    RosterCalls before after :=
  ⟨[], equal⟩

theorem refl (audience : AudienceTracker) : RosterCalls audience audience := of_eq rfl

theorem call (audience : AudienceTracker) (operation : AudienceTracker.Operation) :
    RosterCalls audience (audience.step operation) :=
  ⟨[operation], rfl⟩

theorem trans {first second third : AudienceTracker} (left : RosterCalls first second)
    (right : RosterCalls second third) : RosterCalls first third := by
  rcases left with ⟨leftOperations, rfl⟩
  rcases right with ⟨rightOperations, rfl⟩
  exact ⟨leftOperations ++ rightOperations, (Execution.run_append _ _).symm⟩

theorem wellFormed {before after : AudienceTracker} (calls : RosterCalls before after)
    (holds : before.WellFormed) : after.WellFormed := by
  rcases calls with ⟨operations, rfl⟩
  exact Execution.run_invariant AudienceTracker.WellFormed
    (fun _ operation wellFormed => wellFormed.step operation) holds operations

end RosterCalls

/-! ## Actions and lines -/

structure BroadcastFrame (start world : InjectWorld) : Prop where
  roster : RosterCalls start.audience world.audience
  inbound : world.inbound = start.inbound

instance : IsPreorder InjectWorld BroadcastFrame where
  refl world := ⟨.refl world.audience, rfl⟩
  trans _ _ _ left right :=
    ⟨left.roster.trans right.roster, right.inbound.trans left.inbound⟩

namespace ChatInject

variable (engine : Engine) (config : Config)

theorem updateInject_frame (change : ChatInject → ChatInject) :
    Respects BroadcastFrame (updateInject change) :=
  fun world => ⟨.refl world.audience, rfl⟩

theorem fieldFrame : FieldRules engine BroadcastFrame where
  ask _ world := ⟨.refl world.audience, rfl⟩
  update := updateInject_frame
  bootstrap := by
    refine .bind (fun world => ⟨.refl world.audience, rfl⟩) fun findAll => ?_
    refine .bind (fun world => ⟨.refl world.audience, rfl⟩) fun joinReading world => ?_
    exact ⟨.call world.audience (.tryBootstrapOnce findAll joinReading), rfl⟩
  snapshot := by
    refine .bind (fun world => ⟨.refl world.audience, rfl⟩) fun alive world => ?_
    exact ⟨.call world.audience (.snapshot alive), rfl⟩
  forget receivers world := ⟨.call world.audience (.forgetMany receivers), rfl⟩

theorem frameRules : ActionRules engine BroadcastFrame :=
  (fieldFrame engine).actionRules

theorem canInjectNow_frame (configuredMax : Int) :
    Respects BroadcastFrame (canInjectNow engine configuredMax) :=
  (fieldFrame engine).canInjectNow configuredMax

/-! ## The tick -/

def RosterSteps (start world : InjectWorld) : Prop :=
  RosterCalls start.audience world.audience

instance : IsPreorder InjectWorld RosterSteps where
  refl world := .refl world.audience
  trans _ _ _ left right := RosterCalls.trans left right

theorem drainInbound_roster (filter : WordFilter) (limit : Nat) :
    Respects RosterSteps (drainInbound engine config filter limit) := by
  induction limit with
  | zero => exact .pure _
  | succ remaining induction =>
      intro start
      rw [drainInbound, run_get_bind]
      rcases start.inbound.tryPop with ⟨popped, inbound⟩
      cases popped with
      | none => exact .refl start.audience
      | some item =>
          have rest : Respects RosterSteps (do
              let sent ← broadcastOne engine config filter item
              updateInject fun inject => inject.note (.injected item sent)
              if sent then
                drainInbound engine config filter remaining
              else
                modify fun world => { world with inbound := world.inbound.push item }) := by
            refine .bind (((frameRules engine).broadcastOne config filter item).mono
              BroadcastFrame.roster) fun sent => ?_
            refine .bind ((updateInject_frame _).mono BroadcastFrame.roster) fun _ => ?_
            exact .ite induction fun world => .refl world.audience
          exact rest _

theorem drain_roster (filter : WordFilter) (maxPerTick : Int) :
    Respects RosterSteps (drain engine config filter maxPerTick) := by
  refine .bind ((canInjectNow_frame engine maxPerTick).mono BroadcastFrame.roster)
    fun limit => ?_
  cases limit with
  | none => exact .pure _
  | some limit =>
      exact .bind (((fieldFrame engine).flushDeferred config _).mono BroadcastFrame.roster) fun _ =>
        drainInbound_roster engine config filter limit

end ChatInject

end PalCrosschat
