import PalCrosschat.TickDemand

/-! # The budget of a tick

`MaxBroadcastsPerTick` bounds the deferred actions and the inbound rows of a tick
separately, and neither bound counts messages. A tick keeps within its budget for
every engine exactly when its actions and rows need no more than it. -/

namespace PalCrosschat

open Bytes (ascii)

namespace ChatInject

/-! ## The limit -/

section Limit

variable (engine : Engine) (world : InjectWorld)

/-- The time since the world became ready, as `CanInjectNow` reads the clock. -/
def sinceReady : Nanoseconds :=
  let resolved := ((resolveGameState engine).run world).2
  let now := engine.now resolved.moment
  now - (if resolved.inject.worldReadyAt = 0 then now else resolved.inject.worldReadyAt)

theorem canInjectNow_fst (configuredMax : Int) :
    ((canInjectNow engine configuredMax).run world).1 =
      if world.inject.circuitOpen then none
      else if ((resolveGameState engine).run world).1.isNone then none
      else tickLimit configuredMax (sinceReady engine world) := by
  unfold canInjectNow
  rw [run_get_bind]
  split
  · rfl
  · rw [run_bind]
    split <;> rfl

/-- The messages a tick may issue: one during the ramp, then the configured number. -/
def tickBudget (maxPerTick : Int) : Nat :=
  if sinceReady engine world < kInjectRamp then 1 else maxPerTick.toNat

variable {engine world} {maxPerTick : Int} {limit : Nat}

theorem limit_eq_tickBudget (positive : 1 ≤ maxPerTick)
    (allowed : ((canInjectNow engine maxPerTick).run world).1 = some limit) :
    limit = tickBudget engine world maxPerTick ∧ (limit = 1 ∨ limit = maxPerTick.toNat) := by
  rw [canInjectNow_fst] at allowed
  split at allowed
  · cases allowed
  · split at allowed
    · cases allowed
    · rw [tickLimit] at allowed
      rw [tickBudget]
      split at allowed
      · cases allowed
      · split at allowed
        · rename_i ramp
          cases allowed
          rw [if_pos ramp]
          exact ⟨rfl, .inl rfl⟩
        · rename_i ramp
          cases allowed
          rw [if_neg ramp, if_pos (by omega)]
          exact ⟨rfl, .inr rfl⟩

theorem worldReady_of_allowed
    (allowed : ((canInjectNow engine maxPerTick).run world).1 = some limit) :
    world.inject.circuitOpen = false ∧ world.inject.worldReadyAt ≠ 0 := by
  rw [canInjectNow_fst] at allowed
  split at allowed
  · cases allowed
  · rename_i notOpen
    have isClosed : world.inject.circuitOpen = false := by simpa using notOpen
    refine ⟨isClosed, fun notReady => ?_⟩
    have readyAt : ((resolveGameState engine).run world).2.inject.worldReadyAt = 0 := by
      rcases resolveGameState_quiet engine isClosed world (.refl world) with quiet | ⟨-, tripped⟩
      · exact quiet.readyAt.trans notReady
      · exact tripped.readyAt.trans notReady
    split at allowed
    · cases allowed
    · rw [sinceReady, if_pos readyAt, Int.sub_self, tickLimit, if_pos (by decide)] at allowed
      cases allowed

end Limit

/-! ## Within the budget -/

section Budget

variable (config : Config) (filter : WordFilter) (maxPerTick : Int) (world : InjectWorld)

/-- Whatever the engine does, one `Drain` issues no more messages than its budget. -/
def WithinBudget : Prop :=
  ∀ engine, ((drain engine config filter maxPerTick).run world).2.chats.length ≤
    world.chats.length + tickBudget engine world maxPerTick

/-- Nothing is injected yet or any more, or the actions and rows of a tick need no
more messages than the limit they are counted against. -/
def FitsBudget : Prop :=
  world.inject.circuitOpen = true ∨ world.inject.worldReadyAt = 0 ∨
    (tickDemand config filter world 1 ≤ 1 ∧
      tickDemand config filter world maxPerTick.toNat ≤ maxPerTick.toNat)

instance : Decidable (FitsBudget config filter maxPerTick world) :=
  inferInstanceAs (Decidable (_ ∨ _ ∨ _ ∧ _))

variable {config filter maxPerTick world}

theorem drain_of_none {engine : Engine}
    (refused : ((canInjectNow engine maxPerTick).run world).1 = none) :
    ((drain engine config filter maxPerTick).run world).2 =
      ((canInjectNow engine maxPerTick).run world).2 := by
  rw [drain, run_bind, refused]
  rfl

theorem drain_of_some {engine : Engine} {limit : Nat} (positive : 0 < limit)
    (allowed : ((canInjectNow engine maxPerTick).run world).1 = some limit) :
    ((drain engine config filter maxPerTick).run world).2 =
      ((drainInbound engine config filter limit).run
        ((flushDeferred engine config limit).run
          ((canInjectNow engine maxPerTick).run world).2).2).2 := by
  rw [drain, run_bind, allowed]
  dsimp only
  rw [if_pos positive]
  rfl

theorem canInjectNow_sameChats (engine : Engine) (maxPerTick : Int) :
    Respects SameChats (canInjectNow engine maxPerTick) := by
  intro start
  rcases (canInjectNow_emits engine maxPerTick start).journal with ⟨added, grown, notes⟩
  have silent : added.filterMap InjectEvent.chat = [] := by
    apply List.filterMap_eq_nil_iff.mpr
    intro event member
    have isNote := notes event member
    cases event <;> first | rfl | cases isNote
  change List.filterMap InjectEvent.chat _ = start.chats
  rw [grown, List.filterMap_append, silent, List.append_nil, InjectWorld.chats]

/-- No engine makes a tick issue more than its actions and rows need. -/
theorem drain_chats_le (config : Config) (filter : WordFilter)
    (wellFormed : world.audience.WellFormed) {engine : Engine} {limit : Nat} (positive : 0 < limit)
    (allowed : ((canInjectNow engine maxPerTick).run world).1 = some limit) :
    ((drain engine config filter maxPerTick).run world).2.chats.length ≤
      world.chats.length + tickDemand config filter world limit := by
  have begun := canInjectNow_sameChats engine maxPerTick world
  have deferred : ((canInjectNow engine maxPerTick).run world).2.inject.deferred =
      world.inject.deferred := (canInjectNow_emits engine maxPerTick world).deferred
  have inbound := (canInjectNow_frame engine maxPerTick world).inbound
  have shrinks := (shrinkRules engine).canInjectNow maxPerTick world
  rw [drain_of_some positive allowed]
  generalize ((canInjectNow engine maxPerTick).run world).2 = ready at *
  have flushed := flushDeferred_chats_le engine config wellFormed shrinks limit
  have flushedInbound := ((fieldFrame engine).flushDeferred config limit ready).inbound
  have flushedShrinks := trans_of RosterShrinks shrinks
    ((shrinkRules engine).flushDeferred config limit ready)
  have drained := drainInbound_chats_le engine config filter wellFormed flushedShrinks limit
  rw [deferred, begun] at flushed
  rw [flushedInbound, inbound] at drained
  rw [tickDemand]
  omega

theorem withinBudget_of_fitsBudget (wellFormed : world.audience.WellFormed)
    (positive : 1 ≤ maxPerTick) (fits : FitsBudget config filter maxPerTick world) :
    WithinBudget config filter maxPerTick world := by
  intro engine
  cases allowed : ((canInjectNow engine maxPerTick).run world).1 with
  | none =>
      have begun := canInjectNow_sameChats engine maxPerTick world
      rw [drain_of_none allowed, begun]
      exact Nat.le_add_right _ _
  | some limit =>
      rcases limit_eq_tickBudget positive allowed with ⟨budget, either⟩
      have issued := drain_chats_le config filter wellFormed (by omega) allowed
      have ready := worldReady_of_allowed allowed
      rcases fits with isOpen | notReady | ⟨ramp, full⟩
      · rw [ready.1] at isOpen
        cases isOpen
      · exact absurd notReady ready.2
      · rw [← budget]
        rcases either with rfl | rfl <;> omega

end Budget

end ChatInject

end PalCrosschat
