import Mathlib.Order.Defs.Unbundled

/-! # Pre- and postconditions of state programs

A stateful function of the source is a `StateM` program. `Ensures` is its
Hoare triple; the rules below take a program apart along its binds, so that
each function needs one triple and its callers use that triple by name.
`Respects` is the form for what holds from any start, as a relation between the
start and the end. -/

namespace PalCrosschat

variable {State : Type} {α β : Type}

/-- From every state satisfying `before`, the program ends with a value and a
state satisfying `after`. -/
def Ensures (before : State → Prop) (program : StateM State α)
    (after : α → State → Prop) : Prop :=
  ∀ state, before state →
    after (program.run state).1 (program.run state).2

abbrev Keeps (Invariant : State → Prop) (program : StateM State α) : Prop :=
  Ensures Invariant program fun _ state => Invariant state

/-! ## Running a program by hand -/

theorem run_bind (first : StateM State α) (second : α → StateM State β) (state : State) :
    (first >>= second).run state =
      (second (first.run state).1).run (first.run state).2 := rfl

theorem run_get_bind (program : State → StateM State β) (state : State) :
    ((get : StateM State State) >>= program).run state = (program state).run state := rfl

/-! ## Rules -/

namespace Ensures

variable {before : State → Prop} {after : α → State → Prop}

theorem pure {value : α} (holds : ∀ state, before state → after value state) :
    Ensures before (Pure.pure value : StateM State α) after :=
  holds

theorem bind {first : StateM State α} {second : α → StateM State β}
    {middle : α → State → Prop} {final : β → State → Prop}
    (runsFirst : Ensures before first middle)
    (runsSecond : ∀ value, Ensures (middle value) (second value) final) :
    Ensures before (first >>= second) final := by
  intro state holds
  exact runsSecond _ _ (runsFirst state holds)

theorem get (after : State → State → Prop)
    (holds : ∀ state, before state → after state state) :
    Ensures before (MonadState.get : StateM State State) after :=
  holds

theorem modifies {change : State → State} (after : PUnit → State → Prop)
    (holds : ∀ state, before state → after ⟨⟩ (change state)) :
    Ensures before (modify change : StateM State PUnit) after :=
  holds

theorem ite {condition : Prop} [Decidable condition]
    {yes no : StateM State α}
    (whenTrue : condition → Ensures before yes after)
    (whenFalse : ¬condition → Ensures before no after) :
    Ensures before (if condition then yes else no) after := by
  split
  · exact whenTrue ‹_›
  · exact whenFalse ‹_›

theorem weaken {stronger : State → Prop} {weaker : α → State → Prop}
    {program : StateM State α} (holds : Ensures before program after)
    (strengthen : ∀ state, stronger state → before state)
    (relax : ∀ value state, after value state → weaker value state) :
    Ensures stronger program weaker := by
  intro state start
  exact relax _ _ (holds state (strengthen state start))

end Ensures

/-! ## Programs within a relation -/

def Respects (Relation : State → State → Prop) (program : StateM State α) : Prop :=
  ∀ state, Relation state (program.run state).2

namespace Respects

variable {Relation : State → State → Prop}

theorem pure [Std.Refl Relation] (value : α) :
    Respects Relation (Pure.pure value : StateM State α) :=
  fun state => refl_of Relation state

theorem get [Std.Refl Relation] :
    Respects Relation (MonadState.get : StateM State State) :=
  fun state => refl_of Relation state

theorem bind [IsTrans State Relation] {first : StateM State α} {second : α → StateM State β}
    (left : Respects Relation first) (right : ∀ value, Respects Relation (second value)) :
    Respects Relation (first >>= second) :=
  fun state => trans_of Relation (left state) (right _ _)

/-- The rest of a program may rely on what the first part always returns. -/
theorem bind_of [IsTrans State Relation] {first : StateM State α}
    {second : α → StateM State β} (Result : α → Prop) (left : Respects Relation first)
    (returns : ∀ state, Result (first.run state).1)
    (right : ∀ value, Result value → Respects Relation (second value)) :
    Respects Relation (first >>= second) :=
  fun state => trans_of Relation (left state) (right _ (returns state) _)

theorem ite {condition : Prop} [Decidable condition] {yes no : StateM State α}
    (whenTrue : Respects Relation yes) (whenFalse : Respects Relation no) :
    Respects Relation (if condition then yes else no) := by
  split
  · exact whenTrue
  · exact whenFalse

theorem mono {Wider : State → State → Prop} {program : StateM State α}
    (respects : Respects Relation program)
    (included : ∀ {start final}, Relation start final → Wider start final) :
    Respects Wider program :=
  fun state => included (respects state)

end Respects

end PalCrosschat
