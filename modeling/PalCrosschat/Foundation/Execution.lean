import Mathlib.Data.List.Induction
import Mathlib.Order.Nat

/-! # Executions of a deterministic machine

A machine is its step function: one input takes a state to the next one. Every
nondeterministic choice (the scheduler, the other parties, failures) is part of
the input, so the runs of a system are the lists of inputs. -/

namespace PalCrosschat

namespace Execution

variable {State Input : Type}

def run (step : State → Input → State) (initial : State)
    (inputs : List Input) : State :=
  inputs.foldl step initial

section Run

variable {step : State → Input → State} {initial : State}

@[simp] theorem run_nil : run step initial [] = initial := rfl

@[simp] theorem run_cons (input : Input) (inputs : List Input) :
    run step initial (input :: inputs) =
      run step (step initial input) inputs := rfl

theorem run_append (first second : List Input) :
    run step initial (first ++ second) =
      run step (run step initial first) second :=
  List.foldl_append

theorem run_snoc (inputs : List Input) (input : Input) :
    run step initial (inputs ++ [input]) =
      step (run step initial inputs) input := by
  rw [run_append, run_cons, run_nil]

/-- What holds initially and is kept by every step holds after every run. -/
theorem run_invariant (Invariant : State → Prop)
    (keeps : ∀ state input, Invariant state → Invariant (step state input))
    (holds : Invariant initial) (inputs : List Input) :
    Invariant (run step initial inputs) := by
  induction inputs generalizing initial with
  | nil => exact holds
  | cons input inputs induction => exact induction (keeps initial input holds)

/-- The same rule for an invariant that also speaks about the inputs so far. -/
theorem run_history_invariant (Invariant : List Input → State → Prop)
    (holds : Invariant [] initial)
    (keeps : ∀ past input, Invariant past (run step initial past) →
      Invariant (past ++ [input]) (step (run step initial past) input))
    (inputs : List Input) : Invariant inputs (run step initial inputs) := by
  induction inputs using List.reverseRecOn with
  | nil => exact holds
  | append_singleton past input induction =>
      rw [run_snoc]
      exact keeps past input induction

/-- A preorder between states that every step respects relates the ends of
every run. -/
theorem run_relation (Relation : State → State → Prop)
    (refl : ∀ state, Relation state state)
    (trans : ∀ {first second third}, Relation first second →
      Relation second third → Relation first third)
    (steps : ∀ state input, Relation state (step state input))
    (inputs : List Input) : Relation initial (run step initial inputs) := by
  induction inputs generalizing initial with
  | nil => exact refl initial
  | cons input inputs induction =>
      exact trans (steps initial input) induction

/-- The same rule when only the steps of this run are known to respect the preorder. -/
theorem run_relation_of_mem (Relation : State → State → Prop)
    (refl : ∀ state, Relation state state)
    (trans : ∀ {first second third}, Relation first second →
      Relation second third → Relation first third)
    (inputs : List Input) (steps : ∀ state, ∀ input ∈ inputs, Relation state (step state input)) :
    Relation initial (run step initial inputs) := by
  induction inputs generalizing initial with
  | nil => exact refl initial
  | cons input inputs induction =>
      exact trans (steps initial input List.mem_cons_self)
        (induction fun state other member => steps state other (List.mem_cons_of_mem _ member))

/-- A number that falls with every turn of a party and rises with no step is used up
after as many turns, in a run that keeps an invariant. -/
theorem run_countdown (Invariant : State → Prop) (rank : State → Nat) {turn : Input → Bool}
    (inputs : List Input)
    (keeps : ∀ state, Invariant state → ∀ input ∈ inputs, Invariant (step state input))
    (falls : ∀ state, Invariant state → ∀ input ∈ inputs,
      rank (step state input) ≤ rank state - (if turn input then 1 else 0))
    (holds : Invariant initial) :
    rank (run step initial inputs) ≤ rank initial - inputs.countP turn := by
  induction inputs generalizing initial with
  | nil => exact Nat.le_refl _
  | cons input inputs induction =>
      have first := falls initial holds input List.mem_cons_self
      have rest := @induction (step initial input)
        (fun state holds other member => keeps state holds other (List.mem_cons_of_mem _ member))
        (fun state holds other member => falls state holds other (List.mem_cons_of_mem _ member))
        (keeps initial holds input List.mem_cons_self)
      rw [run_cons, List.countP_cons]
      omega

/-- Every step of the run is allowed in the state it meets. -/
def Along (step : State → Input → State) (Allowed : State → Input → Prop) :
    State → List Input → Prop
  | _, [] => True
  | state, input :: inputs => Allowed state input ∧ Along step Allowed (step state input) inputs

instance Along.decidable (Allowed : State → Input → Prop)
    [∀ state input, Decidable (Allowed state input)] :
    ∀ state inputs, Decidable (Along step Allowed state inputs)
  | _, [] => .isTrue trivial
  | state, input :: inputs =>
      have := Along.decidable Allowed (step state input) inputs
      inferInstanceAs (Decidable (_ ∧ _))

theorem along_snoc {Allowed : State → Input → Prop} (inputs : List Input) (input : Input) :
    Along step Allowed initial (inputs ++ [input]) ↔
      Along step Allowed initial inputs ∧ Allowed (run step initial inputs) input := by
  induction inputs generalizing initial with
  | nil => simp [Along]
  | cons head tail induction => simp [Along, induction, and_assoc]

theorem along_congr {Allowed Other : State → Input → Prop}
    (same : ∀ state input, Allowed state input ↔ Other state input) (inputs : List Input) :
    Along step Allowed initial inputs ↔ Along step Other initial inputs := by
  induction inputs generalizing initial with
  | nil => exact Iff.rfl
  | cons head tail induction => exact and_congr (same initial head) induction

theorem along_and {Allowed Other : State → Input → Prop} {inputs : List Input} :
    Along step (fun state input => Allowed state input ∧ Other state input) initial inputs ↔
      Along step Allowed initial inputs ∧ Along step Other initial inputs := by
  induction inputs generalizing initial with
  | nil => simp [Along]
  | cons head tail induction => simp [Along, induction, and_assoc, and_left_comm]

/-- The history rule for runs whose steps are all allowed. -/
theorem run_along_invariant {Allowed : State → Input → Prop}
    (Invariant : List Input → State → Prop) (holds : Invariant [] initial)
    (keeps : ∀ past input, Allowed (run step initial past) input →
      Invariant past (run step initial past) →
      Invariant (past ++ [input]) (step (run step initial past) input))
    (inputs : List Input) (allowed : Along step Allowed initial inputs) :
    Invariant inputs (run step initial inputs) :=
  run_history_invariant
    (fun inputs state => Along step Allowed initial inputs → Invariant inputs state)
    (fun _ => holds)
    (fun past input holdsPast allowed =>
      have split := (along_snoc past input).mp allowed
      keeps past input split.2 (holdsPast split.1))
    inputs allowed

end Run

/-! ## Traces -/

section Trace

variable {Label : Type}

def trace (step : State → Input → State) (label : State → Input → Label)
    (initial : State) : List Input → List Label
  | [] => []
  | input :: inputs => label initial input :: trace step label (step initial input) inputs

variable {step : State → Input → State} {label : State → Input → Label} {initial : State}

theorem trace_snoc (inputs : List Input) (input : Input) :
    trace step label initial (inputs ++ [input]) =
      trace step label initial inputs ++ [label (run step initial inputs) input] := by
  induction inputs generalizing initial with
  | nil => rfl
  | cons head tail induction => exact congrArg (label initial head :: ·) induction

theorem getElem?_trace (inputs : List Input) (time : Nat) :
    (trace step label initial inputs)[time]? =
      inputs[time]?.map (label (run step initial (inputs.take time))) := by
  induction inputs generalizing initial time with
  | nil => rfl
  | cons head tail induction =>
      cases time with
      | zero => rfl
      | succ time => exact induction time

end Trace

/-! ## Endless runs -/

def stateAt (step : State → Input → State) (initial : State)
    (inputs : Nat → Input) : Nat → State
  | 0 => initial
  | count + 1 => step (stateAt step initial inputs count) (inputs count)

/-- What holds after every run holds all along an endless one. -/
theorem stateAt_eq_run (step : State → Input → State) (initial : State)
    (inputs : Nat → Input) (count : Nat) :
    stateAt step initial inputs count =
      run step initial ((List.range count).map inputs) := by
  induction count with
  | zero => rfl
  | succ count induction =>
      rw [List.range_succ, List.map_append, List.map_singleton, run_snoc, ← induction]
      rfl

/-- A goal is reached when no step leads away from it and the steps of a
recurring kind lead closer. -/
theorem eventually_of_recurring {Goal Helps : Nat → Prop} (distance : Nat → Nat)
    {start : Nat} (recurs : ∀ moment, ∃ later, moment ≤ later ∧ Helps later)
    (stays : ∀ moment, start ≤ moment →
      Goal moment ∨ distance (moment + 1) ≤ distance moment)
    (approaches : ∀ moment, start ≤ moment → Helps moment →
      Goal moment ∨ distance (moment + 1) < distance moment) :
    ∃ moment, start ≤ moment ∧ Goal moment := by
  by_contra never
  have missed : ∀ moment, start ≤ moment → ¬Goal moment := fun moment after goal =>
    never ⟨moment, after, goal⟩
  have shrinks : ∀ first later, start ≤ first → first ≤ later →
      distance later ≤ distance first := by
    intro first later after order
    induction order with
    | refl => exact Nat.le_refl _
    | @step later order induction =>
        exact ((stays later (after.trans order)).resolve_left
          (missed later (after.trans order))).trans induction
  -- Below any bound there is still a smaller distance.
  have below : ∀ bound, ∃ moment, start ≤ moment ∧ distance moment + bound ≤ distance start := by
    intro bound
    induction bound with
    | zero => exact ⟨start, Nat.le_refl _, Nat.le_refl _⟩
    | succ bound induction =>
        rcases induction with ⟨moment, after, close⟩
        rcases recurs moment with ⟨later, order, helps⟩
        have reached := after.trans order
        have closer := (approaches later reached helps).resolve_left (missed later reached)
        have kept := shrinks moment later after order
        exact ⟨later + 1, reached.trans (Nat.le_succ _), by omega⟩
  rcases below (distance start + 1) with ⟨moment, -, close⟩
  omega

end Execution

end PalCrosschat
