import PalCrosschat.ReconnectBackoff

/-! # Sleeping in slices

`SleepInterruptible` sleeps in slices of 50 ms and looks at the stop token before each of
them. `DbWorker.step` takes a whole sleep for one step; here it is one step a slice, and
the two machines are compared. Times are in milliseconds. -/

namespace PalCrosschat

def sleepSlice : Int := 50

/-- The argument of the `SleepInterruptible` the thread is in. -/
def Worker.sleepTime (worker : Worker) : Int :=
  match worker.control with
  | .backoff => 1000 * worker.backoffSec
  | .idle => 50
  | _ => 0

structure SlicedThread where
  state : DbState
  /-- `remaining` of `SleepInterruptible`. -/
  remaining : Int
  /-- History variable: the slices of this sleep. -/
  slept : List Int := []

namespace SlicedThread

def enter (state : DbState) : SlicedThread where
  state
  remaining := state.worker.sleepTime

/-- The next step is a slice of a sleep. -/
def Dozes (thread : SlicedThread) (input : WorkerInput) : Prop :=
  thread.state.worker.control.asleep = true ∧ 0 < thread.remaining ∧
    input.stopRequested = false

instance (thread : SlicedThread) (input : WorkerInput) : Decidable (thread.Dozes input) :=
  inferInstanceAs (Decidable (_ ∧ _))

def sleepFor (thread : SlicedThread) (slice : Int) : SlicedThread :=
  { thread with
    remaining := thread.remaining - slice
    slept := thread.slept ++ [slice] }

variable (config : Config)

def step (thread : SlicedThread) (input : WorkerInput) : SlicedThread :=
  if thread.Dozes input then
    thread.sleepFor (if thread.remaining < sleepSlice then thread.remaining else sleepSlice)
  else enter (DbWorker.step config thread.state input)

abbrev run (thread : SlicedThread) (inputs : List WorkerInput) : SlicedThread :=
  Execution.run (step config) thread inputs

/-! ## One sleep -/

/-- What was slept and what is left make up the time that was asked for, in whole slices
but for the last one. -/
structure Paced (thread : SlicedThread) : Prop where
  nonneg : 0 ≤ thread.remaining ∨ thread.slept = []
  total : thread.slept.sum + thread.remaining = thread.state.worker.sleepTime
  slices : ∀ slice ∈ thread.slept, 0 < slice ∧ slice ≤ sleepSlice
  whole : 0 < thread.remaining → thread.slept.sum = sleepSlice * thread.slept.length
  few : sleepSlice * thread.slept.length < thread.slept.sum + sleepSlice

theorem paced_enter (state : DbState) : (enter state).Paced where
  nonneg := .inr rfl
  total := Int.zero_add _
  slices := by simp [enter]
  whole _ := rfl
  few := by
    change sleepSlice * 0 < 0 + sleepSlice
    decide

variable {config} {thread : SlicedThread} {input : WorkerInput}

theorem Paced.sleepFor (paced : thread.Paced) {slice : Int} (left : 0 < thread.remaining)
    (positive : 0 < slice) (short : slice ≤ sleepSlice) (enough : slice ≤ thread.remaining)
    (last : slice = sleepSlice ∨ slice = thread.remaining) : (thread.sleepFor slice).Paced := by
  have whole := paced.whole left
  have total := paced.total
  constructor
  · left
    exact Int.sub_nonneg_of_le enough
  · simp only [SlicedThread.sleepFor, List.sum_append, List.sum_singleton]
    omega
  · intro other member
    rcases List.mem_append.mp member with old | new
    · exact paced.slices other old
    · rw [List.mem_singleton.mp new]
      exact ⟨positive, short⟩
  · intro stillLeft
    simp only [SlicedThread.sleepFor, List.sum_append, List.sum_singleton, List.length_append,
      List.length_singleton] at stillLeft ⊢
    push_cast
    rw [whole, Int.mul_add, Int.mul_one]
    omega
  · simp only [SlicedThread.sleepFor, List.sum_append, List.sum_singleton, List.length_append,
      List.length_singleton]
    push_cast
    rw [whole, Int.mul_add, Int.mul_one]
    omega

theorem Paced.step (paced : thread.Paced) : (thread.step config input).Paced := by
  unfold SlicedThread.step
  split
  · rename_i dozes
    split
    · rename_i short
      exact paced.sleepFor dozes.2.1 dozes.2.1 (Int.le_of_lt short) (Int.le_refl _) (.inr rfl)
    · rename_i long
      exact paced.sleepFor dozes.2.1 (by decide) (Int.le_refl _) (Int.not_lt.mp long) (.inl rfl)
  · exact paced_enter _

/-! ## The thread without slices -/

theorem step_of_dozes (dozes : thread.Dozes input) :
    (thread.step config input).state = thread.state := by
  rw [step, if_pos dozes]
  rfl

theorem step_of_wakes (wakes : ¬thread.Dozes input) :
    thread.step config input = enter (DbWorker.step config thread.state input) :=
  if_neg wakes

variable (config)

def awake (thread : SlicedThread) : List WorkerInput → List WorkerInput
  | [] => []
  | input :: rest =>
      if thread.Dozes input then awake (thread.step config input) rest
      else input :: awake (thread.step config input) rest

theorem awake_append (thread : SlicedThread) (inputs more : List WorkerInput) :
    thread.awake config (inputs ++ more) =
      thread.awake config inputs ++ (run config thread inputs).awake config more := by
  induction inputs generalizing thread with
  | nil => rfl
  | cons input inputs induction =>
      rw [List.cons_append, awake, awake, induction]
      split <;> rfl

theorem refines (thread : SlicedThread) (inputs : List WorkerInput) :
    (run config thread inputs).state =
      Execution.run (DbWorker.step config) thread.state (thread.awake config inputs) := by
  induction inputs generalizing thread with
  | nil => rfl
  | cons input inputs induction =>
      rw [run, Execution.run_cons, induction, awake]
      split
      · rename_i dozes
        rw [step_of_dozes dozes]
      · rename_i wakes
        rw [step_of_wakes wakes]
        rfl

theorem exists_dozing (thread : SlicedThread) :
    ∃ slices : List WorkerInput, thread.awake config slices = [] ∧
      ∀ input, ¬(run config thread slices).Dozes input := by
  generalize left : thread.remaining.toNat = time
  induction time using Nat.strong_induction_on generalizing thread with
  | h time induction =>
      by_cases dozes : thread.Dozes {}
      · have shorter : (thread.step config {}).remaining.toNat < time := by
          have positive := dozes.2.1
          rw [step, if_pos dozes, ← left]
          change (thread.remaining - if thread.remaining < 50 then _ else 50).toNat < _
          by_cases short : thread.remaining < 50
          · rw [if_pos short]
            omega
          · rw [if_neg short]
            omega
        rcases induction _ shorter (thread.step config {}) rfl with ⟨slices, quiet, ended⟩
        refine ⟨{} :: slices, ?_, ended⟩
        rw [awake, if_pos dozes, quiet]
      · exact ⟨[], rfl, fun input given => dozes ⟨given.1, given.2.1, rfl⟩⟩

theorem exists_sliced (thread : SlicedThread) (inputs : List WorkerInput) :
    ∃ sliced, thread.awake config sliced = inputs := by
  induction inputs generalizing thread with
  | nil => exact ⟨[], rfl⟩
  | cons input inputs induction =>
      rcases exists_dozing config thread with ⟨slices, quiet, ended⟩
      rcases induction ((run config thread slices).step config input) with ⟨rest, reached⟩
      refine ⟨slices ++ input :: rest, ?_⟩
      rw [awake_append, quiet, List.nil_append, awake, if_neg (ended input), reached]

variable {config}

/-- After a stop request no slice is slept any more. -/
theorem run_of_stop {inputs : List WorkerInput}
    (requested : ∀ input ∈ inputs, input.stopRequested = true) (thread : SlicedThread) :
    (run config thread inputs).state =
      Execution.run (DbWorker.step config) thread.state inputs := by
  induction inputs generalizing thread with
  | nil => rfl
  | cons input inputs induction =>
      have wakes : ¬thread.Dozes input := by
        intro dozes
        have notRequested := dozes.2.2
        rw [requested input List.mem_cons_self] at notRequested
        cases notRequested
      have rest := induction (fun other member =>
        requested other (List.mem_cons_of_mem _ member)) (thread.step config input)
      rw [run, Execution.run_cons, rest, step_of_wakes wakes]
      rfl

theorem Paced.dozes_iff (paced : thread.Paced) :
    thread.Dozes input ↔ thread.state.worker.control.asleep = true ∧
      thread.slept.sum < thread.state.worker.sleepTime ∧ input.stopRequested = false := by
  have total := paced.total
  constructor
  · intro dozes
    exact ⟨dozes.1, by have left := dozes.2.1; omega, dozes.2.2⟩
  · intro given
    exact ⟨given.1, by omega, given.2.2⟩

theorem Paced.slept_le (paced : thread.Paced) :
    thread.slept.sum ≤ max 0 thread.state.worker.sleepTime := by
  have total := paced.total
  rcases paced.nonneg with left | nothing
  · omega
  · rw [nothing, List.sum_nil]
    exact Int.le_max_left _ _

/-- The states of a run in slices are the states of the run whose steps are the steps that are
no slices, and every run of the thread is obtained in this way. Each sleep is made of slices of
at most 50 ms, as few as possible. It goes on exactly as long as it has not lasted as long as
asked and no stop is requested, and never lasts longer; after a stop request no slice is
slept. -/
theorem sleeps_in_slices (config : Config) (state : DbState) (inputs : List WorkerInput) :
    let thread := run config (enter state) inputs
    thread.state =
        Execution.run (DbWorker.step config) state ((enter state).awake config inputs) ∧
      (∃ sliced, (enter state).awake config sliced = inputs) ∧
      (∀ slice ∈ thread.slept, 0 < slice ∧ slice ≤ sleepSlice) ∧
      sleepSlice * thread.slept.length < thread.slept.sum + sleepSlice ∧
      thread.slept.sum ≤ max 0 thread.state.worker.sleepTime ∧
      (∀ input, thread.Dozes input ↔ thread.state.worker.control.asleep = true ∧
        thread.slept.sum < thread.state.worker.sleepTime ∧ input.stopRequested = false) ∧
      ∀ more : List WorkerInput, (∀ input ∈ more, input.stopRequested = true) →
        (run config thread more).state =
          Execution.run (DbWorker.step config) thread.state more := by
  intro thread
  have paced : thread.Paced :=
    Execution.run_invariant Paced (fun _ _ paced => paced.step) (paced_enter state) inputs
  exact ⟨refines config (enter state) inputs, exists_sliced config (enter state) inputs,
    paced.slices, paced.few, paced.slept_le, fun _ => paced.dozes_iff,
    fun _ requested => run_of_stop requested thread⟩

end SlicedThread

end PalCrosschat
