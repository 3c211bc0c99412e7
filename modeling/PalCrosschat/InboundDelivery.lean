import PalCrosschat.InboundCursor

/-! # Delivery of inbound rows

Over endless runs in which the thread stays connected and keeps polling, a row
reaches the inbound queue exactly once when no row with a larger id was selected
before it became visible, and never otherwise: the cursor passes over it. -/

namespace PalCrosschat

/-! ## Healthy steps -/

/-- Every call of the step succeeds. -/
structure WorkerInput.Healthy (input : WorkerInput) : Prop where
  ok : input.ok = true
  connect : input.connect = .ready
  running : input.stopRequested = false

def Worker.selected (worker : Worker) : Nat :=
  max worker.horizon ((worker.control.rows.map (·.id)).foldr max 0)

theorem Worker.selected_of_rows_eq_nil {worker : Worker}
    (noRows : worker.control.rows = []) : worker.selected = worker.horizon := by
  simp [selected, noRows]

namespace DbWorker

variable {config : Config} {state after : DbState} {input : WorkerInput}

/-- With rows at hand, or a push not yet shown by the cursor, a healthy step is
not quiet. -/
theorem idle_of_quiet (healthy : input.Healthy)
    (quiet : Quiet state (step config state input)) :
    state.worker.control.rows = [] ∧ state.worker.control.advances = false := by
  have free := quiet.holds
  cases control : state.worker.control with
  | fetching batch =>
      refine ⟨?_, rfl⟩
      cases rows : batch.rows with
      | nil => exact rows
      | cons row rest =>
          simp only [step, control, rows, healthy.ok, if_true] at free
          cases free
  | updatingCursor id batch =>
      simp only [step, control, healthy.ok, if_true] at free
      cases free
  | _ => exact ⟨rfl, rfl⟩

theorem cursorReady_step (config : Config) (state : DbState) (healthy : input.Healthy)
    (ready : state.worker.cursorReady = true) :
    (step config state input).worker.cursorReady = true := by
  cases control : state.worker.control with
  | loopHead =>
      simp only [step, control, healthy.running, Bool.false_eq_true, if_false, ensureConnected]
      split
      · exact ready
      · rw [healthy.connect]
        exact ready
  | drainLinks =>
      simp only [step, control, healthy.running, Bool.false_eq_true, if_false]
      split
      · exact ready
      · unfold beginLink
        split <;> exact ready
  | linkConflict job =>
      simp only [step, control, linkConflict]
      repeat' split
      all_goals exact ready
  | linkLookup job =>
      simp only [step, control, linkLookup]
      repeat' split
      all_goals exact ready
  | linkComplete job =>
      simp only [step, control, linkComplete]
      repeat' split
      all_goals exact ready
  | drainOutbound =>
      simp only [step, control, healthy.running, Bool.false_eq_true, if_false]
      split <;> exact ready
  | pollCheck =>
      simp only [step, control]
      split <;> exact ready
  | fetching batch =>
      simp only [step, control, healthy.ok, if_true]
      split <;> exact ready
  | upsertCursor maxId =>
      simp only [step, control, healthy.ok, if_true]
      rfl
  | stopped =>
      simp only [step, control]
      exact ready
  | _ =>
      simp only [step, control, healthy.ok, healthy.running, Bool.false_eq_true, if_false,
        if_true]
      exact ready

theorem rows_step_of_selecting (config : Config) (state : DbState) (healthy : input.Healthy)
    {now : Nanoseconds} (control : state.worker.control = .selecting now) :
    (step config state input).worker.control.rows =
      state.database.poll state.worker.selected config.serverOrigin config.maxBatch.toNat := by
  have noRows : state.worker.control.rows = [] := by rw [control]; rfl
  have selected : state.worker.selected = state.worker.cursorId.getD 0 := by
    rw [Worker.selected_of_rows_eq_nil noRows, Worker.horizon, control]
  simp only [step, control, healthy.ok, if_true, selected]
  rfl

end DbWorker

/-! ## One row -/

section Selected

variable {config : Config} {worker : Worker} {database : Database}

theorem Worker.le_selected {row : Row} (member : row ∈ worker.control.rows) :
    row.id ≤ worker.selected :=
  (List.le_max_of_le' 0 (List.mem_map_of_mem member) (Nat.le_refl row.id)).trans
    (Nat.le_max_right _ _)

theorem Worker.selected_lt {bound : Nat} (horizon : worker.horizon < bound)
    (rows : ∀ row ∈ worker.control.rows, row.id < bound) : worker.selected < bound := by
  have bounded : (worker.control.rows.map (·.id)).foldr max 0 ≤ bound - 1 := by
    refine List.max_le_of_forall_le _ _ fun id member => ?_
    rcases List.mem_map.mp member with ⟨row, inRows, rfl⟩
    exact Nat.le_sub_one_of_lt (rows row inRows)
  exact Nat.max_lt.mpr ⟨horizon, by omega⟩

/-- A visible row is in the result of the next poll, or the result is full of
smaller ids. -/
theorem Database.mem_poll_or (wellFormed : database.WellFormed) {row : Row}
    {cursor limit : Nat} {serverOrigin : Bytes} (positive : 0 < limit)
    (visible : row ∈ database.messages) (newer : cursor < row.id)
    (foreign : otherOrigin serverOrigin row = true) :
    row ∈ database.poll cursor serverOrigin limit ∨
      database.poll cursor serverOrigin limit ≠ [] ∧
        ∀ other ∈ database.poll cursor serverOrigin limit, other.id < row.id := by
  have whole := poll_pairwise wellFormed cursor
    (orderById (database.messages.filter fun row =>
      cursor < row.id && otherOrigin serverOrigin row)).length serverOrigin
  rw [poll, List.take_length] at whole
  unfold poll
  generalize rows : orderById (database.messages.filter fun row =>
    cursor < row.id && otherOrigin serverOrigin row) = sorted at whole ⊢
  have member : row ∈ sorted := by
    rw [← rows]
    refine (List.mem_insertionSort _).mpr (List.mem_filter.mpr ⟨visible, ?_⟩)
    simp [newer, foreign]
  rw [← List.take_append_drop limit sorted] at member whole
  rcases List.mem_append.mp member with taken | dropped
  · exact .inl taken
  · refine .inr ⟨fun isEmpty => ?_, fun other taken =>
      (List.pairwise_append.mp whole).2.2 other taken row dropped⟩
    rcases List.take_eq_nil_iff.mp isEmpty with zero | noRows
    · omega
    · simp [noRows] at dropped

end Selected

/-- What a healthy step does to the pushed ids, to the rows at hand and to the
largest selected id. -/
inductive Passage (config : Config) (state : DbState) (after : Worker) : Prop
  | same (pushed : pushedIds after.journal = pushedIds state.worker.journal)
      (rows : after.control.rows = state.worker.control.rows)
      (selected : after.selected = state.worker.selected)
  | connect (maxId : Nat) (control : state.worker.control = .upsertCursor maxId)
      (journal : after.journal = state.worker.journal)
      (rows : after.control.rows = []) (selected : after.selected = maxId)
  | select (inside : state.worker.control.pastCursorInit = true)
      (noRows : state.worker.control.rows = [])
      (pushed : pushedIds after.journal = pushedIds state.worker.journal)
      (rows : after.control.rows = state.database.poll state.worker.selected
        config.serverOrigin config.maxBatch.toNat)
      (horizon : after.horizon = state.worker.selected)
  | push (row : Row) (rows : state.worker.control.rows = row :: after.control.rows)
      (pushed : pushedIds after.journal = pushedIds state.worker.journal ++ [row.id])
      (selected : after.selected = state.worker.selected)

section Passage

variable {config : Config} {state : DbState}

/-- A move between two points without rows that keeps the cursor. -/
theorem Passage.of_noRows {after : Worker}
    (noRows : state.worker.control.rows = []) (settled : state.worker.control.advances = false)
    (noRowsAfter : after.control.rows = []) (settledAfter : after.control.advances = false)
    (cursorId : after.cursorId = state.worker.cursorId)
    (pushed : pushedIds after.journal = pushedIds state.worker.journal) :
    Passage config state after := by
  refine .same pushed (noRowsAfter.trans noRows.symm) ?_
  rw [Worker.selected_of_rows_eq_nil noRowsAfter, Worker.selected_of_rows_eq_nil noRows,
    Worker.horizon_of_not_advances settledAfter, Worker.horizon_of_not_advances settled, cursorId]

theorem passage_move {after : DbState}
    (invariant : CursorInvariant config state.worker state.database)
    (moved : DbWorker.Move config state after)
    (idle : DbWorker.Quiet state after →
      state.worker.control.rows = [] ∧ state.worker.control.advances = false) :
    Passage config state after.worker := by
  have noted : ∀ event : WorkerEvent, (∀ row msg, event ≠ .inboundPushed row msg) →
      pushedIds (state.worker.journal ++ [event]) = pushedIds state.worker.journal := by
    intro event noPush
    have none : pushedIds [event] = [] := pushedIds_of_no_push fun row msg member =>
      noPush row msg (List.mem_singleton.mp member).symm
    rw [pushedIds_append, none, List.append_nil]
  cases moved with
  | quiet quiet =>
      rcases idle quiet with ⟨noRows, settled⟩
      rcases quiet.journal with ⟨added, grown, others⟩
      have free := quiet.holds
      refine .of_noRows noRows settled ?_ ?_ quiet.cursorId ?_
      · cases control : after.worker.control <;> simp_all [Control.holds, Control.rows]
      · cases control : after.worker.control <;> simp_all [Control.holds, Control.advances]
      · have none : pushedIds added = [] := pushedIds_of_no_push fun row msg member => by
          cases others _ member
        rw [grown, pushedIds_append, none, List.append_nil]
  | readMaxId control =>
      exact .of_noRows (by rw [control]; rfl) (by rw [control]; rfl) rfl rfl rfl
        (noted _ fun row msg => by simp)
  | armCursor maxId control => exact .connect maxId control rfl rfl (Nat.max_zero maxId)
  | pop item control popped =>
      exact .of_noRows (by rw [control]; rfl) (by rw [control]; rfl) rfl rfl rfl rfl
  | store item control =>
      exact .of_noRows (by rw [control]; rfl) (by rw [control]; rfl) rfl rfl rfl
        (noted _ fun row msg => by simp)
  | requeue item control =>
      exact .of_noRows (by rw [control]; rfl) (by rw [control]; rfl) rfl rfl rfl
        (noted _ fun row msg => by simp)
  | select now control =>
      have noRows : state.worker.control.rows = [] := by rw [control]; rfl
      have selected : state.worker.selected = state.worker.cursorId.getD 0 := by
        rw [Worker.selected_of_rows_eq_nil noRows, Worker.horizon, control]
      exact .select (by rw [control]; rfl) noRows (noted _ fun row msg => by simp)
        (by rw [selected]; rfl) selected.symm
  | fetch batch row rest beyond control rows =>
      have pending : state.worker.control.rows = row :: rest := by rw [control]; exact rows
      have newer := (invariant.rows row (by simp [pending])).1
      refine .push row pending pushedIds_append ?_
      have selected : state.worker.selected =
          max state.worker.horizon (max row.id ((rest.map (·.id)).foldr max 0)) := by
        rw [Worker.selected, pending]
        rfl
      change max row.id ((rest.map (·.id)).foldr max 0) = _
      omega
  | advance id batch control =>
      have horizon : state.worker.horizon = id := by rw [Worker.horizon, control]
      have pending : state.worker.control.rows = batch.rows := by rw [control]; rfl
      refine .same rfl pending.symm ?_
      rw [Worker.selected, Worker.selected, horizon, pending]
      rfl

end Passage

def OnItsWay (row : Row) (worker : Worker) (database : Database) : Prop :=
  row ∈ database.messages ∧
    (row.id ∈ pushedIds worker.journal ∨ row ∈ worker.control.rows ∨
      worker.selected < row.id)

structure PassedOver (id : Nat) (worker : Worker) : Prop where
  notPushed : id ∉ pushedIds worker.journal
  notAtHand : ∀ row ∈ worker.control.rows, row.id ≠ id
  behind : id ≤ worker.selected

section Passage

variable {config : Config} {state : DbState} {after : Worker}

theorem OnItsWay.passage (passage : Passage config state after) {row : Row}
    (batch : 1 ≤ config.maxBatch) (wellFormed : state.database.WellFormed)
    (foreign : Database.otherOrigin config.serverOrigin row = true)
    (fresh : ∀ maxId, state.worker.control = .upsertCursor maxId → maxId < row.id)
    (onItsWay : OnItsWay row state.worker state.database) :
    OnItsWay row after state.database := by
  rcases onItsWay with ⟨visible, place⟩
  refine ⟨visible, ?_⟩
  cases passage with
  | same pushed rows selected => rwa [pushed, rows, selected]
  | connect maxId control journal rows selected =>
      exact .inr (.inr (selected ▸ fresh maxId control))
  | select inside noRows pushed rows horizon =>
      rw [noRows] at place
      rcases place with was | atHand | ahead
      · exact .inl (pushed ▸ was)
      · cases atHand
      · rcases Database.mem_poll_or wellFormed (Int.lt_toNat.mpr batch)
          visible ahead foreign with taken | ⟨-, smaller⟩
        · exact .inr (.inl (rows ▸ taken))
        · exact .inr (.inr (Worker.selected_lt (horizon ▸ ahead) (rows ▸ smaller)))
  | push other rows pushed selected =>
      rw [pushed, selected]
      rw [rows] at place
      rcases place with was | atHand | ahead
      · exact .inl (List.mem_append_left _ was)
      · rcases List.mem_cons.mp atHand with rfl | later
        · exact .inl (List.mem_append_right _ (List.mem_singleton_self _))
        · exact .inr (.inl later)
      · exact .inr (.inr ahead)

theorem Passage.selected_mono (passage : Passage config state after)
    (armed : ∀ maxId, state.worker.control ≠ .upsertCursor maxId) :
    state.worker.selected ≤ after.selected := by
  cases passage with
  | same pushed rows selected => exact selected.ge
  | connect maxId control => exact absurd control (armed maxId)
  | select inside noRows pushed rows horizon => exact horizon.ge.trans (Nat.le_max_left _ _)
  | push row rows pushed selected => exact selected.ge

theorem PassedOver.passage (passage : Passage config state after) {id : Nat}
    (armed : ∀ maxId, state.worker.control ≠ .upsertCursor maxId)
    (passedOver : PassedOver id state.worker) : PassedOver id after := by
  have behind := passedOver.behind.trans (passage.selected_mono armed)
  cases passage with
  | same pushed rows selected =>
      exact ⟨pushed ▸ passedOver.notPushed, rows ▸ passedOver.notAtHand, behind⟩
  | connect maxId control => exact absurd control (armed maxId)
  | select inside noRows pushed rows horizon =>
      refine ⟨pushed ▸ passedOver.notPushed, fun row member same => ?_, behind⟩
      rw [rows] at member
      have newer := (Database.mem_poll member).2.1
      have old := passedOver.behind
      omega
  | push row rows pushed selected =>
      have notAtHand := passedOver.notAtHand
      rw [rows] at notAtHand
      refine ⟨fun member => ?_, fun other member => notAtHand other (by simp [member]), behind⟩
      rw [pushed] at member
      rcases List.mem_append.mp member with was | now
      · exact passedOver.notPushed was
      · exact notAtHand row (by simp) (List.mem_singleton.mp now).symm

/-- A poll with a visible row ahead selects further. -/
theorem selected_lt_of_poll {row : Row} (batch : 1 ≤ config.maxBatch)
    (wellFormed : state.database.WellFormed)
    (foreign : Database.otherOrigin config.serverOrigin row = true)
    (rows : after.control.rows = state.database.poll state.worker.selected
      config.serverOrigin config.maxBatch.toNat)
    (visible : row ∈ state.database.messages) (ahead : state.worker.selected < row.id) :
    state.worker.selected < after.selected := by
  have some : ∃ other, other ∈ after.control.rows := by
    rw [rows]
    rcases Database.mem_poll_or wellFormed (Int.lt_toNat.mpr batch)
      visible ahead foreign with taken | ⟨nonempty, -⟩
    · exact ⟨row, taken⟩
    · exact List.exists_mem_of_ne_nil _ nonempty
  rcases some with ⟨other, atHand⟩
  have newer := (Database.mem_poll (rows ▸ atHand)).2.1
  exact newer.trans_le (Worker.le_selected atHand)

theorem Passage.mem_pushedIds (passage : Passage config state after) {id : Nat}
    (pushed : id ∈ pushedIds state.worker.journal) : id ∈ pushedIds after.journal := by
  cases passage with
  | same kept => exact kept ▸ pushed
  | connect maxId control journal => exact journal ▸ pushed
  | select inside noRows kept => exact kept ▸ pushed
  | push row rows grown => exact grown ▸ List.mem_append_left _ pushed

end Passage

/-! ## The cursor of a healthy thread -/

/-- The `MAX(id)` was read, so the cursor is ready or about to be. -/
def CursorChosen (worker : Worker) : Prop :=
  (lastMaxId worker.journal).isSome → worker.cursorReady = true ∨
    ∃ maxId, worker.control = .upsertCursor maxId

def SelectsNothing (worker : Worker) : Prop :=
  worker.cursorReady = true ∨ worker.selected = 0

section Steps

variable {config : Config} {state after : DbState} {input : WorkerInput}

theorem lastMaxId_move (moved : DbWorker.Move config state after)
    (notReading : state.worker.control ≠ .readMaxId) :
    lastMaxId after.worker.journal = lastMaxId state.worker.journal := by
  cases moved with
  | quiet quiet =>
      rcases quiet.journal with ⟨added, grown, others⟩
      have none : lastMaxId added = none := lastMaxId_of_no_read fun id member => by
        cases others _ member
      rw [grown, lastMaxId_append, none, Option.none_or]
  | readMaxId control => exact absurd control notReading
  | armCursor maxId control => rfl
  | pop item control popped => rfl
  | store item control => exact lastMaxId_append
  | requeue item control => exact lastMaxId_append
  | select now control => exact lastMaxId_append
  | fetch batch row rest beyond control rows => exact lastMaxId_append
  | advance id batch control => rfl

theorem messages_move (moved : DbWorker.Move config state after) :
    state.database.messages ⊆ after.database.messages := by
  cases moved with
  | quiet quiet => rw [quiet.messages]; exact List.Subset.refl _
  | store item control => exact List.subset_append_left _ _
  | _ => exact List.Subset.refl _

theorem CursorChosen.step (chosen : CursorChosen state.worker) (healthy : input.Healthy) :
    CursorChosen (DbWorker.step config state input).worker := by
  intro read
  cases control : state.worker.control with
  | readMaxId =>
      refine .inr ⟨state.database.maxId, ?_⟩
      simp only [DbWorker.step, control, healthy.ok, if_true]
      rfl
  | upsertCursor maxId =>
      refine .inl ?_
      simp only [DbWorker.step, control, healthy.ok, if_true]
      rfl
  | _ =>
      rw [lastMaxId_move (DbWorker.step_move config state input) (by simp [control])] at read
      rcases chosen read with ready | ⟨maxId, arming⟩
      · exact .inl (DbWorker.cursorReady_step config state healthy ready)
      · simp [control] at arming

theorem SelectsNothing.step (selects : SelectsNothing state.worker)
    (invariant : CursorInvariant config state.worker state.database)
    (healthy : input.Healthy) :
    SelectsNothing (DbWorker.step config state input).worker := by
  rcases selects with ready | none
  · exact .inl (DbWorker.cursorReady_step config state healthy ready)
  · cases passage_move invariant (DbWorker.step_move config state input)
      (DbWorker.idle_of_quiet healthy) with
    | same pushed rows selected => exact .inr (selected.trans none)
    | connect maxId control journal rows selected =>
        refine .inl ?_
        simp only [DbWorker.step, control, healthy.ok, if_true]
        rfl
    | select inside noRows pushed rows horizon =>
        exact .inl (DbWorker.cursorReady_step config state healthy (invariant.armed inside))
    | push row rows pushed selected => exact .inr (selected.trans none)

end Steps

/-! ## A thread among others -/

structure PolledThread (config : Config) where
  state : Nat → DbState
  /-- The step the thread takes at a moment, if it is its turn. -/
  taken : Nat → Option WorkerInput
  own : ∀ {moment input}, taken moment = some input →
    (state (moment + 1)).worker = (DbWorker.step config (state moment) input).worker
  others : ∀ {moment}, taken moment = none → (state (moment + 1)).worker = (state moment).worker
  messages : ∀ moment,
    (state moment).database.messages ⊆ (state (moment + 1)).database.messages
  invariant : ∀ moment, CursorInvariant config (state moment).worker (state moment).database
  chosen : CursorChosen (state 0).worker
  selects : SelectsNothing (state 0).worker

/-- The thread stays connected, no statement fails, and it polls again and again. -/
structure PolledThread.Healthy {config : Config} (thread : PolledThread config) : Prop where
  steps : ∀ moment input, thread.taken moment = some input → input.Healthy
  polls : ∀ moment, ∃ later, moment ≤ later ∧ (∃ input, thread.taken later = some input) ∧
    ∃ now, (thread.state later).worker.control = .selecting now

namespace PolledThread.Healthy

variable {config : Config} {thread : PolledThread config}

/-- What holds of the thread at first and is kept by its healthy steps holds always. -/
theorem always (healthy : thread.Healthy) {Invariant : Worker → Prop}
    (holds : Invariant (thread.state 0).worker)
    (keeps : ∀ (state : DbState) input, CursorInvariant config state.worker state.database →
      input.Healthy → Invariant state.worker →
      Invariant (DbWorker.step config state input).worker)
    (moment : Nat) : Invariant (thread.state moment).worker := by
  induction moment with
  | zero => exact holds
  | succ moment induction =>
      cases turn : thread.taken moment with
      | none => rwa [thread.others turn]
      | some input =>
          rw [thread.own turn]
          exact keeps _ input (thread.invariant moment) (healthy.steps moment input turn) induction

theorem cursorChosen (healthy : thread.Healthy) (moment : Nat) :
    CursorChosen (thread.state moment).worker :=
  healthy.always thread.chosen (fun _ _ _ steps chosen => chosen.step steps) moment

theorem selectsNothing (healthy : thread.Healthy) (moment : Nat) :
    SelectsNothing (thread.state moment).worker :=
  healthy.always thread.selects
    (fun _ _ invariant steps selects => selects.step invariant steps) moment

theorem passage (healthy : thread.Healthy) (moment : Nat) :
    Passage config (thread.state moment) (thread.state (moment + 1)).worker := by
  cases turn : thread.taken moment with
  | none =>
      have same := thread.others turn
      exact .same (by rw [same]) (by rw [same]) (by rw [same])
  | some input =>
      rw [thread.own turn]
      exact passage_move (thread.invariant moment)
        (DbWorker.step_move config (thread.state moment) input)
        (DbWorker.idle_of_quiet (healthy.steps moment input turn))

theorem cursorReady (healthy : thread.Healthy) {earlier later : Nat} (order : earlier ≤ later)
    (ready : (thread.state earlier).worker.cursorReady = true) :
    (thread.state later).worker.cursorReady = true := by
  induction order with
  | refl => exact ready
  | @step later order induction =>
      cases turn : thread.taken later with
      | none => rwa [thread.others turn]
      | some input =>
          rw [thread.own turn]
          exact DbWorker.cursorReady_step config _ (healthy.steps later input turn) induction

/-- The `MAX(id)` is read once. -/
theorem lastMaxId (healthy : thread.Healthy) {earlier later : Nat} (order : earlier ≤ later)
    {maxId : Nat} (read : lastMaxId (thread.state earlier).worker.journal = some maxId) :
    lastMaxId (thread.state later).worker.journal = some maxId := by
  induction order with
  | refl => exact read
  | @step later order induction =>
      cases turn : thread.taken later with
      | none => rwa [thread.others turn]
      | some input =>
          have notReading : (thread.state later).worker.control ≠ .readMaxId := by
            intro reading
            have unready := (thread.invariant later).unready (.inl reading)
            rcases healthy.cursorChosen later (by rw [induction]; rfl) with
              ready | ⟨other, arming⟩
            · exact absurd (ready.symm.trans unready) (by simp)
            · exact absurd (arming.symm.trans reading) (by simp)
          rw [thread.own turn, lastMaxId_move (DbWorker.step_move config _ input) notReading]
          exact induction

/-- The cursor is armed with the `MAX(id)` of the run. -/
theorem eq_of_upsertCursor (healthy : thread.Healthy) {start maxId : Nat}
    (read : PalCrosschat.lastMaxId (thread.state start).worker.journal = some maxId)
    {moment other : Nat} (arming : (thread.state moment).worker.control = .upsertCursor other) :
    other = maxId := by
  have chosen := ((thread.invariant moment).arming other arming).1
  rcases Nat.le_total start moment with order | order
  · exact Option.some.inj (chosen.symm.trans (healthy.lastMaxId order read))
  · exact Option.some.inj ((healthy.lastMaxId order chosen).symm.trans read)

theorem not_upsertCursor {moment : Nat}
    (ready : (thread.state moment).worker.cursorReady = true) (maxId : Nat) :
    (thread.state moment).worker.control ≠ .upsertCursor maxId := by
  intro arming
  have unready := (thread.invariant moment).unready (.inr ⟨maxId, arming⟩)
  exact absurd (ready.symm.trans unready) (by simp)

theorem pushed_mono (healthy : thread.Healthy) {earlier later id : Nat} (order : earlier ≤ later)
    (pushed : id ∈ pushedIds (thread.state earlier).worker.journal) :
    id ∈ pushedIds (thread.state later).worker.journal := by
  induction order with
  | refl => exact pushed
  | @step later order induction => exact (healthy.passage later).mem_pushedIds induction

section Row

variable {row : Row} {start maxId : Nat}

/-- A row that is ahead when it becomes visible stays on its way. -/
theorem onItsWay (healthy : thread.Healthy) (batch : 1 ≤ config.maxBatch)
    (foreign : Database.otherOrigin config.serverOrigin row = true)
    (read : PalCrosschat.lastMaxId (thread.state start).worker.journal = some maxId)
    (fresh : maxId < row.id) {earlier later : Nat} (order : earlier ≤ later)
    (holds : OnItsWay row (thread.state earlier).worker (thread.state earlier).database) :
    OnItsWay row (thread.state later).worker (thread.state later).database := by
  induction order with
  | refl => exact holds
  | @step later order induction =>
      have kept := OnItsWay.passage (healthy.passage later) batch
        (thread.invariant later).wellFormed foreign
        (fun other arming => healthy.eq_of_upsertCursor read arming ▸ fresh) induction
      exact ⟨thread.messages later kept.1, kept.2⟩

/-- A row on its way is pushed some day. -/
theorem eventually_pushed (healthy : thread.Healthy) (batch : 1 ≤ config.maxBatch)
    (foreign : Database.otherOrigin config.serverOrigin row = true)
    (read : PalCrosschat.lastMaxId (thread.state start).worker.journal = some maxId)
    (fresh : maxId < row.id) {earlier : Nat}
    (holds : OnItsWay row (thread.state earlier).worker (thread.state earlier).database) :
    ∃ moment, row.id ∈ pushedIds (thread.state moment).worker.journal := by
  rcases healthy.polls earlier with ⟨first, order, -, now, polling⟩
  have ready := (thread.invariant first).armed (by rw [polling]; rfl)
  have onItsWay := healthy.onItsWay batch foreign read fresh order holds
  have grows : ∀ moment, first ≤ moment →
      (thread.state moment).worker.selected ≤ (thread.state (moment + 1)).worker.selected :=
    fun moment after => (healthy.passage moment).selected_mono
      (not_upsertCursor (healthy.cursorReady after ready))
  have approaches : ∀ moment, first ≤ moment →
      ((∃ input, thread.taken moment = some input) ∧
        ∃ now, (thread.state moment).worker.control = .selecting now) →
      row.id ∈ pushedIds (thread.state moment).worker.journal ∨
        row.id - (thread.state (moment + 1)).worker.selected <
          row.id - (thread.state moment).worker.selected := by
    intro moment after given
    rcases given with ⟨⟨input, turn⟩, now, polling⟩
    have here := healthy.onItsWay batch foreign read fresh (order.trans after) holds
    have noRows : (thread.state moment).worker.control.rows = [] := by rw [polling]; rfl
    rcases here.2 with pushed | atHand | ahead
    · exact .inl pushed
    · rw [noRows] at atHand
      cases atHand
    · have rows := DbWorker.rows_step_of_selecting config (thread.state moment)
        (healthy.steps moment input turn) polling
      rw [← thread.own turn] at rows
      have further := selected_lt_of_poll batch (thread.invariant moment).wellFormed foreign
        rows here.1 ahead
      exact .inr (Nat.sub_lt_sub_left ahead further)
  rcases Execution.eventually_of_recurring
    (fun moment => row.id - (thread.state moment).worker.selected) healthy.polls
    (fun moment after => .inr (Nat.sub_le_sub_left (grows moment after) row.id)) approaches with
    ⟨moment, -, pushed⟩
  exact ⟨moment, pushed⟩

end Row

end PolledThread.Healthy

/-! ## Endless runs -/

/-- The thread stays connected, no statement fails, and it polls again and again. -/
structure EndlessRun.Healthy (run : EndlessRun) : Prop where
  steps : ∀ moment input, run.inputs moment = .worker input → input.Healthy
  polls : ∀ moment, ∃ later, moment ≤ later ∧
    (∃ input, run.inputs later = .worker input) ∧
    ∃ now, (run.world later).worker.control = .selecting now

namespace EndlessRun

variable {run : EndlessRun}

theorem world_succ (moment : Nat) :
    run.world (moment + 1) =
      (run.world moment).step run.engine run.config (run.inputs moment) := rfl

theorem cursorInvariant (run : EndlessRun) (moment : Nat) :
    CursorInvariant run.config (run.world moment).worker (run.world moment).database := by
  rw [world, Execution.stateAt_eq_run]
  exact cursorInvariant_run run.engine run.config run.compile run.startedAt run.players _

theorem dbState_succ {moment : Nat} {input : WorkerInput}
    (isWorker : run.inputs moment = .worker input) :
    (run.world (moment + 1)).dbState =
      DbWorker.step run.config (run.world moment).dbState input := by
  rw [world_succ, isWorker]
  rfl

theorem messages_succ (moment : Nat) :
    (run.world moment).database.messages ⊆ (run.world (moment + 1)).database.messages := by
  rw [world_succ]
  cases run.inputs moment with
  | worker input =>
      exact messages_move (DbWorker.step_move run.config (run.world moment).dbState input)
  | remote action => exact (Database.messages_prefix_remote action).subset
  | _ => exact List.Subset.refl _

def workerInput? : WorldInput → Option WorkerInput
  | .worker input => some input
  | _ => none

theorem workerInput?_eq_some {taken : WorldInput} {input : WorkerInput} :
    workerInput? taken = some input ↔ taken = .worker input := by
  cases taken <;> simp [workerInput?]

def thread (run : EndlessRun) : PolledThread run.config where
  state moment := (run.world moment).dbState
  taken moment := workerInput? (run.inputs moment)
  own taken := congrArg DbState.worker (run.dbState_succ (workerInput?_eq_some.mp taken))
  others {moment} turn := by
    change (run.world (moment + 1)).worker = (run.world moment).worker
    rw [world_succ]
    cases input : run.inputs moment with
    | worker other => rw [input] at turn; cases turn
    | _ => rfl
  messages := run.messages_succ
  invariant := run.cursorInvariant
  chosen := nofun
  selects := .inr rfl

theorem Healthy.thread (healthy : run.Healthy) : run.thread.Healthy where
  steps moment input turn := healthy.steps moment input (workerInput?_eq_some.mp turn)
  polls moment := by
    rcases healthy.polls moment with ⟨later, order, ⟨input, taken⟩, polling⟩
    exact ⟨later, order, ⟨input, workerInput?_eq_some.mpr taken⟩, polling⟩

end EndlessRun

end PalCrosschat
