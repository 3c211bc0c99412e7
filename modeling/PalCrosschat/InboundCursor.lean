import PalCrosschat.World
import PalCrosschat.WorkerSteps

/-! # The inbound cursor

The cursor is a high-water mark over row ids. A push happens before the cursor
shows it, so the invariant speaks about the horizon: the id of the row that was
pushed last, whether or not the cursor was moved to it. -/

namespace PalCrosschat

/-! ## What the journal says about rows -/

def pushedIds (journal : List WorkerEvent) : List Nat :=
  journal.filterMap fun
    | .inboundPushed row _ => some row.id
    | _ => none

/-- The `MAX(id)` read at the most recent connect. -/
def lastMaxId (journal : List WorkerEvent) : Option Nat :=
  (journal.filterMap fun
    | .maxIdRead id => some id
    | _ => none).getLast?

/-- Every pushed row is newer than the `MAX(id)` of the connect before it. -/
def LiveOnly (journal : List WorkerEvent) : Prop :=
  ∀ before row msg after, journal = before ++ .inboundPushed row msg :: after →
    ∃ maxId, lastMaxId before = some maxId ∧ maxId < row.id

section Journal

variable {journal added : List WorkerEvent}

theorem pushedIds_append :
    pushedIds (journal ++ added) = pushedIds journal ++ pushedIds added := by
  simp [pushedIds]

theorem lastMaxId_append :
    lastMaxId (journal ++ added) = (lastMaxId added).or (lastMaxId journal) := by
  simp [lastMaxId, List.getLast?_append]

theorem mem_pushedIds {id : Nat} :
    id ∈ pushedIds journal ↔ ∃ row msg, .inboundPushed row msg ∈ journal ∧ row.id = id := by
  simp only [pushedIds, List.mem_filterMap]
  constructor
  · intro given
    rcases given with ⟨event, member, found⟩
    cases event with
    | inboundPushed row msg => exact ⟨row, msg, member, Option.some.inj found⟩
    | _ => cases found
  · intro given
    rcases given with ⟨row, msg, member, rfl⟩
    exact ⟨_, member, rfl⟩

theorem pushedIds_of_no_push (noPush : ∀ row msg, .inboundPushed row msg ∉ added) :
    pushedIds added = [] := by
  refine List.eq_nil_iff_forall_not_mem.mpr fun id member => ?_
  rcases mem_pushedIds.mp member with ⟨row, msg, pushed, -⟩
  exact noPush row msg pushed

theorem lastMaxId_of_no_read (noRead : ∀ id, .maxIdRead id ∉ added) :
    lastMaxId added = none := by
  rw [lastMaxId, List.getLast?_eq_none_iff, List.filterMap_eq_nil_iff]
  intro event member
  cases event with
  | maxIdRead id => exact absurd member (noRead id)
  | _ => rfl

theorem LiveOnly.append (live : LiveOnly journal)
    (noPush : ∀ row msg, .inboundPushed row msg ∉ added) : LiveOnly (journal ++ added) := by
  intro before row msg after split
  rcases List.append_eq_append_iff.mp split with ⟨rest, -, inAdded⟩ | ⟨rest, inJournal, tail⟩
  · exact absurd (by simp [inAdded]) (noPush row msg)
  · cases rest with
    | nil =>
        have member : .inboundPushed row msg ∈ added := by
          rw [← List.nil_append added, ← tail]
          simp
        exact absurd member (noPush row msg)
    | cons head rest =>
        rcases List.cons.inj tail with ⟨rfl, -⟩
        exact live before row msg rest inJournal

theorem LiveOnly.push (live : LiveOnly journal) {row : Row} (msg : InboundMessage)
    {maxId : Nat} (last : lastMaxId journal = some maxId) (newer : maxId < row.id) :
    LiveOnly (journal ++ [.inboundPushed row msg]) := by
  intro before other otherMsg after split
  rcases List.append_eq_append_iff.mp split with ⟨rest, inAdded, single⟩ | ⟨rest, inJournal, tail⟩
  · cases rest with
    | nil =>
        rcases List.cons.inj single with ⟨same, -⟩
        cases same
        rw [List.append_nil] at inAdded
        exact ⟨maxId, inAdded ▸ last, newer⟩
    | cons head rest => simp at single
  · cases rest with
    | nil =>
        rcases List.cons.inj tail with ⟨same, -⟩
        cases same
        rw [List.append_nil] at inJournal
        exact ⟨maxId, inJournal ▸ last, newer⟩
    | cons head rest =>
        rcases List.cons.inj tail with ⟨rfl, -⟩
        exact live before other otherMsg rest inJournal

end Journal

/-! ## The invariant -/

def Control.rows : Control → List Row
  | .fetching batch => batch.rows
  | .updatingCursor _ batch => batch.rows
  | _ => []

def Worker.horizon (worker : Worker) : Nat :=
  match worker.control with
  | .updatingCursor id _ => id
  | _ => worker.cursorId.getD 0

theorem Worker.horizon_of_not_advances {worker : Worker}
    (settled : worker.control.advances = false) : worker.horizon = worker.cursorId.getD 0 := by
  unfold horizon
  split
  · rename_i control
    simp [control, Control.advances] at settled
  · rfl

structure CursorInvariant (config : Config) (worker : Worker) (database : Database) :
    Prop where
  wellFormed : database.WellFormed
  armed : DbWorker.CursorArmed worker
  unready : (worker.control = .readMaxId ∨ ∃ maxId, worker.control = .upsertCursor maxId) →
    worker.cursorReady = false
  increasing : (pushedIds worker.journal).Pairwise (· < ·)
  live : LiveOnly worker.journal
  foreign : ∀ row msg, .inboundPushed row msg ∈ worker.journal →
    row.origin ≠ some config.serverOrigin
  stored : ∀ row msg, .inboundPushed row msg ∈ worker.journal → row ∈ database.messages
  arming : ∀ maxId, worker.control = .upsertCursor maxId →
    lastMaxId worker.journal = some maxId ∧ ∀ id ∈ pushedIds worker.journal, id ≤ maxId
  ready : worker.cursorReady = true →
    (∃ maxId, lastMaxId worker.journal = some maxId ∧ maxId ≤ worker.horizon) ∧
      ∀ id ∈ pushedIds worker.journal, id ≤ worker.horizon
  rows : ∀ row ∈ worker.control.rows, worker.horizon < row.id ∧ row ∈ database.messages ∧
    Database.otherOrigin config.serverOrigin row = true
  sorted : worker.control.rows.Pairwise fun left right => left.id < right.id

namespace CursorInvariant

variable {config : Config} {worker : Worker} {database : Database}

theorem grow (invariant : CursorInvariant config worker database) {after : Database}
    (wellFormed : after.WellFormed) (kept : database.messages ⊆ after.messages) :
    CursorInvariant config worker after :=
  { invariant with
    wellFormed
    stored := fun row msg member => kept (invariant.stored row msg member)
    rows := fun row member =>
      ⟨(invariant.rows row member).1, kept (invariant.rows row member).2.1,
        (invariant.rows row member).2.2⟩ }

theorem le_maxId (invariant : CursorInvariant config worker database) :
    ∀ id ∈ pushedIds worker.journal, id ≤ database.maxId := by
  intro id member
  rcases mem_pushedIds.mp member with ⟨row, msg, pushed, rfl⟩
  exact Database.id_le_maxId (invariant.stored row msg pushed)

/-- A step without a connect or a push. -/
theorem extend (invariant : CursorInvariant config worker database) {after : Worker}
    {added : List WorkerEvent} (journal : after.journal = worker.journal ++ added)
    (others : ∀ event ∈ added,
      (∀ id, event ≠ .maxIdRead id) ∧ ∀ row msg, event ≠ .inboundPushed row msg)
    (armed : DbWorker.CursorArmed after)
    (unready : after.control = .readMaxId → after.cursorReady = false)
    (noArming : ∀ maxId, after.control ≠ .upsertCursor maxId)
    (ready : after.cursorReady = true →
      worker.cursorReady = true ∧ after.horizon = worker.horizon)
    (rows : ∀ row ∈ after.control.rows, after.horizon < row.id ∧ row ∈ database.messages ∧
      Database.otherOrigin config.serverOrigin row = true)
    (sorted : after.control.rows.Pairwise fun left right => left.id < right.id) :
    CursorInvariant config after database := by
  have noPush : ∀ row msg, .inboundPushed row msg ∉ added := fun row msg member =>
    (others _ member).2 row msg rfl
  have noMaxId : lastMaxId added = none :=
    lastMaxId_of_no_read fun id member => (others _ member).1 id rfl
  have pushed : pushedIds after.journal = pushedIds worker.journal := by
    rw [journal, pushedIds_append, pushedIds_of_no_push noPush, List.append_nil]
  have last : lastMaxId after.journal = lastMaxId worker.journal := by
    rw [journal, lastMaxId_append, noMaxId, Option.none_or]
  have old : ∀ row msg, .inboundPushed row msg ∈ after.journal →
      .inboundPushed row msg ∈ worker.journal := by
    intro row msg member
    rw [journal] at member
    exact (List.mem_append.mp member).resolve_right (noPush row msg)
  refine
    { wellFormed := invariant.wellFormed
      armed
      unready := ?_
      increasing := by rw [pushed]; exact invariant.increasing
      live := by rw [journal]; exact invariant.live.append noPush
      foreign := fun row msg member => invariant.foreign row msg (old row msg member)
      stored := fun row msg member => invariant.stored row msg (old row msg member)
      arming := fun maxId arming => absurd arming (noArming maxId)
      ready := fun isReady => ?_
      rows
      sorted }
  · intro either
    rcases either with reading | ⟨maxId, arming⟩
    · exact unready reading
    · exact absurd arming (noArming maxId)
  · rcases ready isReady with ⟨wasReady, same⟩
    rw [pushed, last, same]
    exact invariant.ready wasReady

variable {state after : DbState}

theorem quiet (invariant : CursorInvariant config state.worker state.database)
    (quiet : DbWorker.Quiet state after) :
    CursorInvariant config after.worker after.database := by
  rcases quiet.journal with ⟨added, grown, others⟩
  have free := quiet.holds
  have noRows : after.worker.control.rows = [] := by
    cases control : after.worker.control <;> simp_all [Control.holds, Control.rows]
  have settled : after.worker.control.advances = false := by
    cases control : after.worker.control <;> simp_all [Control.holds, Control.advances]
  have wellFormed : after.database.WellFormed :=
    ⟨by rw [quiet.messages, quiet.inFlight, quiet.nextId]; exact invariant.wellFormed.fresh,
      by rw [quiet.messages, quiet.inFlight]; exact invariant.wellFormed.unique⟩
  refine (invariant.grow wellFormed (by rw [quiet.messages]; exact fun _ => id)).extend grown
    (fun event member => ?_) (quiet.armed invariant.armed) quiet.unready
    (fun maxId arming => by simp [arming, Control.holds] at free) (fun ready => ?_)
    (by simp [noRows]) (by simp [noRows])
  · have other := others event member
    constructor
    · intro id equal
      rcases equal with rfl
      cases other
    · intro row msg equal
      rcases equal with rfl
      cases other
  · rcases quiet.ready ready with ⟨wasReady, wasSettled⟩
    refine ⟨wasReady, ?_⟩
    rw [Worker.horizon_of_not_advances settled, Worker.horizon_of_not_advances wasSettled,
      quiet.cursorId]

/-- `init_cursor` read the largest id. -/
theorem readMaxId (invariant : CursorInvariant config state.worker state.database)
    (control : state.worker.control = .readMaxId) :
    CursorInvariant config
      (DbWorker.goTo (DbWorker.note state (.maxIdRead state.database.maxId))
        (.upsertCursor state.database.maxId)).worker state.database := by
  generalize maxId : state.database.maxId = id
  have unready := invariant.unready (.inl control)
  have noPush : ∀ row msg, .inboundPushed row msg ∉ [WorkerEvent.maxIdRead id] := by simp
  have journal : (DbWorker.goTo (DbWorker.note state (.maxIdRead id))
      (.upsertCursor id)).worker.journal = state.worker.journal ++ [.maxIdRead id] := rfl
  have pushed : pushedIds (state.worker.journal ++ [.maxIdRead id]) =
      pushedIds state.worker.journal := by
    rw [pushedIds_append, pushedIds_of_no_push noPush, List.append_nil]
  have old : ∀ row msg, .inboundPushed row msg ∈ state.worker.journal ++ [.maxIdRead id] →
      .inboundPushed row msg ∈ state.worker.journal := by
    intro row msg member
    exact (List.mem_append.mp member).resolve_right (noPush row msg)
  refine
    { wellFormed := invariant.wellFormed
      armed := nofun
      unready := fun _ => unready
      increasing := by rw [journal, pushed]; exact invariant.increasing
      live := invariant.live.append noPush
      foreign := fun row msg member => invariant.foreign row msg (old row msg member)
      stored := fun row msg member => invariant.stored row msg (old row msg member)
      arming := fun other arming => ?_
      ready := fun isReady => absurd (isReady.symm.trans unready) (by simp)
      rows := nofun
      sorted := .nil }
  cases arming
  rw [journal, pushed, lastMaxId_append]
  exact ⟨rfl, maxId ▸ invariant.le_maxId⟩

theorem armCursor (invariant : CursorInvariant config state.worker state.database)
    {maxId : Nat} (control : state.worker.control = .upsertCursor maxId) :
    CursorInvariant config
      { state.worker with cursorId := some maxId, cursorReady := true, control := .drainLinks }
      state.database where
  wellFormed := invariant.wellFormed
  armed _ := rfl
  unready := by
    intro either
    rcases either with reading | ⟨other, arming⟩
    · cases reading
    · cases arming
  increasing := invariant.increasing
  live := invariant.live
  foreign := invariant.foreign
  stored := invariant.stored
  arming := nofun
  ready _ := ⟨⟨maxId, (invariant.arming maxId control).1, Nat.le_refl maxId⟩,
    (invariant.arming maxId control).2⟩
  rows := nofun
  sorted := .nil

/-- A row of the result is pushed: it is newer than everything before. -/
theorem fetch (invariant : CursorInvariant config state.worker state.database)
    {batch : Batch} {row : Row} {rest : List Row} (beyond : RowBuffers)
    (control : state.worker.control = .fetching batch) (rows : batch.rows = row :: rest) :
    CursorInvariant config (DbWorker.fetchRow state beyond batch row rest).worker
      state.database := by
  have isReady := invariant.armed (by rw [control]; rfl)
  have pending : state.worker.control.rows = row :: rest := by
    rw [control]
    exact rows
  have fetched := invariant.rows row (by simp [pending])
  rcases invariant.ready isReady with ⟨⟨maxId, last, old⟩, seen⟩
  have newer : ∀ id ∈ pushedIds state.worker.journal, id < row.id := fun id member =>
    (seen id member).trans_lt fetched.1
  have sorted := invariant.sorted
  rw [pending, List.pairwise_cons] at sorted
  generalize decoded : (batch.buffers.fetch row).decode beyond row = msg
  have journal : (DbWorker.fetchRow state beyond batch row rest).worker.journal =
      state.worker.journal ++ [.inboundPushed row msg] := by
    rw [← decoded]
    rfl
  have pushed : pushedIds (state.worker.journal ++ [.inboundPushed row msg]) =
      pushedIds state.worker.journal ++ [row.id] := pushedIds_append
  refine
    { wellFormed := invariant.wellFormed
      armed := fun _ => isReady
      unready := ?_
      increasing := ?_
      live := by rw [journal]; exact invariant.live.push msg last (old.trans_lt fetched.1)
      foreign := fun other otherMsg member => ?_
      stored := fun other otherMsg member => ?_
      arming := nofun
      ready := fun _ => ⟨⟨maxId, ?_, (old.trans_lt fetched.1).le⟩, fun id member => ?_⟩
      rows := fun other member => ?_
      sorted := sorted.2 }
  · intro either
    rcases either with reading | ⟨maxId, arming⟩
    · cases reading
    · cases arming
  · rw [journal, pushed, List.pairwise_append]
    refine ⟨invariant.increasing, List.pairwise_singleton _ _, fun id member other single => ?_⟩
    rw [List.mem_singleton.mp single]
    exact newer id member
  · rw [journal] at member
    rcases List.mem_append.mp member with before | now
    · exact invariant.foreign other otherMsg before
    · cases List.mem_singleton.mp now
      have foreign := fetched.2.2
      intro same
      simp [Database.otherOrigin, same] at foreign
  · rw [journal] at member
    rcases List.mem_append.mp member with before | now
    · exact invariant.stored other otherMsg before
    · cases List.mem_singleton.mp now
      exact fetched.2.1
  · rw [journal, lastMaxId_append]
    exact last
  · rw [journal, pushed] at member
    rcases List.mem_append.mp member with before | now
    · exact (newer id before).le
    · exact (List.mem_singleton.mp now).le
  · have waiting := invariant.rows other (by rw [pending]; exact List.mem_cons_of_mem _ member)
    exact ⟨sorted.1 other member, waiting.2⟩

theorem move (invariant : CursorInvariant config state.worker state.database)
    (moved : DbWorker.Move config state after) :
    CursorInvariant config after.worker after.database := by
  cases moved with
  | quiet quiet => exact invariant.quiet quiet
  | readMaxId control => exact invariant.readMaxId control
  | armCursor maxId control =>
      have armed := invariant.armCursor control
      exact armed.grow ⟨armed.wellFormed.fresh, armed.wellFormed.unique⟩ fun _ => id
  | pop item control popped =>
      have horizon : state.worker.horizon = state.worker.cursorId.getD 0 := by
        rw [Worker.horizon, control]
      exact invariant.extend (List.append_nil _).symm (by simp)
        (fun _ => invariant.armed (by rw [control]; rfl)) nofun nofun
        (fun ready => ⟨ready, horizon.symm⟩) nofun .nil
  | store item control =>
      have horizon : state.worker.horizon = state.worker.cursorId.getD 0 := by
        rw [Worker.horizon, control]
      have stored := invariant.grow (invariant.wellFormed.insert (DbWorker.outboundRow config item))
        (List.subset_append_left _ _)
      exact stored.extend rfl (by simp) (fun _ => invariant.armed (by rw [control]; rfl))
        nofun nofun (fun ready => ⟨ready, horizon.symm⟩) nofun .nil
  | requeue item control =>
      have requeued : CursorInvariant config
          { state with outbound := state.outbound.push item : DbState }.worker
          state.database := invariant
      exact requeued.quiet DbWorker.quiet_markFailure
  | select now control =>
      have horizon : state.worker.horizon = state.worker.cursorId.getD 0 := by
        rw [Worker.horizon, control]
      refine invariant.extend rfl (by simp) (fun _ => invariant.armed (by rw [control]; rfl))
        nofun nofun (fun ready => ⟨ready, horizon.symm⟩) (fun row member => ?_)
        (Database.poll_pairwise invariant.wellFormed _ _ _)
      rcases Database.mem_poll member with ⟨stored, newer, foreign⟩
      exact ⟨newer, stored, foreign⟩
  | fetch batch row rest beyond control rows => exact invariant.fetch beyond control rows
  | advance id batch control =>
      have horizon : state.worker.horizon = id := by rw [Worker.horizon, control]
      have pending : state.worker.control.rows = batch.rows := by rw [control]; rfl
      have isReady := invariant.armed (by rw [control]; rfl)
      have rows := invariant.rows
      have sorted := invariant.sorted
      rw [pending, horizon] at rows
      rw [pending] at sorted
      have kept : CursorInvariant config
          { state.worker with cursorId := some id, control := .fetching batch }
          state.database :=
        invariant.extend (List.append_nil _).symm (by simp) (fun _ => isReady) nofun nofun
          (fun ready => ⟨ready, horizon.symm⟩) rows sorted
      exact kept.grow ⟨kept.wellFormed.fresh, kept.wellFormed.unique⟩ (List.Subset.refl _)

end CursorInvariant

/-! ## Runs -/

theorem cursorInvariant_run (engine : Engine) (config : Config) (compile : RegexCompiler)
    (startedAt : Nanoseconds) (players : List PlayerRow) (inputs : List WorldInput) :
    CursorInvariant config
      (World.run engine config (.initial compile config startedAt players) inputs).worker
      (World.run engine config (.initial compile config startedAt players) inputs).database := by
  refine Execution.run_invariant (fun world : World =>
    CursorInvariant config world.worker world.database) (fun world input invariant => ?_) ?_ inputs
  · cases input with
    | worker input =>
        exact CursorInvariant.move invariant (DbWorker.step_move config world.dbState input)
    | remote action =>
        exact invariant.grow (invariant.wellFormed.remote action)
          (Database.messages_prefix_remote action).subset
    | _ => exact invariant
  · exact
      { wellFormed := ⟨by simp [World.initial], by simp [World.initial]⟩
        armed := nofun
        unready := by
          intro either
          rcases either with reading | ⟨maxId, arming⟩
          · cases reading
          · cases arming
        increasing := .nil
        live := by
          intro before row msg after split
          simp [World.initial, Worker.initial] at split
        foreign := nofun
        stored := nofun
        arming := nofun
        ready := nofun
        rows := nofun
        sorted := .nil }

/-- Over the whole run, across all failures and reconnects, the pushed rows come
with increasing ids, are newer than the last connect, and are foreign. -/
theorem inboundCursor (engine : Engine) (config : Config) (compile : RegexCompiler)
    (startedAt : Nanoseconds) (players : List PlayerRow) (inputs : List WorldInput) :
    let journal :=
      (World.run engine config (.initial compile config startedAt players) inputs).worker.journal
    (pushedIds journal).Pairwise (· < ·) ∧ LiveOnly journal ∧
      ∀ row msg, .inboundPushed row msg ∈ journal → row.origin ≠ some config.serverOrigin := by
  have invariant := cursorInvariant_run engine config compile startedAt players inputs
  exact ⟨invariant.increasing, invariant.live, invariant.foreign⟩

end PalCrosschat
