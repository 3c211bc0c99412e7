import Mathlib.Logic.Relation
import PalCrosschat.RelayProvenance

/-! # The order of the relayed lines

The ids of `crosschat_messages` are a clock of the whole network. A server that stores a
line gives it a larger id than everything it has read or stored before, and every server
reads rows with increasing ids. So all servers read the rows they have in common in one
order, and an answer never overtakes what it answers. -/

namespace PalCrosschat

/-! ## Common rows -/

theorem filter_mem_comm {α : Type} [DecidableEq α] (precedes : α → α → Prop)
    [Std.Irrefl precedes] [Std.Antisymm precedes] {first second : List α}
    (firstOrdered : first.Pairwise precedes) (secondOrdered : second.Pairwise precedes) :
    first.filter (· ∈ second) = second.filter (· ∈ first) := by
  apply List.Pairwise.eq_of_mem_iff (firstOrdered.filter _) (secondOrdered.filter _)
  intro item
  rw [List.mem_filter, List.mem_filter, decide_eq_true_iff, decide_eq_true_iff]
  exact and_comm

theorem pair_sublist_of_lt {ids : List Nat} (increasing : ids.Pairwise (· < ·))
    {first second : Nat} (firstMember : first ∈ ids) (secondMember : second ∈ ids)
    (smaller : first < second) : [first, second].Sublist ids := by
  have pair : [first, second].Pairwise (· < ·) := by simpa using smaller
  apply List.sublist_of_subperm_of_pairwise _ pair increasing
  apply List.subperm_of_subset pair.nodup
  intro id member
  rcases List.mem_pair.mp member with rfl | rfl
  · exact firstMember
  · exact secondMember

/-! ## What a journal knows -/

namespace WorkerEvent

/-- The id of the row the thread gets to know: one it read or one it stored. -/
def learns : WorkerEvent → Option Nat
  | .inboundPushed row _ => some row.id
  | .inserted _ row => some row.id
  | _ => none

def stores : WorkerEvent → Option Nat
  | .inserted _ row => some row.id
  | _ => none

variable {event : WorkerEvent}

theorem learns_of_other (other : event.aboutMessages = false) : event.learns = none := by
  cases event <;> first | rfl | cases other

theorem stores_of_learns (nothing : event.learns = none) : event.stores = none := by
  cases event <;> first | rfl | cases nothing

end WorkerEvent

def Older (earlier later : WorkerEvent) : Prop :=
  ∀ first ∈ earlier.learns, ∀ second ∈ later.stores, first < second

def KnewBefore (journal : List WorkerEvent) (first second : Nat) : Prop :=
  ∃ earlier later, [earlier, later].Sublist journal ∧ earlier.learns = some first ∧
    later.stores = some second

/-- The ids tell the order of what the thread knows, and the next id is above them. -/
structure Clocked (journal : List WorkerEvent) (database : Database) : Prop where
  known : ∀ event ∈ journal, ∀ id ∈ event.learns, id < database.nextId
  older : journal.Pairwise Older

namespace Clocked

variable {journal : List WorkerEvent} {before after : Database}

theorem nil (database : Database) : Clocked [] database :=
  ⟨by simp, .nil⟩

theorem lt_of_knewBefore (clocked : Clocked journal before) {first second : Nat}
    (knew : KnewBefore journal first second) : first < second := by
  rcases knew with ⟨earlier, later, order, learns, stores⟩
  have pair := clocked.older.sublist order
  exact (List.pairwise_pair.mp pair) first learns second stores

theorem append (clocked : Clocked journal before) {event : WorkerEvent}
    (nextId : before.nextId ≤ after.nextId)
    (known : ∀ id ∈ event.learns, id < after.nextId)
    (stored : ∀ id ∈ event.stores, id = before.nextId) :
    Clocked (journal ++ [event]) after where
  known other member id learns := by
    rcases List.mem_append.mp member with old | new
    · exact (clocked.known other old id learns).trans_le nextId
    · rw [List.mem_singleton.mp new] at learns
      exact known id learns
  older := by
    rw [List.pairwise_append]
    refine ⟨clocked.older, List.pairwise_singleton _ _, ?_⟩
    intro earlier member later single first learns second stores
    rw [List.mem_singleton.mp single] at stores
    rw [stored second stores]
    exact clocked.known earlier member first learns

theorem extend (clocked : Clocked journal before) {added : List WorkerEvent}
    (nextId : before.nextId ≤ after.nextId)
    (other : ∀ event ∈ added, event.learns = none) : Clocked (journal ++ added) after := by
  induction added generalizing journal before with
  | nil =>
      rw [List.append_nil]
      exact ⟨fun event member id learns =>
        (clocked.known event member id learns).trans_le nextId, clocked.older⟩
  | cons event rest induction =>
      have silent := other event List.mem_cons_self
      have appended : Clocked (journal ++ [event]) after := by
        apply clocked.append nextId
        · simp [silent]
        · simp [WorkerEvent.stores_of_learns silent]
      have extended := induction appended (Nat.le_refl _)
        fun event member => other event (List.mem_cons_of_mem _ member)
      rwa [List.append_assoc] at extended

theorem share (clocked : Clocked journal before) (nextId : before.nextId ≤ after.nextId) :
    Clocked journal after := by
  have extended := clocked.extend nextId (List.forall_mem_nil _)
  rwa [List.append_nil] at extended

theorem move {config : Config} {state after : DbState}
    (clocked : Clocked state.worker.journal state.database)
    (invariant : CursorInvariant config state.worker state.database)
    (moved : DbWorker.Move config state after) :
    Clocked after.worker.journal after.database := by
  have single {event : WorkerEvent} (silent : event.learns = none) :
      Clocked (state.worker.journal ++ [event]) state.database :=
    clocked.extend (Nat.le_refl _) (by simpa using silent)
  cases moved with
  | quiet quiet =>
      rcases quiet.journal with ⟨added, grown, other⟩
      rw [grown]
      exact clocked.extend quiet.nextId.ge fun event member =>
        WorkerEvent.learns_of_other (other event member)
  | readMaxId control => exact single rfl
  | armCursor maxId control => exact clocked.share (Nat.le_refl _)
  | pop item control popped => exact clocked
  | store item control =>
      apply clocked.append (Nat.le_succ _)
      · intro id learns
        cases learns
        exact Nat.lt_succ_self _
      · intro id stores
        cases stores
        rfl
  | requeue item control => exact single rfl
  | select now control => exact single rfl
  | fetch batch row rest beyond control rows =>
      apply clocked.append (Nat.le_refl _)
      · intro id learns
        cases learns
        have atHand : row ∈ state.worker.control.rows := by
          rw [control, Control.rows, rows]
          exact List.mem_cons_self
        exact invariant.wellFormed.fresh row
          (List.mem_append_left _ (invariant.rows row atHand).2.1)
      · intro id stores
        cases stores
  | advance id batch control => exact clocked.share (Nat.le_refl _)

end Clocked

/-! ## What is broadcast -/

namespace DrainWorld

section Order

variable {engine : Engine} {config : Config} {state : DrainWorld}

def AllSent (state : DrainWorld) : Prop :=
  ∀ attempt ∈ state.attempts, attempt.sent = true

/-- Nothing waits for another try, and nothing was overtaken. -/
structure InOrder (state : DrainWorld) : Prop where
  free : state.point.heldRow = none
  ordered : state.view.Ordered

theorem InOrder.step (inOrder : state.InOrder) (input : DrainInput)
    (allSent : (state.step engine config input).AllSent) :
    (state.step engine config input).InOrder := by
  constructor
  · have move := step_move engine config state input
    generalize state.step engine config input = after at move allSent
    cases move with
    | pushed msg => exact inOrder.free
    | other pushes world point frame held => exact held.trans inOrder.free
    | attempt filter item remaining free next =>
        have sent := allSent _ (List.mem_append_right _ (List.mem_singleton_self _))
        dsimp only [attempt] at sent ⊢
        rw [if_pos sent]
        rfl
    | putBack filter item holding =>
        have free := inOrder.free
        rw [holding] at free
        cases free
  · have alone : RetriesAlone state input := by
      cases input with
      | proceed filter =>
          intro holding
          rw [inOrder.free] at holding
          cases holding
      | _ => trivial
    rcases viewSteps engine config state input with ⟨actions, view, allowed⟩
    rw [view]
    exact Execution.run_along_invariant (fun _ queue => queue.Ordered) inOrder.ordered
      (fun _ _ putsBackAlone ordered => ordered.step putsBackAlone) actions (allowed alone)

theorem allSent_of_step {input : DrainInput}
    (allSent : (state.step engine config input).AllSent) : state.AllSent := by
  intro attempt member
  have move := step_move engine config state input
  generalize state.step engine config input = after at move allSent
  cases move with
  | attempt filter item remaining free next =>
      exact allSent attempt (List.mem_append_left _ member)
  | _ => exact allSent attempt member

/-- While every broadcast succeeds the rows are broadcast in the order of the pushes. -/
theorem inOrder_run (inputs : List DrainInput) (allSent : (run engine config inputs).AllSent) :
    (run engine config inputs).InOrder := by
  have kept : (run engine config inputs).AllSent → (run engine config inputs).InOrder :=
    Execution.run_invariant (fun state : DrainWorld => state.AllSent → state.InOrder)
      (fun _ input kept allSent => (kept (allSent_of_step allSent)).step input allSent)
      (fun _ => ⟨rfl, RetryQueue.ordered_empty⟩) inputs
  exact kept allSent

end Order

end DrainWorld

/-! ## Runs of the network -/

namespace RelayNetwork

variable {count : Nat} (servers : Fin count → RelayServer)

def journal (network : RelayNetwork count) (server : Fin count) : List WorkerEvent :=
  (network.world server).worker.journal

def readRows (network : RelayNetwork count) (server : Fin count) : List Row :=
  (network.journal server).filterMap fun
    | .inboundPushed row _ => some row
    | _ => none

/-- A server stored the second row when it knew the first one. -/
def Causes (network : RelayNetwork count) (first second : Nat) : Prop :=
  ∃ server, KnewBefore (network.journal server) first second

/-- No broadcast of the server has failed. -/
def NeverFailed (network : RelayNetwork count) (server : Fin count) : Prop :=
  ∀ item, .injected item false ∉ (network.world server).mod.world.inject.journal

theorem map_id_readRows (network : RelayNetwork count) (server : Fin count) :
    (readRows network server).map (·.id) = pushedIds (network.journal server) := by
  rw [readRows, pushedIds, List.map_filterMap]
  apply List.filterMap_congr
  intro event member
  cases event <;> rfl

theorem clocked_run (players : List PlayerRow) (inputs : List (NetworkInput count))
    (server : Fin count) :
    Clocked ((run servers players inputs).journal server)
      (run servers players inputs).shared := by
  refine run_each_of_shares servers players
    (fun _ _ world => Clocked world.worker.journal world.database) ?_ ?_ ?_ ?_ inputs server
  · exact fun _ => .nil _
  · intro past input clocked
    cases input.input with
    | worker workerInput =>
        exact (clocked input.server).move (cursorInvariant servers players past input.server)
          (DbWorker.step_move _ _ workerInput)
    | remote action => exact (clocked input.server).share (Database.Grows.remote _ action).nextId
    | _ => exact clocked input.server
  · exact fun _ _ _ _ clocked => clocked
  · exact fun _ _ _ _ clocked shares => clocked.share shares.nextId

theorem lt_of_causes (players : List PlayerRow) (inputs : List (NetworkInput count))
    {first second : Nat}
    (causes : Relation.TransGen (Causes (run servers players inputs)) first second) :
    first < second := by
  have clock {first second : Nat} (caused : Causes (run servers players inputs) first second) :
      first < second := by
    rcases caused with ⟨server, knew⟩
    exact (clocked_run servers players inputs server).lt_of_knewBefore knew
  induction causes with
  | single caused => exact clock caused
  | tail _ caused induction => exact induction.trans (clock caused)

theorem readRows_increasing (players : List PlayerRow) (inputs : List (NetworkInput count))
    (server : Fin count) :
    (readRows (run servers players inputs) server).Pairwise fun first second =>
      first.id < second.id := by
  have increasing := (cursorInvariant servers players inputs server).increasing
  rw [← List.pairwise_map (f := Row.id), map_id_readRows]
  exact increasing

theorem completedIds_sublist (players : List PlayerRow) (inputs : List (NetworkInput count))
    (server : Fin count) (neverFailed : NeverFailed (run servers players inputs) server) :
    ((completedRows (run servers players inputs) server).map (·.id)).Sublist
      (pushedIds ((run servers players inputs).journal server)) := by
  rcases drainFollows_run servers players inputs server with ⟨steps, follows⟩
  have journaled := DrainWorld.journaled_run (servers server).engine (servers server).config steps
  have allSent : (DrainWorld.run (servers server).engine (servers server).config
      steps).AllSent := by
    intro attempt member
    by_contra failed
    have entry : (attempt.item, false) ∈ injectedRows
        ((run servers players inputs).world server).mod.world.inject.journal := by
      rw [← follows.agrees, ← journaled, List.mem_map]
      exact ⟨attempt, member, by rw [Bool.not_eq_true] at failed; rw [failed]⟩
    rcases List.mem_filterMap.mp entry with ⟨event, noted, found⟩
    cases event with
    | injected item sent =>
        cases found
        exact neverFailed _ noted
    | _ => cases found
  have ordered := (DrainWorld.inOrder_run steps allSent).ordered
  have finished : ((DrainWorld.run (servers server).engine (servers server).config
      steps).sentRows).Sublist (DrainWorld.run (servers server).engine
        (servers server).config steps).pushed := by
    refine List.Sublist.trans ?_ ordered
    unfold RetryQueue.items
    rw [List.append_assoc]
    exact List.sublist_append_left _ _
  rw [journaled.sentRows, follows.agrees, follows.pushed] at finished
  rw [journal, ← map_id_workerRows (readsRows_run servers players inputs server).decoded]
  exact finished.map _

theorem journal_extends (players : List PlayerRow) (past more : List (NetworkInput count))
    (server : Fin count) :
    ((run servers players past).journal server).IsPrefix
      ((run servers players (past ++ more)).journal server) := by
  induction more using List.reverseRecOn with
  | nil => exact (List.append_nil past).symm ▸ List.prefix_rfl
  | append_singleton more input induction =>
      rw [← List.append_assoc]
      exact induction.trans (journal_step server input)

/-- A row whose broadcast was completed before a server stored a line is a cause of the line. -/
theorem causes_of_completed (players : List PlayerRow) (past more : List (NetworkInput count))
    (server : Fin count) {item : InboundMessage} {msg : OutboundMessage} {row : Row}
    (completed : item ∈ completedRows (run servers players past) server)
    (stored : .inserted msg row ∈ (run servers players (past ++ more)).journal server)
    (later : .inserted msg row ∉ (run servers players past).journal server) :
    Causes (run servers players (past ++ more)) item.id row.id := by
  rcases pushed_of_attempt (mem_attempts_of_completed completed) with ⟨read, pushed⟩
  have id : item.id = read.id := by
    rcases (readsRows_run servers players past server).decoded read item pushed with
      ⟨buffers, beyond, -, rfl⟩
    rfl
  rcases journal_extends servers players past more server with ⟨added, grown⟩
  rw [← grown] at stored
  have new := (List.mem_append.mp stored).resolve_left later
  refine ⟨server, .inboundPushed read item, .inserted msg row, ?_, congrArg some id.symm, rfl⟩
  rw [← grown]
  exact (List.singleton_sublist.mpr pushed).append (List.singleton_sublist.mpr new)

/-- In every run of the network all servers read the rows they have in common in one order.
A server none of whose broadcasts failed completes them in the order it read them. A row whose
broadcast a server completed before it stored a line is a cause of this line, and wherever two
rows are read of which one is the cause of the other, the cause comes first. -/
theorem relay_ordered (players : List PlayerRow) (past more : List (NetworkInput count)) :
    let network := run servers players (past ++ more)
    (∀ left right, (readRows network left).filter (· ∈ readRows network right) =
      (readRows network right).filter (· ∈ readRows network left)) ∧
    (∀ receiver, NeverFailed network receiver →
      ((completedRows network receiver).map (·.id)).Sublist
        (pushedIds (network.journal receiver))) ∧
    (∀ server, ∀ item ∈ completedRows (run servers players past) server, ∀ msg row,
      .inserted msg row ∈ network.journal server →
      .inserted msg row ∉ (run servers players past).journal server →
      Causes network item.id row.id) ∧
    ∀ first second, Relation.TransGen (Causes network) first second → ∀ receiver,
      first ∈ pushedIds (network.journal receiver) →
      second ∈ pushedIds (network.journal receiver) →
      [first, second].Sublist (pushedIds (network.journal receiver)) := by
  intro network
  refine ⟨fun left right => ?_, fun receiver => ?_, fun server item completed msg row => ?_,
    fun first second causes receiver firstRead secondRead => ?_⟩
  · have irreflexive : Std.Irrefl fun first second : Row => first.id < second.id :=
      ⟨fun _ => Nat.lt_irrefl _⟩
    have antisymmetric : Std.Antisymm fun first second : Row => first.id < second.id :=
      ⟨fun _ _ less more => absurd more (Nat.lt_asymm less)⟩
    exact filter_mem_comm _ (readRows_increasing servers players _ left)
      (readRows_increasing servers players _ right)
  · exact completedIds_sublist servers players _ receiver
  · exact causes_of_completed servers players past more server completed
  · have increasing := (cursorInvariant servers players (past ++ more) receiver).increasing
    exact pair_sublist_of_lt increasing firstRead secondRead
      (lt_of_causes servers players _ causes)

end RelayNetwork

end PalCrosschat
