import PalCrosschat.LinkCalls

/-! # What a link job achieves

Without a fault and without another server a job is one transaction: it links the row
that holds its code, when there is such a row and the account is not linked yet, and
changes nothing otherwise. -/

namespace PalCrosschat

open Bytes (ascii)
open DbWorker (fetchDiscordId finishLink linkCalls afterLink linkDatabaseError linkInvalidCode)

def Linkable (database : Database) (job : LinkJob) : Prop :=
  job.connectCode ≠ [] ∧ job.platformUserId ≠ [] ∧
    (∀ row ∈ database.players, row.platformUserId = some job.platformUserId →
      row.userId = none ∨ row.userId = some []) ∧
    ∃ row ∈ database.players, row.connectCode = some job.connectCode

/-- The work of one job on the state of the thread. -/
structure LinkJobDone (job : LinkJob) (before after : DbState) : Prop where
  /-- The thread is ready for the next job. -/
  finished : after.worker.control = .drainLinks
  /-- One result is pushed, and it tells whether the job was to succeed. -/
  answered : ∃ notice,
    after.linkResults = before.linkResults.push
      { notice, platformUserId := job.platformUserId } ∧
    linkAnswers after.worker.journal =
      linkAnswers before.worker.journal ++ [(job, notice)] ∧
    (notice = linkSuccess ↔ Linkable before.database job)
  linked : Linkable before.database job → ∃ front row rear,
    before.database.players = front ++ row :: rear ∧
      row.connectCode = some job.connectCode ∧
      after.database.players = front ++ job.write row :: rear
  refused : ¬Linkable before.database job → after.database.players = before.database.players
  oneLink : job.userId ≠ [] → before.database.OneLink → after.database.OneLink

section Queries

variable {database : Database} {job : LinkJob}

theorem linkedRows_eq_nil_iff {platformUserId : Bytes} :
    database.linkedRows platformUserId = [] ↔
      ∀ row ∈ database.players, row.platformUserId = some platformUserId →
        row.userId = none ∨ row.userId = some [] := by
  rw [Database.linkedRows, List.filter_eq_nil_iff]
  apply forall₂_congr
  intro row member
  cases row.userId with
  | none => simp
  | some userId => by_cases empty : userId = [] <;> simp [empty]

theorem codeRows_ne_nil_iff {connectCode : Bytes} :
    database.codeRows connectCode ≠ [] ↔
      ∃ row ∈ database.players, row.connectCode = some connectCode := by
  rw [Database.codeRows, Ne, List.filter_eq_nil_iff]
  simp

theorem fetchDiscordId_of_short (rows : List PlayerRow)
    (short : ∀ row ∈ rows, ∀ text ∈ row.discordId, text.length ≤ 63) :
    fetchDiscordId rows .none = if rows = [] then .noData else .row := by
  cases rows with
  | nil => rfl
  | cons row rest =>
      have fits : row.discordId.any (fun text => decide (64 ≤ text.length)) = false := by
        cases stored : row.discordId with
        | none => rfl
        | some text =>
            have length := short row List.mem_cons_self text stored
            simp only [Option.any_some, decide_eq_false_iff_not]
            omega
      simp [fetchDiscordId, fits]

end Queries

section Notices

variable {job : LinkJob} {calls : LinkCalls}

theorem linkDatabaseError_ne : linkDatabaseError ≠ linkSuccess := by decide

theorem linkInvalidCode_ne : linkInvalidCode ≠ linkSuccess := by decide

theorem linkAlreadyLinked_ne : linkAlreadyLinked ≠ linkSuccess := by decide

theorem linkMissingAccount_ne : linkMissingAccount ≠ linkSuccess := by decide

def UpdateTook (executed : List Statement) (calls : LinkCalls) : Prop :=
  .linkComplete ∈ executed ∧ calls.completeExecute = true ∧ calls.affectedRows ≠ 0

theorem completeBlock_success_iff :
    (completeBlock calls).2 = linkSuccess ↔ UpdateTook (completeBlock calls).1 calls := by
  unfold UpdateTook completeBlock
  cases calls.completeBindParam with
  | false => simp [linkDatabaseError_ne]
  | true =>
      cases calls.completeExecute with
      | false => simp [linkDatabaseError_ne]
      | true =>
          by_cases none : calls.affectedRows = 0 <;> simp [none, linkInvalidCode_ne]

theorem lookupBlock_success_iff :
    (lookupBlock calls).2 = linkSuccess ↔ UpdateTook (lookupBlock calls).1 calls := by
  have complete : (completeBlock calls).2 = linkSuccess ↔
      UpdateTook (completeBlock calls).1 calls := completeBlock_success_iff
  unfold UpdateTook at complete ⊢
  unfold lookupBlock
  cases calls.lookupBindParam with
  | false => simp [linkDatabaseError_ne]
  | true =>
      cases calls.lookupExecute with
      | false => simp [linkDatabaseError_ne]
      | true =>
          cases calls.lookupBindResult <;> cases calls.lookupStoreResult <;>
            cases calls.lookupFetch <;>
            simp [linkDatabaseError_ne, linkInvalidCode_ne, complete]

theorem processLinkJob_success_iff :
    (processLinkJob job calls).2 = linkSuccess ↔
      UpdateTook (processLinkJob job calls).1 calls := by
  have lookup : (lookupBlock calls).2 = linkSuccess ↔
      UpdateTook (lookupBlock calls).1 calls := lookupBlock_success_iff
  unfold UpdateTook at lookup ⊢
  unfold processLinkJob conflictBlock
  split
  · simp [linkMissingAccount_ne]
  · cases calls.conflictBindParam with
    | false => simp [linkDatabaseError_ne]
    | true =>
        cases calls.conflictExecute with
        | false => simp [linkDatabaseError_ne]
        | true =>
            cases calls.conflictBindResult <;> cases calls.conflictStoreResult <;>
              cases calls.conflictFetch <;> simp [linkAlreadyLinked_ne, lookup]

end Notices

section NoFault

variable {database : Database} {job : LinkJob}

/-- Without a fault the conflict query and the code query decide. -/
theorem linkComplete_executed_of_noFault
    (short : ∀ row ∈ database.players, ∀ text ∈ row.discordId, text.length ≤ 63) :
    Statement.linkComplete ∈
        (processLinkJob job (linkCalls database job .none .none .none)).1 ↔
      Linkable database job := by
  have conflict := fetchDiscordId_of_short (database.linkedRows job.platformUserId)
    fun row member => short row (List.mem_of_mem_filter member)
  have lookup := fetchDiscordId_of_short (database.codeRows job.connectCode)
    fun row member => short row (List.mem_of_mem_filter member)
  unfold Linkable
  rw [← linkedRows_eq_nil_iff, ← codeRows_ne_nil_iff, linkComplete_executed_iff]
  simp only [StopsElsewhere, linkCalls, conflict, lookup]
  by_cases free : database.linkedRows job.platformUserId = [] <;>
    by_cases unknown : database.codeRows job.connectCode = [] <;> simp [free, unknown]

theorem affectedRows_ne_zero (linkable : Linkable database job) :
    (linkCalls database job .none .none .none).affectedRows ≠ 0 := by
  intro none
  exact codeRows_ne_nil_iff.mpr linkable.2.2.2 (List.eq_nil_of_length_eq_zero none)

theorem processLinkJob_success_of_noFault
    (short : ∀ row ∈ database.players, ∀ text ∈ row.discordId, text.length ≤ 63) :
    (processLinkJob job (linkCalls database job .none .none .none)).2 = linkSuccess ↔
      Linkable database job := by
  rw [processLinkJob_success_iff, UpdateTook, linkComplete_executed_of_noFault short]
  constructor
  · exact fun took => took.1
  · exact fun linkable => ⟨linkable, rfl, affectedRows_ne_zero linkable⟩

/-- The UPDATE of a job that is to succeed, and of no other, is the change of the table. -/
theorem afterLink_of_linkable
    (short : ∀ row ∈ database.players, ∀ text ∈ row.discordId, text.length ≤ 63)
    (linkable : Linkable database job) :
    afterLink database job (linkCalls database job .none .none .none) =
      database.complete job :=
  if_pos ⟨(linkComplete_executed_of_noFault short).mpr linkable, rfl⟩

theorem afterLink_of_refused
    (short : ∀ row ∈ database.players, ∀ text ∈ row.discordId, text.length ≤ 63)
    (refused : ¬Linkable database job) :
    afterLink database job (linkCalls database job .none .none .none) = database :=
  if_neg fun executed => refused ((linkComplete_executed_of_noFault short).mp executed.1)

end NoFault

theorem oneLink_complete {database : Database} {job : LinkJob}
    (unique : database.connectCodes.Nodup) (linkable : Linkable database job)
    (oneLink : database.OneLink) : (database.complete job).OneLink := by
  rcases Database.complete_split unique (codeRows_ne_nil_iff.mpr linkable.2.2.2) with
    ⟨front, row, rear, split, -, written⟩
  intro platformUserId
  by_cases same : job.platformUserId = platformUserId ∧ job.userId ≠ []
  · have unlinked := linkedRows_eq_nil_iff.mpr linkable.2.2.1
    rw [same.1] at unlinked
    exact Database.length_linkedRows_complete split written unlinked
  · have kept := Database.linkedRows_complete split written same
    exact Nat.le_trans kept.length_le (oneLink platformUserId)

/-- The link job specification: the thread pops a job and works on it, all calls
succeed, and no other server writes in between. -/
theorem linkJob_spec (config : Config) (state : DbState) (job : LinkJob) (rest : List LinkJob)
    (pop first second third : WorkerInput)
    (control : state.worker.control = .drainLinks) (running : pop.stopRequested = false)
    (queued : state.linkJobs.items = job :: rest)
    (noFault : first.link = .none ∧ second.link = .none ∧ third.link = .none)
    (unique : state.database.connectCodes.Nodup)
    (short : ∀ row ∈ state.database.players, ∀ text ∈ row.discordId, text.length ≤ 63) :
    LinkJobDone job state
      (finishLink config [first, second, third] (DbWorker.step config state pop)) := by
  have popped : DbWorker.step config state pop =
      DbWorker.beginLink { state with linkJobs := state.linkJobs.tryPop.2 } job := by
    have front : state.linkJobs.tryPop = (some job, state.linkJobs.tryPop.2) := by
      unfold BoundedQueue.tryPop
      rw [show state.linkJobs.deque.items = job :: rest from queued]
    simp only [DbWorker.step, control, running, Bool.false_eq_true, if_false]
    rw [front]
  rw [popped, DbWorker.finishLink_eq, noFault.1, noFault.2.1, noFault.2.2]
  dsimp only
  by_cases linkable : Linkable state.database job
  · rw [afterLink_of_linkable short linkable]
    have split := Database.complete_split unique (codeRows_ne_nil_iff.mpr linkable.2.2.2)
    exact
      { finished := rfl
        answered := ⟨_, rfl, linkAnswers_snoc _ _, processLinkJob_success_of_noFault short⟩
        linked := fun _ => split
        refused := fun refused => absurd linkable refused
        oneLink := fun _ => oneLink_complete unique linkable }
  · rw [afterLink_of_refused short linkable]
    exact
      { finished := rfl
        answered := ⟨_, rfl, linkAnswers_snoc _ _, processLinkJob_success_of_noFault short⟩
        linked := fun found => absurd found linkable
        refused := fun _ => rfl
        oneLink := fun _ oneLink => oneLink }

def readyToLink : DbState where
  linkJobs := BoundedQueue.empty.push linkAgain
  worker := { control := .drainLinks, connected := true, cursorReady := true }
  database := { players := [{ discordId := some (ascii "42"), connectCode := some (ascii "abc") }] }

theorem linkJob_spec_readyToLink :
    LinkJobDone linkAgain readyToLink
      (finishLink plainConfig [{}, {}, {}] (DbWorker.step plainConfig readyToLink {})) :=
  linkJob_spec plainConfig readyToLink linkAgain [] {} {} {} {} rfl rfl rfl ⟨rfl, rfl, rfl⟩
    (by decide) (by decide)

end PalCrosschat
