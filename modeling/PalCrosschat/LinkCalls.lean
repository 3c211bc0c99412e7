import PalCrosschat.LinkRace

/-! # A link job call by call

`process_link_job` with the outcome of every database call as an input. The steps
of the database thread perform the same calls, so what holds of all outcomes here
holds of the thread on every table. -/

namespace PalCrosschat

open Bytes (ascii)
open DbWorker (FetchResult linkDatabaseError linkInvalidCode)

/-- What the calls of one job report, in the order of the calls: `true` for a
return value of zero. -/
structure LinkCalls where
  conflictBindParam : Bool := true
  conflictExecute : Bool := true
  conflictBindResult : Bool := true
  conflictStoreResult : Bool := true
  conflictFetch : FetchResult := .noData
  lookupBindParam : Bool := true
  lookupExecute : Bool := true
  lookupBindResult : Bool := true
  lookupStoreResult : Bool := true
  lookupFetch : FetchResult := .row
  completeBindParam : Bool := true
  completeExecute : Bool := true
  affectedRows : Nat := 1
deriving DecidableEq, Repr

def linkMissingAccount : Bytes := ascii "Discord link failed: missing account id."
def linkAlreadyLinked : Bytes := ascii "This in-game account is already linked to Discord."

/-- The block "Complete link.": the statements it executes, and the notice. -/
def completeBlock (calls : LinkCalls) : List Statement × Bytes :=
  if !calls.completeBindParam then ([], linkDatabaseError)
  else if !calls.completeExecute then ([.linkComplete], linkDatabaseError)
  else if calls.affectedRows = 0 then ([.linkComplete], linkInvalidCode)
  else ([.linkComplete], linkSuccess)

def lookupBlock (calls : LinkCalls) : List Statement × Bytes :=
  if !calls.lookupBindParam then ([], linkDatabaseError)
  else if !calls.lookupExecute then ([.linkLookup], linkDatabaseError)
  else if !calls.lookupBindResult || !calls.lookupStoreResult then
    ([.linkLookup], linkDatabaseError)
  else
    match calls.lookupFetch with
    | .noData => ([.linkLookup], linkInvalidCode)
    | .error => ([.linkLookup], linkDatabaseError)
    | .row | .truncated => (.linkLookup :: (completeBlock calls).1, (completeBlock calls).2)

def conflictBlock (calls : LinkCalls) : List Statement × Bytes :=
  if !calls.conflictBindParam then ([], linkDatabaseError)
  else if !calls.conflictExecute then ([.linkConflict], linkDatabaseError)
  else if calls.conflictBindResult && calls.conflictStoreResult &&
      calls.conflictFetch == .row then
    ([.linkConflict], linkAlreadyLinked)
  else (.linkConflict :: (lookupBlock calls).1, (lookupBlock calls).2)

/-- `process_link_job`: the statements that are executed, in order, and the notice of
the one result that is pushed. -/
def processLinkJob (job : LinkJob) (calls : LinkCalls) : List Statement × Bytes :=
  if job.connectCode.isEmpty || job.platformUserId.isEmpty then ([], linkMissingAccount)
  else conflictBlock calls

section Blocks

variable {calls : LinkCalls}

theorem lookupBlock_of_failed (bound : calls.lookupBindParam = true)
    (failed : calls.lookupExecute = false ∨ calls.lookupBindResult = false) :
    lookupBlock calls = ([.linkLookup], linkDatabaseError) := by
  rcases failed with failed | failed
  · simp [lookupBlock, bound, failed]
  · cases executed : calls.lookupExecute <;> simp [lookupBlock, bound, executed, failed]

theorem lookupBlock_of_stored (bound : calls.lookupBindParam = true)
    (executed : calls.lookupExecute = true) (resultBound : calls.lookupBindResult = true)
    (stored : calls.lookupStoreResult = true) :
    lookupBlock calls =
      match calls.lookupFetch with
      | .noData => ([.linkLookup], linkInvalidCode)
      | .error => ([.linkLookup], linkDatabaseError)
      | .row | .truncated =>
          (.linkLookup :: (completeBlock calls).1, (completeBlock calls).2) := by
  simp [lookupBlock, bound, executed, resultBound, stored]

theorem conflictBlock_of_failed (bound : calls.conflictBindParam = true)
    (failed : calls.conflictExecute = false) :
    conflictBlock calls = ([.linkConflict], linkDatabaseError) := by
  simp [conflictBlock, bound, failed]

theorem conflictBlock_of_found (bound : calls.conflictBindParam = true)
    (executed : calls.conflictExecute = true) (resultBound : calls.conflictBindResult = true)
    (stored : calls.conflictStoreResult = true) (found : calls.conflictFetch = .row) :
    conflictBlock calls = ([.linkConflict], linkAlreadyLinked) := by
  simp [conflictBlock, bound, executed, resultBound, stored, found]

theorem conflictBlock_of_missed (bound : calls.conflictBindParam = true)
    (executed : calls.conflictExecute = true)
    (missed : ¬(calls.conflictBindResult = true ∧ calls.conflictStoreResult = true ∧
      calls.conflictFetch = .row)) :
    conflictBlock calls = (.linkConflict :: (lookupBlock calls).1, (lookupBlock calls).2) := by
  have undecided : ¬(calls.conflictBindResult && calls.conflictStoreResult &&
      calls.conflictFetch == .row) = true := by
    simpa [and_assoc] using missed
  simp only [conflictBlock, bound, executed, Bool.not_true, Bool.false_eq_true, if_false]
  rw [if_neg undecided]

end Blocks

/-! ## Failing closed -/

def ConflictExcluded (calls : LinkCalls) : Prop :=
  calls.conflictBindParam = true ∧ calls.conflictExecute = true ∧
    calls.conflictBindResult = true ∧ calls.conflictStoreResult = true ∧
    calls.conflictFetch = .noData

/-- The UPDATE is executed only after the conflict query has excluded a conflict. -/
def FailsClosed (job : LinkJob) (calls : LinkCalls) : Prop :=
  .linkComplete ∈ (processLinkJob job calls).1 → ConflictExcluded calls

/-- The result of the conflict query can be read: it is bound and stored, and the fetch
reports a whole row or the end. -/
def ConflictReadable (calls : LinkCalls) : Prop :=
  calls.conflictBindResult = true ∧ calls.conflictStoreResult = true ∧
    (calls.conflictFetch = .noData ∨ calls.conflictFetch = .row)

/-- Something else than the answer of the conflict query keeps the job from the UPDATE. -/
def StopsElsewhere (job : LinkJob) (calls : LinkCalls) : Prop :=
  job.connectCode = [] ∨ job.platformUserId = [] ∨
    calls.conflictBindParam = false ∨ calls.conflictExecute = false ∨
    calls.lookupBindParam = false ∨ calls.lookupExecute = false ∨
    calls.lookupBindResult = false ∨ calls.lookupStoreResult = false ∨
    calls.lookupFetch = .noData ∨ calls.lookupFetch = .error ∨
    calls.completeBindParam = false

section Executed

variable {job : LinkJob} {calls : LinkCalls}

theorem linkComplete_mem_completeBlock :
    .linkComplete ∈ (completeBlock calls).1 ↔ calls.completeBindParam = true := by
  unfold completeBlock
  cases calls.completeBindParam with
  | false => simp
  | true =>
      cases calls.completeExecute with
      | false => simp
      | true => by_cases none : calls.affectedRows = 0 <;> simp [none]

theorem linkComplete_mem_lookupBlock :
    .linkComplete ∈ (lookupBlock calls).1 ↔
      calls.lookupBindParam = true ∧ calls.lookupExecute = true ∧
        calls.lookupBindResult = true ∧ calls.lookupStoreResult = true ∧
        (calls.lookupFetch = .row ∨ calls.lookupFetch = .truncated) ∧
        calls.completeBindParam = true := by
  unfold lookupBlock
  cases calls.lookupBindParam with
  | false => simp
  | true =>
      cases calls.lookupExecute with
      | false => simp
      | true =>
          cases calls.lookupBindResult <;> cases calls.lookupStoreResult <;>
            cases calls.lookupFetch <;> simp [linkComplete_mem_completeBlock]

/-- Only a whole row keeps the conflict block from going on. -/
theorem linkComplete_mem_conflictBlock :
    .linkComplete ∈ (conflictBlock calls).1 ↔
      calls.conflictBindParam = true ∧ calls.conflictExecute = true ∧
        ¬(calls.conflictBindResult = true ∧ calls.conflictStoreResult = true ∧
          calls.conflictFetch = .row) ∧
        .linkComplete ∈ (lookupBlock calls).1 := by
  unfold conflictBlock
  cases calls.conflictBindParam with
  | false => simp
  | true =>
      cases calls.conflictExecute with
      | false => simp
      | true =>
          cases calls.conflictBindResult <;> cases calls.conflictStoreResult <;>
            cases calls.conflictFetch <;> simp

theorem linkComplete_executed_iff :
    .linkComplete ∈ (processLinkJob job calls).1 ↔
      ¬StopsElsewhere job calls ∧
        ¬(calls.conflictBindResult = true ∧ calls.conflictStoreResult = true ∧
          calls.conflictFetch = .row) := by
  unfold processLinkJob
  by_cases missing : job.connectCode = [] ∨ job.platformUserId = []
  · rcases missing with noCode | noAccount
    · simp [noCode, StopsElsewhere]
    · simp [noAccount, StopsElsewhere]
  · rw [not_or] at missing
    rw [if_neg (by simp [missing.1, missing.2]), linkComplete_mem_conflictBlock,
      linkComplete_mem_lookupBlock]
    unfold StopsElsewhere
    cases calls.lookupFetch <;> simp [missing.1, missing.2] <;> tauto

end Executed

/-- A job fails closed exactly when the answer of the conflict query can be read or
something else stops it. -/
theorem failsClosed_iff (job : LinkJob) (calls : LinkCalls) :
    FailsClosed job calls ↔ ConflictReadable calls ∨ StopsElsewhere job calls := by
  unfold FailsClosed
  rw [linkComplete_executed_iff]
  by_cases stopped : StopsElsewhere job calls
  · simp [stopped]
  · have sent : calls.conflictBindParam = true ∧ calls.conflictExecute = true := by
      unfold StopsElsewhere at stopped
      simp only [not_or, Bool.not_eq_false] at stopped
      exact ⟨stopped.2.2.1, stopped.2.2.2.1⟩
    simp only [stopped, not_false_eq_true, true_and, or_false, ConflictExcluded,
      ConflictReadable, sent]
    cases calls.conflictBindResult <;> cases calls.conflictStoreResult <;>
      cases calls.conflictFetch <;> simp

def linkAgain : LinkJob where
  connectCode := ascii "abc"
  platform := ascii "steam"
  userId := ascii "1"
  platformUserId := ascii "steam_1"
  playerName := ascii "Ann"

/-- The fetch of the conflict row fails, and the account is linked all the same. -/
theorem linked_after_failed_fetch :
    let calls : LinkCalls := { conflictFetch := .error }
    processLinkJob linkAgain calls =
        ([.linkConflict, .linkLookup, .linkComplete], linkSuccess) ∧
      ¬FailsClosed linkAgain calls := by
  refine ⟨by decide, fun closed => ?_⟩
  have excluded := closed (by decide)
  exact absurd excluded.2.2.2.2 (by decide)

/-! ## The thread performs these calls -/

namespace DbWorker

variable (config : Config)

def finishLink : List WorkerInput → DbState → DbState
  | [], state => state
  | input :: rest, state =>
      if state.worker.control.linkJob = none then state
      else finishLink rest (step config state input)

def linkCalls (database : Database) (job : LinkJob) (conflict lookup complete : LinkFault) :
    LinkCalls where
  conflictExecute := conflict ≠ .execute
  conflictBindResult := conflict ≠ .bindOrStore
  conflictFetch := fetchDiscordId (database.linkedRows job.platformUserId) conflict
  lookupExecute := lookup ≠ .execute
  lookupBindResult := lookup ≠ .bindOrStore
  lookupFetch := fetchDiscordId (database.codeRows job.connectCode) lookup
  completeExecute := complete = .none
  affectedRows := (database.codeRows job.connectCode).length

/-- The table after a job: changed by the UPDATE, when that is executed without a fault. -/
def afterLink (database : Database) (job : LinkJob) (calls : LinkCalls) : Database :=
  if .linkComplete ∈ (processLinkJob job calls).1 ∧ calls.completeExecute = true then
    database.complete job
  else database

section Steps

variable {config} {state : DbState} {job : LinkJob} {input second third : WorkerInput}

theorem finishLink_of_free (free : state.worker.control.linkJob = none)
    (inputs : List WorkerInput) : finishLink config inputs state = state := by
  cases inputs with
  | nil => rfl
  | cons input rest => rw [finishLink, if_pos free]

theorem finishLink_answerLink (notice : Bytes) (inputs : List WorkerInput) :
    finishLink config inputs (answerLink state job notice) = answerLink state job notice :=
  finishLink_of_free rfl inputs

/-- The UPDATE step against its block. -/
theorem linkComplete_eq (calls : LinkCalls) (bound : calls.completeBindParam = true)
    (executes : calls.completeExecute = decide (input.link = .none))
    (affected : calls.affectedRows = (state.database.codeRows job.connectCode).length) :
    linkComplete state job input.link =
      answerLink
        { state with
          database := if calls.completeExecute = true then state.database.complete job
            else state.database }
        job (completeBlock calls).2 := by
  unfold linkComplete completeBlock
  rw [bound, executes, affected]
  by_cases noFault : input.link = .none
  · simp only [noFault]
    by_cases unaffected : (state.database.codeRows job.connectCode).length = 0
    · simp [unaffected, Database.complete]
    · simp [unaffected, Database.complete, linkSuccess]
  · simp [noFault]

/-- The steps from the UPDATE on. -/
theorem finishLink_complete (config : Config) (state : DbState) (job : LinkJob)
    (third : WorkerInput) (calls : LinkCalls) (bound : calls.completeBindParam = true)
    (executes : calls.completeExecute = decide (third.link = .none))
    (affected : calls.affectedRows = (state.database.codeRows job.connectCode).length) :
    finishLink config [third] (goTo state (.linkComplete job)) =
      answerLink
        { state with
          database := if calls.completeExecute = true then state.database.complete job
            else state.database }
        job (completeBlock calls).2 := by
  have update : finishLink config [third] (goTo state (.linkComplete job)) =
      linkComplete state job third.link := rfl
  rw [update, linkComplete_eq calls bound executes affected]

theorem finishLink_lookup (config : Config) (state : DbState) (job : LinkJob)
    (second third : WorkerInput) (conflict : LinkFault) :
    let calls := linkCalls state.database job conflict second.link third.link
    finishLink config [second, third] (goTo state (.linkLookup job)) =
      answerLink
        { state with
          database :=
            if .linkComplete ∈ (lookupBlock calls).1 ∧ calls.completeExecute = true then
              state.database.complete job
            else state.database }
        job (lookupBlock calls).2 := by
  intro calls
  have lookup : finishLink config [second, third] (goTo state (.linkLookup job)) =
      finishLink config [third] (linkLookup state job second.link) := rfl
  rw [lookup]
  unfold linkLookup
  by_cases failed : second.link = .execute ∨ second.link = .bindOrStore
  · have block : lookupBlock calls = ([.linkLookup], linkDatabaseError) := by
      apply lookupBlock_of_failed rfl
      simpa [calls, linkCalls] using failed
    rw [if_pos failed, finishLink_answerLink, block, if_neg (by simp)]
  · have executed : calls.lookupExecute = true := by
      simpa [calls, linkCalls] using (not_or.mp failed).1
    have resultBound : calls.lookupBindResult = true := by
      simpa [calls, linkCalls] using (not_or.mp failed).2
    have block := lookupBlock_of_stored rfl executed resultBound rfl
    have update := finishLink_complete config state job third calls rfl rfl rfl
    rw [if_neg failed, block]
    change finishLink config [third] (match calls.lookupFetch with
      | .noData => _ | .error => _ | .row | .truncated => _) = _
    cases calls.lookupFetch with
    | noData => simp [finishLink_answerLink]
    | error => simp [finishLink_answerLink]
    | row => simpa [linkComplete_mem_completeBlock, calls, linkCalls] using update
    | truncated => simpa [linkComplete_mem_completeBlock, calls, linkCalls] using update

/-- The thread answers a job as `process_link_job` does with these calls. -/
theorem finishLink_eq :
    let calls := linkCalls state.database job input.link second.link third.link
    finishLink config [input, second, third] (beginLink state job) =
      answerLink { state with database := afterLink state.database job calls } job
        (processLinkJob job calls).2 := by
  intro calls
  unfold beginLink afterLink processLinkJob
  split
  · simp [finishLink_answerLink, linkMissingAccount]
  · have conflict : finishLink config [input, second, third] (goTo state (.linkConflict job)) =
        finishLink config [second, third] (linkConflict state job input.link) := rfl
    have lookup := finishLink_lookup config state job second third input.link
    rw [conflict]
    unfold linkConflict
    by_cases noExecute : input.link = .execute
    · have block : conflictBlock calls = ([.linkConflict], linkDatabaseError) :=
        conflictBlock_of_failed rfl (by simpa [calls, linkCalls] using noExecute)
      rw [if_pos noExecute, finishLink_answerLink, block, if_neg (by simp)]
    · have executed : calls.conflictExecute = true := by
        simpa [calls, linkCalls] using noExecute
      rw [if_neg noExecute]
      by_cases found : input.link ≠ .bindOrStore ∧
          fetchDiscordId (state.database.linkedRows job.platformUserId) input.link = .row
      · have block : conflictBlock calls = ([.linkConflict], linkAlreadyLinked) :=
          conflictBlock_of_found rfl executed (by simpa [calls, linkCalls] using found.1) rfl
            found.2
        rw [if_pos found, finishLink_answerLink, block, if_neg (by simp)]
        rfl
      · have block : conflictBlock calls =
            (.linkConflict :: (lookupBlock calls).1, (lookupBlock calls).2) := by
          apply conflictBlock_of_missed rfl executed
          intro read
          apply found
          exact ⟨by simpa [calls, linkCalls] using read.1, read.2.2⟩
        rw [if_neg found, block]
        refine lookup.trans ?_
        simp [calls]

end Steps

end DbWorker

end PalCrosschat
