import PalCrosschat.DbWorker

/-! # Link jobs step by step

What a step of the database thread means for `crosschat_players` and for the
answers of the link jobs. A job goes through three statements, and only the last
one, the UPDATE, writes. -/

namespace PalCrosschat

open Bytes (ascii)

def Control.checkedJob : Control → Option LinkJob
  | .linkLookup job | .linkComplete job => some job
  | _ => none

def Control.linkJob : Control → Option LinkJob
  | .linkConflict job => some job
  | control => control.checkedJob

theorem Control.checkedJob_of_free {control : Control} (free : control.linkJob = none) :
    control.checkedJob = none := by
  cases control <;> first | rfl | cases free

def linkSuccess : Bytes := ascii "Discord account linked successfully."

def WorkerEvent.answer : WorkerEvent → Option (LinkJob × Bytes)
  | .linkAnswered job result => some (job, result.notice)
  | _ => none

def linkAnswers (journal : List WorkerEvent) : List (LinkJob × Bytes) :=
  journal.filterMap WorkerEvent.answer

theorem linkAnswers_snoc (journal : List WorkerEvent) (event : WorkerEvent) :
    linkAnswers (journal ++ [event]) = linkAnswers journal ++ event.answer.toList := by
  rw [linkAnswers, List.filterMap_append]
  cases event <;> rfl

/-! ## The completing UPDATE -/

def LinkJob.write (job : LinkJob) (row : PlayerRow) : PlayerRow :=
  { row with
    platform := some job.platform
    userId := some job.userId
    platformUserId := some job.platformUserId
    playerName := some job.playerName
    connectCode := none }

namespace Database

def complete (database : Database) (job : LinkJob) : Database :=
  database.completeLink job.platform job.userId job.platformUserId job.playerName
    job.connectCode

def connectCodes (database : Database) : List Bytes :=
  database.players.filterMap PlayerRow.connectCode

variable {database : Database} {job : LinkJob}

theorem complete_players :
    (database.complete job).players = database.players.map fun row =>
      if row.connectCode = some job.connectCode then job.write row else row := rfl

theorem complete_nothing (nothing : database.codeRows job.connectCode = []) :
    (database.complete job).players = database.players := by
  refine Eq.trans (List.map_congr_left ?_) (List.map_id _)
  intro row member
  have other := List.filter_eq_nil_iff.mp nothing row member
  rw [if_neg (by simpa using other)]
  rfl

theorem connectCode_complete {row : PlayerRow} (member : row ∈ (database.complete job).players) :
    row.connectCode ≠ some job.connectCode := by
  rcases List.mem_map.mp member with ⟨old, -, rfl⟩
  split
  · exact nofun
  · assumption

theorem complete_changes (held : database.codeRows job.connectCode ≠ []) :
    (database.complete job).players ≠ database.players := by
  intro same
  rcases List.exists_mem_of_ne_nil _ held with ⟨row, selected⟩
  rcases List.mem_filter.mp selected with ⟨member, holdsCode⟩
  rw [← same] at member
  exact connectCode_complete member (by simpa using holdsCode)

theorem map_write_other {rows : List PlayerRow}
    (other : job.connectCode ∉ rows.filterMap PlayerRow.connectCode) :
    (rows.map fun row => if row.connectCode = some job.connectCode then job.write row else row) =
      rows := by
  refine Eq.trans (List.map_congr_left ?_) (List.map_id _)
  intro row member
  rw [if_neg]
  · rfl
  · intro holds
    exact other (List.mem_filterMap.mpr ⟨row, member, holds⟩)

/-- With unique codes the UPDATE writes to the one row that holds the code. -/
theorem complete_split (unique : database.connectCodes.Nodup)
    (held : database.codeRows job.connectCode ≠ []) :
    ∃ front row rear, database.players = front ++ row :: rear ∧
      row.connectCode = some job.connectCode ∧
      (database.complete job).players = front ++ job.write row :: rear := by
  rcases List.exists_mem_of_ne_nil _ held with ⟨row, selected⟩
  rcases List.mem_filter.mp selected with ⟨member, holdsCode⟩
  have holds : row.connectCode = some job.connectCode := by simpa using holdsCode
  rcases List.append_of_mem member with ⟨front, rear, split⟩
  have codes : database.connectCodes = front.filterMap PlayerRow.connectCode ++
      job.connectCode :: rear.filterMap PlayerRow.connectCode := by
    rw [connectCodes, split, List.filterMap_append, List.filterMap_cons_some holds]
  rw [codes, List.nodup_middle, List.nodup_cons, List.mem_append, not_or] at unique
  refine ⟨front, row, rear, split, holds, ?_⟩
  rw [complete_players, split, List.map_append, List.map_cons, if_pos holds,
    map_write_other unique.1.1, map_write_other unique.1.2]

end Database

namespace DbWorker

def ConflictMissed (state : DbState) (job : LinkJob) (fault : LinkFault) : Prop :=
  fault ≠ .execute ∧ ¬(fault ≠ .bindOrStore ∧
    fetchDiscordId (state.database.linkedRows job.platformUserId) fault = .row)

structure Aside (state after : DbState) : Prop where
  checked : after.worker.control.checkedJob = none
  players : after.database.players = state.database.players
  answers : linkAnswers after.worker.journal = linkAnswers state.worker.journal

structure Elsewhere (state after : DbState) : Prop where
  free : after.worker.control.linkJob = none
  linkJobs : after.linkJobs = state.linkJobs
  linkResults : after.linkResults = state.linkResults
  players : after.database.players = state.database.players
  answers : linkAnswers after.worker.journal = linkAnswers state.worker.journal

inductive LinkMove (state : DbState) (input : WorkerInput) : DbState → Prop
  | aside {after : DbState} (aside : Aside state after) : LinkMove state input after
  | check (job : LinkJob) (control : state.worker.control = .linkConflict job)
      (missed : ConflictMissed state job input.link) :
      LinkMove state input (goTo state (.linkLookup job))
  | find (job : LinkJob) (control : state.worker.control = .linkLookup job) :
      LinkMove state input (goTo state (.linkComplete job))
  | refuse {after : DbState} (job : LinkJob) (notice : Bytes) (refused : notice ≠ linkSuccess)
      (free : after.worker.control.linkJob = none)
      (players : after.database.players = state.database.players)
      (answers : linkAnswers after.worker.journal =
        linkAnswers state.worker.journal ++ [(job, notice)]) : LinkMove state input after
  | complete {after : DbState} (job : LinkJob)
      (control : state.worker.control = .linkComplete job) (succeeds : input.link = .none)
      (held : state.database.codeRows job.connectCode ≠ [])
      (free : after.worker.control.linkJob = none)
      (players : after.database.players = (state.database.complete job).players)
      (answers : linkAnswers after.worker.journal =
        linkAnswers state.worker.journal ++ [(job, linkSuccess)]) : LinkMove state input after

section Pieces

variable {state : DbState} {input : WorkerInput}

theorem Elsewhere.aside {after : DbState} (elsewhere : Elsewhere state after) :
    Aside state after :=
  ⟨Control.checkedJob_of_free elsewhere.free, elsewhere.players, elsewhere.answers⟩

/-- An event that is no answer. -/
theorem elsewhere_note {after : DbState} {event : WorkerEvent} (silent : event.answer = none)
    (free : after.worker.control.linkJob = none) (linkJobs : after.linkJobs = state.linkJobs)
    (linkResults : after.linkResults = state.linkResults)
    (players : after.database.players = state.database.players)
    (journal : after.worker.journal = state.worker.journal ++ [event]) :
    Elsewhere state after where
  free := free
  linkJobs := linkJobs
  linkResults := linkResults
  players := players
  answers := by rw [journal, linkAnswers_snoc, silent, Option.toList_none, List.append_nil]

theorem elsewhere_markFailure : Elsewhere state (markFailure state) :=
  elsewhere_note rfl rfl rfl rfl rfl rfl

theorem elsewhere_ensureConnected (outcome : ConnectOutcome) :
    Elsewhere state (ensureConnected state outcome) := by
  have connected : ∀ opened : DbState, Elsewhere opened (afterConnect opened) := by
    intro opened
    unfold afterConnect
    cases opened.worker.cursorReady with
    | false => exact ⟨rfl, rfl, rfl, rfl, rfl⟩
    | true => exact ⟨rfl, rfl, rfl, rfl, rfl⟩
  unfold ensureConnected
  split
  · exact connected state
  · cases outcome with
    | initFailed => exact elsewhere_markFailure
    | refused => exact elsewhere_note rfl rfl rfl rfl rfl rfl
    | prepareFailed => exact elsewhere_note rfl rfl rfl rfl rfl rfl
    | ready =>
        have opened := connected { state with
          worker := { state.worker with
            connected := true
            conn := state.worker.conn.init.prepareStatements
            backoffSec := 1 } }
        exact ⟨opened.free, opened.linkJobs, opened.linkResults, opened.players, opened.answers⟩

theorem step_elsewhere (config : Config) (input : WorkerInput)
    (idle : state.worker.control.linkJob = none) (away : state.worker.control ≠ .drainLinks) :
    Elsewhere state (step config state input) := by
  cases here : state.worker.control with
  | drainLinks => exact absurd here away
  | linkConflict job | linkLookup job | linkComplete job =>
      rw [here] at idle
      cases idle
  | loopHead =>
      simp only [step, here]
      split
      · exact ⟨rfl, rfl, rfl, rfl, rfl⟩
      · exact elsewhere_ensureConnected input.connect
  | readMaxId =>
      simp only [step, here]
      split
      · exact elsewhere_note rfl rfl rfl rfl rfl rfl
      · exact elsewhere_markFailure
  | drainOutbound =>
      simp only [step, here]
      split
      · exact ⟨rfl, rfl, rfl, rfl, rfl⟩
      · split
        · exact ⟨rfl, rfl, rfl, rfl, rfl⟩
        · exact ⟨rfl, rfl, rfl, rfl, rfl⟩
  | inserting item =>
      simp only [step, here]
      split
      · exact elsewhere_note rfl rfl rfl rfl rfl rfl
      · exact elsewhere_note rfl rfl rfl rfl rfl rfl
  | selecting now =>
      simp only [step, here]
      split
      · exact elsewhere_note rfl rfl rfl rfl rfl rfl
      · exact elsewhere_markFailure
  | fetching batch =>
      simp only [step, here]
      split
      · split
        · exact ⟨rfl, rfl, rfl, rfl, rfl⟩
        · exact elsewhere_note rfl rfl rfl rfl rfl rfl
      · exact elsewhere_markFailure
  | upsertCursor id | updatingCursor id batch =>
      simp only [step, here]
      split
      · exact ⟨rfl, rfl, rfl, rfl, rfl⟩
      · exact elsewhere_markFailure
  | pollCheck | backoff | idle =>
      simp only [step, here]
      split
      · exact ⟨rfl, rfl, rfl, rfl, rfl⟩
      · exact ⟨rfl, rfl, rfl, rfl, rfl⟩
  | stopped =>
      simp only [step, here]
      exact ⟨idle, rfl, rfl, rfl, rfl⟩

theorem answers_answerLink (job : LinkJob) (notice : Bytes) :
    linkAnswers (answerLink state job notice).worker.journal =
      linkAnswers state.worker.journal ++ [(job, notice)] :=
  linkAnswers_snoc _ _

theorem refuse_answerLink (job : LinkJob) {notice : Bytes} (refused : notice ≠ linkSuccess) :
    LinkMove state input (answerLink state job notice) :=
  .refuse job notice refused rfl rfl (answers_answerLink job notice)

theorem move_linkConflict (job : LinkJob) (control : state.worker.control = .linkConflict job) :
    LinkMove state input (linkConflict state job input.link) := by
  unfold linkConflict
  split
  · exact refuse_answerLink job (by decide)
  · rename_i executed
    split
    · exact refuse_answerLink job (by decide)
    · rename_i missed
      exact .check job control ⟨executed, missed⟩

theorem move_linkLookup (job : LinkJob) (control : state.worker.control = .linkLookup job) :
    LinkMove state input (linkLookup state job input.link) := by
  unfold linkLookup
  split
  · exact refuse_answerLink job (by decide)
  · split
    · exact refuse_answerLink job (by decide)
    · exact refuse_answerLink job (by decide)
    · exact .find job control
    · exact .find job control

theorem move_linkComplete (job : LinkJob) (control : state.worker.control = .linkComplete job) :
    LinkMove state input (linkComplete state job input.link) := by
  unfold linkComplete
  split
  · exact refuse_answerLink job (by decide)
  · rename_i noFault
    have succeeds : input.link = .none := Decidable.not_not.mp noFault
    dsimp only
    split
    · rename_i unaffected
      have nothing := List.eq_nil_of_length_eq_zero unaffected
      exact .refuse job linkInvalidCode (by decide) rfl
        (Database.complete_nothing nothing) (answers_answerLink job _)
    · rename_i affected
      have held : state.database.codeRows job.connectCode ≠ [] := by
        intro nothing
        exact affected (by rw [nothing]; rfl)
      exact .complete job control succeeds held rfl rfl (answers_answerLink job linkSuccess)

end Pieces

theorem step_linkMove (config : Config) (state : DbState) (input : WorkerInput) :
    LinkMove state input (step config state input) := by
  cases here : state.worker.control with
  | linkConflict job =>
      simp only [step, here]
      exact move_linkConflict job here
  | linkLookup job =>
      simp only [step, here]
      exact move_linkLookup job here
  | linkComplete job =>
      simp only [step, here]
      exact move_linkComplete job here
  | drainLinks =>
      simp only [step, here]
      split
      · exact .aside ⟨rfl, rfl, rfl⟩
      · split
        · exact .aside ⟨rfl, rfl, rfl⟩
        · rename_i job linkJobs popped
          unfold beginLink
          split
          · exact .refuse job _ (by decide) rfl rfl (answers_answerLink job _)
          · exact .aside ⟨rfl, rfl, rfl⟩
  | _ =>
      have idle : state.worker.control.linkJob = none := by rw [here]; rfl
      exact .aside (step_elsewhere config input idle (by simp [here])).aside

end DbWorker

end PalCrosschat
