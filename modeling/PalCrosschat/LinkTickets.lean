import PalCrosschat.Callbacks
import PalCrosschat.Foundation.ReturnAddress
import PalCrosschat.LinkSteps

/-! # Link jobs and their requesters

A link job does not carry its requester. Here every job keeps a ticket that does: it
waits with the job, is at work with it, and lies beside the result until `on_update`
pops that. -/

namespace PalCrosschat

/-- A job, and the client `ProcessSetDiscord` queued it for. -/
structure LinkTicket where
  job : LinkJob
  client : LinkClient
deriving DecidableEq, Repr

def LinkTicket.account (ticket : LinkTicket) : Bytes := ticket.job.platformUserId

/-- The player had a `PlayerUId`, so the answer goes into the chat. -/
def LinkTicket.HasUid (ticket : LinkTicket) : Prop := ticket.client.playerUid ≠ .nil

instance (ticket : LinkTicket) : Decidable ticket.HasUid := inferInstanceAs (Decidable (_ ≠ _))

/-! ## The tickets -/

structure LinkDesk where
  /-- Beside `m_link_jobs`. -/
  waiting : BoundedDeque kQueueMax LinkTicket := .empty
  /-- Beside the job of the database thread. -/
  atWork : Option LinkTicket := none
  /-- Beside `m_link_results`. -/
  answered : BoundedDeque kQueueMax LinkTicket := .empty

namespace LinkDesk

def outstanding (desk : LinkDesk) : List LinkTicket :=
  desk.answered.items ++ desk.atWork.toList ++ desk.waiting.items

def request (desk : LinkDesk) (ticket : LinkTicket) : LinkDesk :=
  { desk with waiting := desk.waiting.push ticket }

def Free (desk : LinkDesk) (ticket : LinkTicket) : Prop :=
  ∀ other ∈ desk.outstanding, Apart LinkTicket.account LinkTicket.HasUid other ticket

instance (desk : LinkDesk) (ticket : LinkTicket) : Decidable (desk.Free ticket) :=
  inferInstanceAs (Decidable (∀ other ∈ desk.outstanding,
    other.account = ticket.account → ¬other.HasUid ∧ ¬ticket.HasUid))

def take (desk : LinkDesk) : LinkDesk :=
  match desk.waiting.items with
  | [] => desk
  | ticket :: _ => { desk with waiting := desk.waiting.pop, atWork := some ticket }

def finish (desk : LinkDesk) : LinkDesk :=
  match desk.atWork with
  | none => desk
  | some ticket => { desk with atWork := none, answered := desk.answered.push ticket }

/-- A step of the database thread: it may pop a job, and it has answered its job when it
is no longer at one. -/
def follow (desk : LinkDesk) (state : DbState) (input : WorkerInput) (after : DbState) :
    LinkDesk :=
  let desk :=
    if state.worker.control = .drainLinks ∧ input.stopRequested = false then desk.take
    else desk
  if after.worker.control.linkJob = none then desk.finish else desk

/-- `on_update` has popped all results. -/
def deliver (desk : LinkDesk) : LinkDesk := { desk with answered := .empty }

variable {desk : LinkDesk}

theorem outstanding_request (ticket : LinkTicket) :
    (desk.request ticket).outstanding.Sublist (desk.outstanding ++ [ticket]) := by
  unfold outstanding request
  rw [BoundedDeque.push_items, List.append_assoc _ desk.waiting.items]
  apply List.Sublist.append_left
  exact List.Sublist.append_right desk.waiting.survivors_suffix.sublist _

theorem outstanding_take : desk.take.outstanding.Sublist desk.outstanding := by
  unfold take
  split
  · exact List.Sublist.refl _
  · rename_i ticket rest waiting
    unfold outstanding
    rw [BoundedDeque.pop_items, waiting, List.append_assoc, List.append_assoc]
    apply List.Sublist.append_left
    exact List.sublist_append_right _ _

theorem outstanding_finish : desk.finish.outstanding.Sublist desk.outstanding := by
  unfold finish
  split
  · exact List.Sublist.refl _
  · rename_i ticket atWork
    unfold outstanding
    rw [BoundedDeque.push_items, atWork, Option.toList_none, List.append_nil]
    apply List.Sublist.append_right
    exact List.Sublist.append_right desk.answered.survivors_suffix.sublist _

end LinkDesk

/-! ## The database thread -/

namespace DbWorker

structure LinkDone (state : DbState) (job : LinkJob) (after : DbState) : Prop where
  control : after.worker.control = .drainLinks
  linkJobs : after.linkJobs = state.linkJobs
  linkResults : ∃ notice, notice ≠ [] ∧
    after.linkResults = state.linkResults.push { notice, platformUserId := job.platformUserId }

theorem LinkDone.free {state after : DbState} {job : LinkJob} (done : LinkDone state job after) :
    after.worker.control.linkJob = none := by
  rw [done.control]
  rfl

inductive LinkFlow (state : DbState) (input : WorkerInput) : DbState → Prop
  | aside {after : DbState} (idle : state.worker.control.linkJob = none)
      (elsewhere : Elsewhere state after)
      (empty : state.worker.control = .drainLinks → input.stopRequested = false →
        state.linkJobs.items = []) : LinkFlow state input after
  | take (job : LinkJob) (control : state.worker.control = .drainLinks)
      (running : input.stopRequested = false) (popped : state.linkJobs.tryPop.1 = some job) :
      LinkFlow state input
        (goTo { state with linkJobs := state.linkJobs.tryPop.2 } (.linkConflict job))
  | refuse {after : DbState} (job : LinkJob) (control : state.worker.control = .drainLinks)
      (running : input.stopRequested = false) (popped : state.linkJobs.tryPop.1 = some job)
      (done : LinkDone { state with linkJobs := state.linkJobs.tryPop.2 } job after) :
      LinkFlow state input after
  | work {after : DbState} (job : LinkJob) (before : state.worker.control.linkJob = some job)
      (still : after.worker.control.linkJob = some job)
      (linkJobs : after.linkJobs = state.linkJobs)
      (linkResults : after.linkResults = state.linkResults) : LinkFlow state input after
  | answer {after : DbState} (job : LinkJob) (before : state.worker.control.linkJob = some job)
      (done : LinkDone state job after) : LinkFlow state input after

section Pieces

variable {state : DbState} {input : WorkerInput}

theorem linkDone_answerLink (job : LinkJob) {notice : Bytes} (told : notice ≠ []) :
    LinkDone state job (answerLink state job notice) :=
  ⟨rfl, rfl, notice, told, rfl⟩

theorem linkFlow_linkConflict (job : LinkJob) (before : state.worker.control.linkJob = some job) :
    LinkFlow state input (linkConflict state job input.link) := by
  unfold linkConflict
  split
  · exact .answer job before (linkDone_answerLink job (by decide))
  · split
    · exact .answer job before (linkDone_answerLink job (by decide))
    · exact .work job before rfl rfl rfl

theorem linkFlow_linkLookup (job : LinkJob) (before : state.worker.control.linkJob = some job) :
    LinkFlow state input (linkLookup state job input.link) := by
  unfold linkLookup
  split
  · exact .answer job before (linkDone_answerLink job (by decide))
  · split
    · exact .answer job before (linkDone_answerLink job (by decide))
    · exact .answer job before (linkDone_answerLink job (by decide))
    · exact .work job before rfl rfl rfl
    · exact .work job before rfl rfl rfl

theorem linkFlow_linkComplete (job : LinkJob) (before : state.worker.control.linkJob = some job) :
    LinkFlow state input (linkComplete state job input.link) := by
  unfold linkComplete
  split
  · exact .answer job before (linkDone_answerLink job (by decide))
  · dsimp only
    split
    · exact .answer job before ⟨rfl, rfl, linkInvalidCode, by decide, rfl⟩
    · exact .answer job before ⟨rfl, rfl, linkSuccess, by decide, rfl⟩

theorem linkFlow_drainLinks (config : Config) (control : state.worker.control = .drainLinks) :
    LinkFlow state input (step config state input) := by
  have idle : state.worker.control.linkJob = none := by
    rw [control]
    rfl
  simp only [step, control]
  split
  · rename_i stopping
    apply LinkFlow.aside idle
    · exact ⟨rfl, rfl, rfl, rfl, rfl⟩
    · intro here running
      rw [stopping] at running
      cases running
  · rename_i running
    have running : input.stopRequested = false := by simpa using running
    split
    · rename_i queue nothing
      apply LinkFlow.aside idle
      · exact ⟨rfl, rfl, rfl, rfl, rfl⟩
      · intro here still
        unfold BoundedQueue.tryPop at nothing
        split at nothing
        · assumption
        · cases nothing
    · rename_i job linkJobs popped
      have front : state.linkJobs.tryPop.1 = some job := by rw [popped]
      have left : linkJobs = state.linkJobs.tryPop.2 := by rw [popped]
      subst left
      unfold beginLink
      split
      · exact .refuse job control running front (linkDone_answerLink job (by decide))
      · exact .take job control running front

end Pieces

theorem step_linkFlow (config : Config) (state : DbState) (input : WorkerInput) :
    LinkFlow state input (step config state input) := by
  cases here : state.worker.control with
  | drainLinks => exact linkFlow_drainLinks config here
  | linkConflict job =>
      simp only [step, here]
      exact linkFlow_linkConflict job (by rw [here]; rfl)
  | linkLookup job =>
      simp only [step, here]
      exact linkFlow_linkLookup job (by rw [here]; rfl)
  | linkComplete job =>
      simp only [step, here]
      exact linkFlow_linkComplete job (by rw [here]; rfl)
  | _ =>
      have idle : state.worker.control.linkJob = none := by rw [here]; rfl
      have away : state.worker.control ≠ .drainLinks := by simp [here]
      exact .aside idle (step_elsewhere config input idle away) fun draining =>
        absurd draining away

end DbWorker

/-! ## The tickets lie beside the jobs -/

namespace LinkDesk

structure Beside (desk : LinkDesk) (linkJobs : LinkQueue) (atWork : Option LinkJob)
    (linkResults : LinkResultQueue) : Prop where
  waiting : desk.waiting.items.map LinkTicket.job = linkJobs.items
  atWork : desk.atWork.map LinkTicket.job = atWork
  answered : desk.answered.items.map LinkTicket.account =
    linkResults.items.map LinkResult.platformUserId
  told : ∀ result ∈ linkResults.items, result.notice ≠ []

namespace Beside

variable {desk : LinkDesk} {linkJobs : LinkQueue} {atWork : Option LinkJob}
  {linkResults : LinkResultQueue}

theorem empty : Beside {} .empty none .empty := ⟨rfl, rfl, rfl, nofun⟩

theorem request (beside : Beside desk linkJobs atWork linkResults) (ticket : LinkTicket) :
    Beside (desk.request ticket) (linkJobs.push ticket.job) atWork linkResults where
  waiting := by
    have pushed : (desk.waiting.push ticket).items.map LinkTicket.job =
        (linkJobs.deque.push ticket.job).items.map id :=
      BoundedDeque.map_push (beside.waiting.trans (List.map_id _).symm) rfl
    exact pushed.trans (List.map_id _)
  atWork := beside.atWork
  answered := beside.answered
  told := beside.told

theorem take {job : LinkJob} (beside : Beside desk linkJobs none linkResults)
    (popped : linkJobs.tryPop.1 = some job) :
    Beside desk.take linkJobs.tryPop.2 (some job) linkResults := by
  rcases BoundedQueue.tryPop_some popped with ⟨rest, queued, left⟩
  have tickets := beside.waiting
  rw [BoundedQueue.items, queued] at tickets
  rcases List.map_eq_cons_iff.mp tickets with ⟨ticket, tail, waiting, same, others⟩
  unfold LinkDesk.take
  rw [waiting, left]
  refine ⟨?_, congrArg some same, beside.answered, beside.told⟩
  simp [BoundedQueue.items, waiting, queued, others]

theorem finish {job : LinkJob} {notice : Bytes}
    (beside : Beside desk linkJobs (some job) linkResults) (told : notice ≠ []) :
    Beside desk.finish linkJobs none
      (linkResults.push { notice, platformUserId := job.platformUserId }) := by
  rcases Option.map_eq_some_iff.mp beside.atWork with ⟨ticket, atWork, same⟩
  unfold LinkDesk.finish
  rw [atWork]
  refine ⟨beside.waiting, rfl, ?_, ?_⟩
  · apply BoundedDeque.map_push beside.answered
    exact congrArg LinkJob.platformUserId same
  · intro result member
    rcases BoundedQueue.mem_push member with old | new
    · exact beside.told result old
    · rw [new]
      exact told

theorem take_of_empty (empty : desk.waiting.items = []) : desk.take = desk := by
  unfold LinkDesk.take
  rw [empty]

theorem finish_of_free (free : desk.atWork = none) : desk.finish = desk := by
  unfold LinkDesk.finish
  rw [free]

end Beside

theorem still_of_busy {desk : LinkDesk} {state : DbState} {input : WorkerInput} {job : LinkJob}
    (busy : state.worker.control.linkJob = some job) :
    (if state.worker.control = .drainLinks ∧ input.stopRequested = false then desk.take
      else desk) = desk := by
  apply if_neg
  intro here
  rw [here.1] at busy
  cases busy

theorem outstanding_follow {desk : LinkDesk} (state : DbState) (input : WorkerInput)
    (after : DbState) : (desk.follow state input after).outstanding.Sublist desk.outstanding := by
  unfold follow
  split
  · split
    · exact outstanding_finish.trans outstanding_take
    · exact outstanding_take
  · split
    · exact outstanding_finish
    · exact List.Sublist.refl _

/-- The tickets follow the database thread. -/
theorem Beside.follow {desk : LinkDesk} {state : DbState} {input : WorkerInput}
    {after : DbState} (flow : DbWorker.LinkFlow state input after)
    (beside : Beside desk state.linkJobs state.worker.control.linkJob state.linkResults) :
    Beside (desk.follow state input after) after.linkJobs after.worker.control.linkJob
      after.linkResults := by
  unfold LinkDesk.follow
  cases flow with
  | aside idle elsewhere empty =>
      have free : desk.atWork = none := by
        have nothing := beside.atWork
        rw [idle] at nothing
        exact Option.map_eq_none_iff.mp nothing
      have still : (if state.worker.control = .drainLinks ∧ input.stopRequested = false then
          desk.take else desk) = desk := by
        split
        · rename_i here
          apply take_of_empty
          have none := beside.waiting
          rw [empty here.1 here.2] at none
          exact List.map_eq_nil_iff.mp none
        · rfl
      rw [still, if_pos elsewhere.free, finish_of_free free, elsewhere.linkJobs,
        elsewhere.linkResults, elsewhere.free, ← idle]
      exact beside
  | take job control running popped =>
      have begun : (if state.worker.control = .drainLinks ∧ input.stopRequested = false then
          desk.take else desk) = desk.take := if_pos ⟨control, running⟩
      rw [control] at beside
      rw [begun, if_neg nofun]
      exact beside.take popped
  | refuse job control running popped done =>
      rcases done.linkResults with ⟨notice, told, results⟩
      have begun : (if state.worker.control = .drainLinks ∧ input.stopRequested = false then
          desk.take else desk) = desk.take := if_pos ⟨control, running⟩
      rw [control] at beside
      rw [begun, if_pos done.free, done.free, results, done.linkJobs]
      exact (beside.take popped).finish told
  | work job before still linkJobs linkResults =>
      rw [still_of_busy before, if_neg (by rw [still]; nofun), still, linkJobs, linkResults,
        ← before]
      exact beside
  | answer job before done =>
      rcases done.linkResults with ⟨notice, told, results⟩
      rw [before] at beside
      rw [still_of_busy before, if_pos done.free, done.free, results, done.linkJobs]
      exact beside.finish told

end LinkDesk

end PalCrosschat
