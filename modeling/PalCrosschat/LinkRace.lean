import PalCrosschat.ConnectCodes

/-! # One link for an account

A job links an account after a SELECT that found no link of it. Between the two
another server may link the same account by another code. Without such an overlap,
and with a SELECT that shows what it finds, an account is linked once. -/

namespace PalCrosschat

open Bytes (ascii)

def PlayerRow.links (platformUserId : Bytes) (row : PlayerRow) : Bool :=
  row.platformUserId = some platformUserId && row.userId.any (· ≠ [])

def Control.conflictJob : Control → Option LinkJob
  | .linkConflict job => some job
  | _ => none

def Control.completeJob : Control → Option LinkJob
  | .linkComplete job => some job
  | _ => none

/-- No account is linked twice. -/
def Database.OneLink (database : Database) : Prop :=
  ∀ platformUserId, (database.linkedRows platformUserId).length ≤ 1

def Database.NoNewLinks (before after : Database) : Prop :=
  ∀ platformUserId,
    (after.linkedRows platformUserId).length ≤ (before.linkedRows platformUserId).length

namespace Database

variable {database after : Database} {job : LinkJob} {platformUserId : Bytes}

theorem linkedRows_eq : database.linkedRows platformUserId =
    database.players.filter (PlayerRow.links platformUserId) := rfl

theorem OneLink.mono (oneLink : database.OneLink) (quiet : database.NoNewLinks after) :
    after.OneLink :=
  fun platformUserId => Nat.le_trans (quiet platformUserId) (oneLink platformUserId)

theorem NoNewLinks.of_players (players : after.players = database.players) :
    database.NoNewLinks after := by
  intro platformUserId
  rw [linkedRows_eq, linkedRows_eq, players]

theorem NoNewLinks.unlinked (quiet : database.NoNewLinks after)
    (unlinked : database.linkedRows platformUserId = []) :
    after.linkedRows platformUserId = [] := by
  have fewer := quiet platformUserId
  rw [unlinked] at fewer
  exact List.eq_nil_of_length_eq_zero (Nat.le_zero.mp fewer)

/-- The row a job was written to links the account of the job, if its UserId says
something. -/
theorem links_write (row : PlayerRow) :
    (job.write row).links platformUserId = true ↔
      job.platformUserId = platformUserId ∧ job.userId ≠ [] := by
  simp [PlayerRow.links, LinkJob.write]

/-- The other rows link what they linked before. -/
theorem linkedRows_complete {front rear : List PlayerRow} {row : PlayerRow}
    (split : database.players = front ++ row :: rear)
    (written : after.players = front ++ job.write row :: rear)
    (apart : ¬(job.platformUserId = platformUserId ∧ job.userId ≠ [])) :
    (after.linkedRows platformUserId).Sublist (database.linkedRows platformUserId) := by
  rw [linkedRows_eq, linkedRows_eq, split, written, List.filter_append, List.filter_append,
    List.filter_cons_of_neg (apart ∘ (links_write row).mp)]
  exact List.Sublist.append_left ((List.sublist_cons_self row rear).filter _) _

theorem length_linkedRows_complete {front rear : List PlayerRow} {row : PlayerRow}
    (split : database.players = front ++ row :: rear)
    (written : after.players = front ++ job.write row :: rear)
    (unlinked : database.linkedRows platformUserId = []) :
    (after.linkedRows platformUserId).length ≤ 1 := by
  rw [linkedRows_eq, split, List.filter_append, List.append_eq_nil_iff] at unlinked
  have rearUnlinked : rear.filter (PlayerRow.links platformUserId) = [] :=
    List.sublist_nil.mp (unlinked.2 ▸ (List.sublist_cons_self row rear).filter _)
  rw [linkedRows_eq, written, List.filter_append, unlinked.1, List.nil_append]
  cases linked : (job.write row).links platformUserId with
  | true => rw [List.filter_cons_of_pos linked, rearUnlinked]; rfl
  | false =>
      rw [List.filter_cons_of_neg (by simp [linked]), rearUnlinked]
      exact Nat.zero_le 1

end Database

namespace LinkNetwork

section Conditions

variable {count : Nat}

/-- The conflict SELECT shows the row it finds: the result can be bound, stored and
fetched, and the DiscordId fits the buffer. -/
def ReadsCleanly (database : Database) (job : LinkJob) (fault : LinkFault) : Prop :=
  ∀ row ∈ (database.linkedRows job.platformUserId).head?,
    fault ≠ .bindOrStore ∧ fault ≠ .fetch ∧ ∀ text ∈ row.discordId, text.length < 64

instance (database : Database) (job : LinkJob) (fault : LinkFault) :
    Decidable (ReadsCleanly database job fault) :=
  inferInstanceAs (Decidable (∀ _ ∈ _, _ ∧ _ ∧ ∀ _ ∈ _, _))

def Rivals (job other : LinkJob) : Prop :=
  other.platformUserId = job.platformUserId ∧ other.connectCode ≠ job.connectCode ∧
    other.userId ≠ []

instance (job other : LinkJob) : Decidable (Rivals job other) :=
  inferInstanceAs (Decidable (_ ∧ _ ∧ _))

def workerStep : LinkInput count → Option (Fin count × WorkerInput)
  | .worker server input => some (server, input)
  | _ => none

/-- A conflict SELECT reads cleanly, and a completing UPDATE that links an account meets
no rival past its own conflict SELECT. -/
def Calm (network : LinkNetwork count) (input : LinkInput count) : Prop :=
  ∀ taken ∈ workerStep input,
    (∀ job ∈ (network.parties taken.1).state.worker.control.conflictJob, job.userId ≠ [] →
      ReadsCleanly network.shared.database job taken.2.link) ∧
    ∀ job ∈ (network.parties taken.1).state.worker.control.completeJob, job.userId ≠ [] →
      taken.2.link = .none → network.shared.database.codeRows job.connectCode ≠ [] →
      ∀ other, other ≠ taken.1 →
        ∀ rival ∈ (network.parties other).state.worker.control.checkedJob, ¬Rivals job rival

instance (network : LinkNetwork count) (input : LinkInput count) :
    Decidable (Calm network input) :=
  inferInstanceAs (Decidable (∀ _ ∈ _, (∀ _ ∈ _, _ → ReadsCleanly _ _ _) ∧
    ∀ _ ∈ _, _ → _ → _ → ∀ _, _ → ∀ _ ∈ _, ¬Rivals _ _))

end Conditions

/-- What a server past its conflict SELECT relies on: its account is not linked, or its
code will not do. -/
def Unlinked (server : LinkServer) (table : LinkTable) : Prop :=
  ∀ job ∈ server.state.worker.control.checkedJob, job.userId ≠ [] →
    table.database.linkedRows job.platformUserId = [] ∨ job.connectCode ∈ table.spentCodes

theorem unlinked_of_missed {database : Database} {job : LinkJob} {fault : LinkFault}
    {state : DbState} (shared : state.database = database)
    (clean : ReadsCleanly database job fault) (missed : DbWorker.ConflictMissed state job fault) :
    database.linkedRows job.platformUserId = [] := by
  cases linked : database.linkedRows job.platformUserId with
  | nil => rfl
  | cons row rest =>
      have seen := clean row (by rw [linked]; rfl)
      have short : row.discordId.any (fun text => decide (64 ≤ text.length)) = false := by
        cases stored : row.discordId with
        | none => rfl
        | some text => simpa using seen.2.2 text stored
      apply absurd _ missed.2
      refine ⟨seen.1, ?_⟩
      rw [shared, linked]
      simp [DbWorker.fetchDiscordId, seen.2.1, short]

section Tables

variable {table : LinkTable}

theorem noNewLinks_register (discordId : Option Bytes) :
    table.database.NoNewLinks (table.register discordId).database := by
  intro platformUserId
  rw [Database.linkedRows_eq, Database.linkedRows_eq, LinkTable.register, List.filter_append]
  exact Nat.le_of_eq (congrArg List.length (List.append_nil _))

theorem noNewLinks_issue (position : Nat) (code : Bytes) :
    table.database.NoNewLinks (table.issue position code).database := by
  intro platformUserId
  unfold LinkTable.issue
  split
  · exact Nat.le_refl _
  · rw [Database.linkedRows_eq, Database.linkedRows_eq]
    dsimp only
    rcases modify_split table.database.players position fun row =>
      { row with connectCode := some code } with same | ⟨front, row, rear, split, changed⟩
    · rw [same]
    · rw [changed, split]
      simp only [← List.countP_eq_length_filter, List.countP_append, List.countP_cons]
      exact Nat.le_refl _

theorem spentCodes_grow {after : LinkTable} {answers : List LinkAnswer}
    (grown : after.answers = table.answers ++ answers) :
    table.spentCodes ⊆ after.spentCodes := by
  rw [LinkTable.spentCodes, LinkTable.spentCodes, grown, List.filter_append, List.map_append]
  exact List.subset_append_left _ _

theorem spentCodes_issue (position : Nat) (code : Bytes) :
    table.spentCodes ⊆ (table.issue position code).spentCodes := by
  unfold LinkTable.issue
  split
  · exact List.Subset.refl _
  · exact List.Subset.refl _

end Tables

section Steps

variable {count : Nat} {config : Fin count → Config} {network : LinkNetwork count}

theorem Unlinked.mono {server : LinkServer} {table after : LinkTable}
    (unlinked : Unlinked server table) (quiet : table.database.NoNewLinks after.database)
    (spent : table.spentCodes ⊆ after.spentCodes) : Unlinked server after := by
  intro job checked linking
  rcases unlinked job checked linking with none | used
  · exact .inl (quiet.unlinked none)
  · exact .inr (spent used)

/-- The UPDATE of another server breaks it for a rival only. -/
theorem Unlinked.complete {server : LinkServer} {table after : LinkTable} {job : LinkJob}
    (unlinked : Unlinked server table) (sound : table.Sound)
    (held : table.database.codeRows job.connectCode ≠ [])
    (players : after.database.players = (table.database.complete job).players)
    (grown : after.answers = table.answers ++ [{ job, notice := linkSuccess, wrote := true }])
    (calm : job.userId ≠ [] →
      ∀ rival ∈ server.state.worker.control.checkedJob, ¬Rivals job rival) :
    Unlinked server after := by
  intro rival checked linking
  rw [LinkTable.spentCodes_succeeded grown]
  rcases unlinked rival checked linking with none | used
  · rcases Database.complete_split sound.single.of_append_left held with
      ⟨front, row, rear, split, -, written⟩
    by_cases same : job.platformUserId = rival.platformUserId ∧ job.userId ≠ []
    · -- It is no rival, so it has the code that was just used.
      right
      have equal : rival.connectCode = job.connectCode := by
        by_contra different
        exact calm same.2 rival checked ⟨same.1.symm, different, linking⟩
      rw [equal]
      exact List.mem_append_right _ (List.mem_singleton_self _)
    · left
      have kept := Database.linkedRows_complete split (players.trans written) same
      rw [none] at kept
      exact List.sublist_nil.mp kept
  · exact .inr (List.mem_append_left _ used)

theorem unlinked_step (sound : network.shared.Sound) (settled : network.Each Settled)
    (each : network.Each Unlinked) (input : LinkInput count) (calm : Calm network input) :
    (network.step config input).Each Unlinked := by
  cases input with
  | worker server input =>
      rcases calm _ rfl with ⟨clean, alone⟩
      rcases LinkServer.step_tableMove (config server) network.shared input (settled server)
        with ⟨-, move⟩
      cases move with
      | keep answers grown refused players checked =>
          have quiet := Database.NoNewLinks.of_players players
          have spent := spentCodes_grow grown
          apply each.act
          · intro job now linking
            rcases checked job now with before | ⟨control, missed⟩
            · exact (each server).mono quiet spent job before linking
            · left
              apply quiet.unlinked
              exact unlinked_of_missed rfl (clean job (by rw [control]; rfl) linking) missed
          · intro other apart unlinked
            exact unlinked.mono quiet spent
      | complete job control succeeds held grown players free =>
          apply each.act
          · intro other checked
            rw [free] at checked
            cases checked
          · intro other apart unlinked
            apply unlinked.complete sound held players grown
            intro linking
            exact alone job (by rw [control]; rfl) linking succeeds held other apart
  | game server outbound inbound linkJobs linkResults =>
      exact each.act (each server) fun _ _ kept => kept
  | remote action =>
      apply each.share
      intro server unlinked
      exact unlinked.mono (.of_players (players_remote _ action)) (List.Subset.refl _)
  | registered discordId =>
      apply each.share
      intro server unlinked
      exact unlinked.mono (noNewLinks_register discordId) (List.Subset.refl _)
  | codeIssued position code =>
      apply each.share
      intro server unlinked
      exact unlinked.mono (noNewLinks_issue position code) (spentCodes_issue position code)

theorem oneLink_step (sound : network.shared.Sound) (settled : network.Each Settled)
    (each : network.Each Unlinked) (oneLink : network.shared.database.OneLink)
    (input : LinkInput count) : (network.step config input).shared.database.OneLink := by
  cases input with
  | worker server input =>
      rcases LinkServer.step_tableMove (config server) network.shared input (settled server)
        with ⟨-, move⟩
      cases move with
      | keep answers grown refused players checked =>
          exact oneLink.mono (.of_players players)
      | complete job control succeeds held grown players free =>
          rcases Database.complete_split sound.single.of_append_left held with
            ⟨front, row, rear, split, holds, written⟩
          intro platformUserId
          by_cases same : job.platformUserId = platformUserId ∧ job.userId ≠ []
          · rcases each server job (by rw [control]; rfl) same.2 with none | used
            · rw [same.1] at none
              exact Database.length_linkedRows_complete split (players.trans written) none
            · -- A used code is held by nobody.
              have member : job.connectCode ∈ network.shared.database.connectCodes := by
                rw [Database.connectCodes, split]
                exact List.mem_filterMap.mpr ⟨row, List.mem_append_right _ List.mem_cons_self,
                  holds⟩
              exact absurd used ((List.disjoint_of_nodup_append sound.single) member)
          · have kept := Database.linkedRows_complete split (players.trans written) same
            exact Nat.le_trans kept.length_le (oneLink platformUserId)
  | game server outbound inbound linkJobs linkResults => exact oneLink
  | remote action => exact oneLink.mono (.of_players (players_remote _ action))
  | registered discordId => exact oneLink.mono (noNewLinks_register discordId)
  | codeIssued position code => exact oneLink.mono (noNewLinks_issue position code)

end Steps

/-- In a calm run of any number of servers no account gets linked twice. -/
theorem oneLink_run {count : Nat} (config : Fin count → Config)
    (startedAt : Fin count → Nanoseconds) (players : List PlayerRow)
    (inputs : List (LinkInput count))
    (unique : ({ players } : Database).connectCodes.Nodup)
    (oneLink : ({ players } : Database).OneLink)
    (calm : Execution.Along (step config) Calm (initial startedAt players) inputs) :
    (run config startedAt players inputs).shared.database.OneLink := by
  have relied := Execution.run_along_invariant
    (fun _ network => network.Each Unlinked ∧ network.shared.database.OneLink)
    ⟨fun _ => nofun, oneLink⟩
    (by
      intro past input allowed holds
      rcases sound_run unique past with ⟨sound, settled⟩
      exact ⟨unlinked_step sound settled holds.1 input allowed,
        oneLink_step sound settled holds.1 holds.2 input⟩)
    inputs calm
  exact relied.2

def twoCodes : List PlayerRow :=
  [codeRow (ascii "42") (ascii "abc"), codeRow (ascii "43") (ascii "xyz")]

theorem oneLink_twoCodes : ({ players := twoCodes } : Database).OneLink :=
  fun _ => Nat.zero_le 1

/-- Ann uses one code, and tries the other one later. -/
theorem oneLink_inTurn :
    let inputs := inTurn (annJob (ascii "abc")) (annJob (ascii "xyz"))
    let network := run (plainServers 2) (fun _ => 0) twoCodes inputs
    network.shared.answers.map LinkAnswer.succeeded = [true, false] ∧
      network.shared.database.OneLink :=
  ⟨by decide +kernel, oneLink_run (plainServers 2) (fun _ => 0) twoCodes
    (inTurn (annJob (ascii "abc")) (annJob (ascii "xyz"))) (by decide) oneLink_twoCodes
    (by decide +kernel)⟩

/-- Ann tries both at once. -/
theorem account_linked_twice :
    let inputs := atOnce (annJob (ascii "abc")) (annJob (ascii "xyz"))
    let network := run (plainServers 2) (fun _ => 0) twoCodes inputs
    ({ players := twoCodes } : Database).connectCodes.Nodup ∧
      ({ players := twoCodes } : Database).OneLink ∧
      network.shared.answers.map LinkAnswer.succeeded = [true, true] ∧
      ¬network.shared.database.OneLink := by
  refine ⟨by decide, oneLink_twoCodes, by decide +kernel, ?_⟩
  intro oneLink
  exact absurd (oneLink (ascii "steam_1")) (by decide +kernel)

end LinkNetwork

end PalCrosschat
