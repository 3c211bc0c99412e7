import PalCrosschat.LinkNetwork

/-! # Connect codes are single-use

A code is held by at most one row until the UPDATE of one job takes it away, and
that job alone is answered with success. The codes that are held and those that
were used never meet again. -/

namespace PalCrosschat

open Bytes (ascii)

theorem modify_split {α : Type} (items : List α) (position : Nat) (change : α → α) :
    items.modify position change = items ∨
      ∃ front item rear, items = front ++ item :: rear ∧
        items.modify position change = front ++ change item :: rear := by
  by_cases inside : position < items.length
  · right
    refine ⟨items.take position, items[position], items.drop (position + 1), ?_, ?_⟩
    · rw [List.getElem_cons_drop, List.take_append_drop]
    · exact List.modify_eq_take_cons_drop inside
  · left
    exact List.modify_eq_self (Nat.le_of_not_lt inside)

namespace LinkTable

def spentCodes (table : LinkTable) : List Bytes :=
  (table.answers.filter LinkAnswer.succeeded).map fun answer => answer.job.connectCode

structure Sound (table : LinkTable) : Prop where
  single : (table.database.connectCodes ++ table.spentCodes).Nodup
  known : table.database.connectCodes ++ table.spentCodes ⊆ table.issued
  honest : ∀ answer ∈ table.answers, answer.wrote = answer.succeeded

section Sound

variable {table after : LinkTable}

theorem spentCodes_refused {answers : List LinkAnswer}
    (grown : after.answers = table.answers ++ answers)
    (refused : ∀ answer ∈ answers, answer.wrote = false ∧ answer.succeeded = false) :
    after.spentCodes = table.spentCodes := by
  have none : answers.filter LinkAnswer.succeeded = [] := by
    apply List.filter_eq_nil_iff.mpr
    intro answer member
    rw [(refused answer member).2]
    exact Bool.false_ne_true
  rw [spentCodes, grown, List.filter_append, none, List.append_nil, spentCodes]

theorem spentCodes_succeeded {job : LinkJob} {wrote : Bool}
    (grown : after.answers = table.answers ++ [{ job, notice := linkSuccess, wrote }]) :
    after.spentCodes = table.spentCodes ++ [job.connectCode] := by
  rw [spentCodes, grown, List.filter_append, List.map_append, spentCodes]
  simp [LinkAnswer.succeeded]

/-- Codes are only handed over, or given up. -/
theorem Sound.shrink (sound : table.Sound)
    (codes : (after.database.connectCodes ++ after.spentCodes).Subperm
      (table.database.connectCodes ++ table.spentCodes))
    (issued : after.issued = table.issued)
    (honest : ∀ answer ∈ after.answers, answer.wrote = answer.succeeded) : after.Sound where
  single := by
    rcases codes with ⟨kept, perm, sublist⟩
    exact perm.nodup_iff.mp (sublist.nodup sound.single)
  known := by
    rw [issued]
    exact fun code member => sound.known (codes.subset member)
  honest := honest

/-- The held codes are the same, and no job succeeded. -/
theorem Sound.keep (sound : table.Sound)
    (codes : after.database.connectCodes = table.database.connectCodes)
    (issued : after.issued = table.issued) {answers : List LinkAnswer}
    (grown : after.answers = table.answers ++ answers)
    (refused : ∀ answer ∈ answers, answer.wrote = false ∧ answer.succeeded = false) :
    after.Sound := by
  apply sound.shrink
  · rw [codes, spentCodes_refused grown refused]
  · exact issued
  · intro answer member
    rw [grown] at member
    rcases List.mem_append.mp member with old | new
    · exact sound.honest answer old
    · rw [(refused answer new).1, (refused answer new).2]

/-- The code of the row in the middle goes over to the used ones. -/
theorem Sound.complete (sound : table.Sound) {job : LinkJob}
    (held : table.database.codeRows job.connectCode ≠ [])
    (players : after.database.players = (table.database.complete job).players)
    (issued : after.issued = table.issued)
    (grown : after.answers = table.answers ++ [{ job, notice := linkSuccess, wrote := true }]) :
    after.Sound := by
  rcases Database.complete_split sound.single.of_append_left held with
    ⟨front, row, rear, split, holds, written⟩
  have before : table.database.connectCodes = front.filterMap PlayerRow.connectCode ++
      job.connectCode :: rear.filterMap PlayerRow.connectCode := by
    rw [Database.connectCodes, split, List.filterMap_append, List.filterMap_cons_some holds]
  have now : after.database.connectCodes = front.filterMap PlayerRow.connectCode ++
      rear.filterMap PlayerRow.connectCode := by
    rw [Database.connectCodes, players, written, List.filterMap_append,
      List.filterMap_cons_none rfl]
  apply sound.shrink
  · apply List.Perm.subperm
    rw [now, before, spentCodes_succeeded grown, ← List.append_assoc]
    refine (List.perm_append_singleton _ _).trans ?_
    rw [← List.cons_append]
    exact List.perm_middle.symm.append_right _
  · exact issued
  · intro answer member
    rw [grown] at member
    rcases List.mem_append.mp member with old | new
    · exact sound.honest answer old
    · rw [List.mem_singleton.mp new]
      rfl

theorem Sound.register (sound : table.Sound) (discordId : Option Bytes) :
    (table.register discordId).Sound := by
  apply sound.keep
  · change List.filterMap _ (table.database.players ++ [_]) = _
    rw [List.filterMap_append]
    exact List.append_nil _
  · rfl
  · exact (List.append_nil _).symm
  · exact nofun

theorem Sound.issue (sound : table.Sound) (position : Nat) (code : Bytes) :
    (table.issue position code).Sound := by
  unfold LinkTable.issue
  split
  · exact sound
  rename_i fresh
  have unused : code ∉ table.database.connectCodes ++ table.spentCodes :=
    fun taken => fresh (sound.known taken)
  have grown : table.issued ⊆ table.issued ++ [code] := List.subset_append_left _ _
  rcases modify_split table.database.players position fun row =>
    { row with connectCode := some code } with same | ⟨front, row, rear, split, changed⟩
  · rw [same]
    exact ⟨sound.single, fun other member => grown (sound.known member), sound.honest⟩
  · rw [changed]
    -- The row gives up the code it had.
    have kept : (front.filterMap PlayerRow.connectCode ++
        rear.filterMap PlayerRow.connectCode).Sublist table.database.connectCodes := by
      rw [Database.connectCodes, split, List.filterMap_append]
      exact List.Sublist.append_left ((List.sublist_cons_self row rear).filterMap _) _
    have codes : List.filterMap PlayerRow.connectCode
        (front ++ { row with connectCode := some code } :: rear) =
          front.filterMap PlayerRow.connectCode ++ code :: rear.filterMap PlayerRow.connectCode := by
      rw [List.filterMap_append]
      rfl
    have moved : (front.filterMap PlayerRow.connectCode ++
        code :: rear.filterMap PlayerRow.connectCode ++ table.spentCodes).Perm
          (code :: (front.filterMap PlayerRow.connectCode ++
            rear.filterMap PlayerRow.connectCode ++ table.spentCodes)) :=
      List.perm_middle.append_right _
    have shorter := List.Sublist.append_right kept table.spentCodes
    constructor
    · change (List.filterMap _ _ ++ table.spentCodes).Nodup
      rw [codes, moved.nodup_iff, List.nodup_cons]
      exact ⟨fun taken => unused (shorter.subset taken), shorter.nodup sound.single⟩
    · change List.filterMap _ _ ++ table.spentCodes ⊆ _
      rw [codes]
      intro other member
      rcases List.mem_cons.mp (moved.mem_iff.mp member) with rfl | old
      · exact List.mem_append_right _ (List.mem_singleton_self _)
      · exact grown (sound.known (shorter.subset old))
    · exact sound.honest

end Sound

/-! ## What a step writes -/

/-- A job was written to the row that held its code, and answered with success. -/
def Links (before after : LinkTable) (job : LinkJob) : Prop :=
  after.answers = before.answers ++ [{ job, notice := linkSuccess, wrote := true }] ∧
    ∃ front row rear, before.database.players = front ++ row :: rear ∧
      row.connectCode = some job.connectCode ∧
      after.database.players = front ++ job.write row :: rear

/-- Nothing was written, and no job was answered with success. -/
def Refuses (before after : LinkTable) : Prop :=
  after.database.players = before.database.players ∧
    ∃ answers, after.answers = before.answers ++ answers ∧
      ∀ answer ∈ answers, answer.wrote = false ∧ answer.succeeded = false

end LinkTable

namespace LinkNetwork

section Runs

variable {count : Nat} {config : Fin count → Config} {network : LinkNetwork count}

def Settled (server : LinkServer) (_ : LinkTable) : Prop := server.wrote = false

theorem players_remote (database : Database) (action : RemoteAction) :
    (database.remote action).players = database.players := by
  cases action <;> rfl

theorem sound_step (sound : network.shared.Sound) (settled : network.Each Settled)
    (input : LinkInput count) :
    (network.step config input).shared.Sound ∧ (network.step config input).Each Settled := by
  cases input with
  | worker server input =>
      rcases LinkServer.step_tableMove (config server) network.shared input (settled server)
        with ⟨nothing, move⟩
      refine ⟨?_, settled.act nothing fun _ _ kept => kept⟩
      cases move with
      | keep answers grown refused players checked =>
          exact sound.keep (congrArg (List.filterMap PlayerRow.connectCode) players) rfl grown
            refused
      | complete job control succeeds held grown players free =>
          exact sound.complete held players rfl grown
  | game server outbound inbound linkJobs linkResults =>
      exact ⟨sound, settled.act (settled server) fun _ _ kept => kept⟩
  | remote action =>
      refine ⟨?_, settled.share fun _ kept => kept⟩
      exact sound.keep
        (congrArg (List.filterMap PlayerRow.connectCode) (players_remote _ action)) rfl
        (List.append_nil _).symm nofun
  | registered discordId =>
      exact ⟨sound.register discordId, settled.share fun _ kept => kept⟩
  | codeIssued position code =>
      exact ⟨sound.issue position code, settled.share fun _ kept => kept⟩

variable {startedAt : Fin count → Nanoseconds} {players : List PlayerRow}

theorem sound_run (unique : ({ players } : Database).connectCodes.Nodup)
    (inputs : List (LinkInput count)) :
    (run config startedAt players inputs).shared.Sound ∧
      (run config startedAt players inputs).Each Settled := by
  apply Execution.run_invariant (fun network : LinkNetwork count =>
    network.shared.Sound ∧ network.Each Settled)
  · intro network input holds
    exact sound_step holds.1 holds.2 input
  · refine ⟨⟨?_, ?_, nofun⟩, fun _ => rfl⟩
    · rw [show (initial startedAt players).shared.spentCodes = [] from rfl, List.append_nil]
      exact unique
    · rw [show (initial startedAt players).shared.spentCodes = [] from rfl, List.append_nil]
      exact List.Subset.refl _

theorem step_links_or_refuses (sound : network.shared.Sound) (settled : network.Each Settled)
    (server : Fin count) (input : WorkerInput) :
    (∃ job, network.shared.Links (network.step config (.worker server input)).shared job) ∨
      network.shared.Refuses (network.step config (.worker server input)).shared := by
  rcases LinkServer.step_tableMove (config server) network.shared input (settled server)
    with ⟨-, move⟩
  cases move with
  | keep answers grown refused players checked => exact .inr ⟨players, answers, grown, refused⟩
  | complete job control succeeds held grown players free =>
      rcases Database.complete_split sound.single.of_append_left held with
        ⟨front, row, rear, split, holds, written⟩
      exact .inl ⟨job, grown, front, row, rear, split, holds, players.trans written⟩

end Runs

/-- On any number of servers at most one job for a code is answered with success; the
jobs answered so are those that have written; and a step of a server either writes the
job it answers with success to the row that held its code, or it writes nothing. -/
theorem connectCode_singleUse {count : Nat} (config : Fin count → Config)
    (startedAt : Fin count → Nanoseconds) (players : List PlayerRow)
    (inputs : List (LinkInput count))
    (unique : ({ players } : Database).connectCodes.Nodup) :
    let network := run config startedAt players inputs
    (∀ code, (network.shared.answers.filter fun answer =>
      answer.succeeded && decide (answer.job.connectCode = code)).length ≤ 1) ∧
    (∀ answer ∈ network.shared.answers, answer.wrote = answer.succeeded) ∧
    ∀ server input,
      (∃ job, network.shared.Links (network.step config (.worker server input)).shared job) ∨
        network.shared.Refuses (network.step config (.worker server input)).shared := by
  rcases sound_run unique inputs with ⟨sound, settled⟩
  refine ⟨?_, sound.honest, step_links_or_refuses sound settled⟩
  intro code
  have once := List.nodup_iff_count_le_one.mp sound.single.of_append_right code
  rw [LinkTable.spentCodes, List.count_eq_countP, List.countP_map, List.countP_filter] at once
  rw [← List.countP_eq_length_filter]
  refine Nat.le_trans (Nat.le_of_eq (List.countP_congr ?_)) once
  intro answer member
  simp [and_comm]

def plainServers (count : Nat) : Fin count → Config := fun _ => plainConfig

def asks {count : Nat} (server : Fin count) (job : LinkJob) : LinkInput count :=
  .game server .empty .empty (BoundedQueue.empty.push job) .empty

def works {count : Nat} (server : Fin count) (steps : Nat) : List (LinkInput count) :=
  List.replicate steps (.worker server {})

def codeRow (discordId code : Bytes) : PlayerRow where
  discordId := some discordId
  connectCode := some code

def annJob (code : Bytes) : LinkJob where
  connectCode := code
  platform := ascii "steam"
  userId := ascii "1"
  platformUserId := ascii "steam_1"
  playerName := ascii "Ann"

def bobJob (code : Bytes) : LinkJob where
  connectCode := code
  platform := ascii "steam"
  userId := ascii "2"
  platformUserId := ascii "steam_2"
  playerName := ascii "Bob"

def atOnce (first second : LinkJob) : List (LinkInput 2) :=
  [asks 0 first, asks 1 second] ++ works 0 6 ++ works 1 6 ++ works 0 1 ++ works 1 1

def inTurn (first second : LinkJob) : List (LinkInput 2) :=
  [asks 0 first] ++ works 0 7 ++ [asks 1 second] ++ works 1 7

theorem connectCode_singleUse_raced :
    let players := [codeRow (ascii "42") (ascii "abc")]
    let network := run (plainServers 2) (fun _ => 0) players
      (atOnce (annJob (ascii "abc")) (bobJob (ascii "abc")))
    network.shared.answers.map LinkAnswer.succeeded = [true, false] ∧
      ({ players } : Database).connectCodes.Nodup ∧
      ∀ answer ∈ network.shared.answers, answer.wrote = answer.succeeded :=
  ⟨by decide +kernel, by decide, (connectCode_singleUse (plainServers 2) (fun _ => 0)
    [codeRow (ascii "42") (ascii "abc")] (atOnce (annJob (ascii "abc")) (bobJob (ascii "abc")))
    (by decide)).2.1⟩

end LinkNetwork

end PalCrosschat
