import Mathlib.Data.List.MinMax
import Mathlib.Data.List.Sort
import PalCrosschat.Foundation.Bytes

/-! # The shared database

The three tables of the database contract, as the statements of this mod and of
the other writers see them. A writer's INSERT takes its id when it starts and
becomes visible when it commits; rows are never deleted and ids are never
reused. Strings are compared exactly. -/

namespace PalCrosschat

open Bytes (ascii)

/-- A row of `crosschat_messages`; a column may hold NULL. -/
structure Row where
  id : Nat
  origin : Option Bytes
  senderName : Option Bytes
  senderId : Option Bytes
  guildName : Option Bytes
  message : Option Bytes
deriving DecidableEq, Repr

/-- A row of `crosschat_players`. -/
structure PlayerRow where
  discordId : Option Bytes := none
  platform : Option Bytes := none
  userId : Option Bytes := none
  platformUserId : Option Bytes := none
  playerName : Option Bytes := none
  connectCode : Option Bytes := none
deriving DecidableEq, Repr

structure Database where
  /-- The next AUTO_INCREMENT value. -/
  nextId : Nat := 1
  /-- Started inserts that have not committed. -/
  inFlight : List Row := []
  /-- The committed rows of `crosschat_messages`. -/
  messages : List Row := []
  /-- `crosschat_cursors`. -/
  cursors : Bytes → Option Nat := fun _ => none
  players : List PlayerRow := []

/-- What the other writers of `crosschat_messages` may do. -/
inductive RemoteAction
  /-- An INSERT starts; the id of the given row is overwritten. -/
  | begin (row : Row)
  | commit (id : Nat)
  | rollback (id : Nat)
deriving DecidableEq, Repr

namespace Database

/-- `SELECT COALESCE(MAX(id), 0) FROM crosschat_messages`. -/
def maxId (database : Database) : Nat :=
  (database.messages.map (·.id)).foldr max 0

/-- `origin != ?`; a NULL origin does not satisfy it. -/
def otherOrigin (serverOrigin : Bytes) (row : Row) : Bool :=
  row.origin.any fun origin => origin ≠ serverOrigin

def orderById (rows : List Row) : List Row :=
  rows.insertionSort fun left right => left.id ≤ right.id

/-- `SELECT … WHERE id > ? AND origin != ? ORDER BY id ASC LIMIT ?`. -/
def poll (database : Database) (cursor : Nat) (serverOrigin : Bytes) (limit : Nat) :
    List Row :=
  (orderById (database.messages.filter fun row =>
    cursor < row.id && otherOrigin serverOrigin row)).take limit

def insert (database : Database) (row : Row) : Database :=
  { database with
    nextId := database.nextId + 1
    messages := database.messages ++ [{ row with id := database.nextId }] }

def upsertCursor (database : Database) (consumer : Bytes) (lastId : Nat) : Database :=
  { database with
    cursors := fun key => if key = consumer then some lastId else database.cursors key }

def remote (database : Database) : RemoteAction → Database
  | .begin row =>
      { database with
        nextId := database.nextId + 1
        inFlight := database.inFlight ++ [{ row with id := database.nextId }] }
  | .commit id =>
      { database with
        inFlight := database.inFlight.filter (·.id ≠ id)
        messages := database.messages ++ database.inFlight.filter (·.id = id) }
  | .rollback id =>
      { database with inFlight := database.inFlight.filter (·.id ≠ id) }

/-! ## `crosschat_players` -/

/-- The conflict SELECT: linked rows of a platform account. -/
def linkedRows (database : Database) (platformUserId : Bytes) : List PlayerRow :=
  database.players.filter fun row =>
    row.platformUserId = some platformUserId && row.userId.any (· ≠ [])

def codeRows (database : Database) (connectCode : Bytes) : List PlayerRow :=
  database.players.filter fun row => row.connectCode = some connectCode

/-- The completing UPDATE. A matched row changes, since its code becomes NULL,
so the affected rows are the matched ones. -/
def completeLink (database : Database)
    (platform userId platformUserId playerName connectCode : Bytes) : Database :=
  { database with
    players := database.players.map fun row =>
      if row.connectCode = some connectCode then
        { row with
          platform := some platform
          userId := some userId
          platformUserId := some platformUserId
          playerName := some playerName
          connectCode := none }
      else row }

/-! ## What the statements guarantee -/

structure WellFormed (database : Database) : Prop where
  fresh : ∀ row ∈ database.messages ++ database.inFlight, row.id < database.nextId
  unique : ((database.messages ++ database.inFlight).map (·.id)).Nodup

section WellFormed

variable {database : Database}

theorem commit_perm (rows : List Row) (id : Nat) :
    ((rows.filter fun row => row.id = id) ++ (rows.filter fun row => row.id ≠ id)).Perm
      rows := by
  simpa using List.filter_append_perm (fun row : Row => decide (row.id = id)) rows

theorem WellFormed.assign (wellFormed : database.WellFormed) {after : Database} (row : Row)
    (id : row.id = database.nextId) (nextId : after.nextId = database.nextId + 1)
    (rows : (after.messages ++ after.inFlight).Perm
      (row :: (database.messages ++ database.inFlight))) : after.WellFormed where
  fresh other member := by
    rw [nextId]
    rcases List.mem_cons.mp (rows.mem_iff.mp member) with rfl | old
    · omega
    · have fresh := wellFormed.fresh other old
      omega
  unique := by
    rw [(rows.map _).nodup_iff, List.map_cons, List.nodup_cons]
    refine ⟨fun taken => ?_, wellFormed.unique⟩
    rcases List.mem_map.mp taken with ⟨other, member, same⟩
    have fresh := wellFormed.fresh other member
    omega

theorem WellFormed.shrink (wellFormed : database.WellFormed) {after : Database}
    (nextId : after.nextId = database.nextId)
    (rows : (after.messages ++ after.inFlight).Subperm
      (database.messages ++ database.inFlight)) : after.WellFormed where
  fresh row member := by
    rw [nextId]
    exact wellFormed.fresh row (rows.subset member)
  unique := by
    rcases rows with ⟨kept, perm, sublist⟩
    rw [← (perm.map _).nodup_iff]
    exact (sublist.map _).nodup wellFormed.unique

theorem WellFormed.insert (wellFormed : database.WellFormed) (row : Row) :
    (database.insert row).WellFormed := by
  refine wellFormed.assign { row with id := database.nextId } rfl rfl ?_
  exact List.perm_append_comm.append_right database.inFlight

theorem WellFormed.remote (wellFormed : database.WellFormed) (action : RemoteAction) :
    (database.remote action).WellFormed := by
  cases action with
  | begin row =>
      refine wellFormed.assign { row with id := database.nextId } rfl rfl ?_
      rw [Database.remote, ← List.append_assoc]
      exact List.perm_append_singleton _ _
  | commit id =>
      refine wellFormed.shrink rfl (List.Perm.subperm ?_)
      rw [Database.remote, List.append_assoc]
      exact (commit_perm database.inFlight id).append_left _
  | rollback id =>
      exact wellFormed.shrink rfl
        (List.Sublist.subperm (List.Sublist.append_left List.filter_sublist _))

end WellFormed

section Rows

variable {database : Database} {row : Row}

theorem messages_prefix_remote (action : RemoteAction) :
    database.messages.IsPrefix (database.remote action).messages := by
  cases action with
  | begin row => exact List.prefix_refl _
  | commit id => exact List.prefix_append _ _
  | rollback id => exact List.prefix_refl _

theorem id_le_maxId (member : row ∈ database.messages) : row.id ≤ database.maxId :=
  List.le_max_of_le' 0 (List.mem_map_of_mem member) (Nat.le_refl _)

theorem mem_poll {cursor limit : Nat} {serverOrigin : Bytes}
    (polled : row ∈ database.poll cursor serverOrigin limit) :
    row ∈ database.messages ∧ cursor < row.id ∧ otherOrigin serverOrigin row = true := by
  have selected := (List.mem_insertionSort _).mp (List.mem_of_mem_take polled)
  simpa [List.mem_filter] using selected

theorem orderById_pairwise (rows : List Row) :
    (orderById rows).Pairwise fun left right => left.id ≤ right.id := by
  have total : Std.Total fun left right : Row => left.id ≤ right.id :=
    ⟨fun left right => Nat.le_total left.id right.id⟩
  have trans : IsTrans Row fun left right => left.id ≤ right.id :=
    ⟨fun _ _ _ => Nat.le_trans⟩
  exact List.pairwise_insertionSort _ rows

theorem poll_pairwise (wellFormed : database.WellFormed) (cursor limit : Nat)
    (serverOrigin : Bytes) :
    (database.poll cursor serverOrigin limit).Pairwise fun left right =>
      left.id < right.id := by
  refine List.Pairwise.sublist (List.take_sublist _ _) ?_
  have distinct : (orderById (database.messages.filter fun row =>
      cursor < row.id && otherOrigin serverOrigin row)).Pairwise
        fun left right => left.id ≠ right.id := by
    have stored : (database.messages.map (·.id)).Nodup := by
      have unique := wellFormed.unique
      rw [List.map_append] at unique
      exact unique.of_append_left
    have selected : ((database.messages.filter fun row =>
        cursor < row.id && otherOrigin serverOrigin row).map Row.id).Nodup :=
      (List.filter_sublist.map Row.id).nodup stored
    exact List.pairwise_map.mp
      (((List.perm_insertionSort _ _).map Row.id).nodup_iff.mpr selected)
  exact (orderById_pairwise _).imp₂ (fun _ _ le ne => Nat.lt_of_le_of_ne le ne) distinct

end Rows

end Database

end PalCrosschat
