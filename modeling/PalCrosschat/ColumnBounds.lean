import PalCrosschat.RowDecoding
import PalCrosschat.World

/-! # Decoding inside the buffers

`poll_inbound` hands the full length of a column to `assign`, next to a buffer of a
fixed size. Other writers store columns of any length; the read stays inside the
buffer, and inside the column, for those that fit. -/

namespace PalCrosschat

open Bytes (ascii)

/-- The length that is passed to `assign`. -/
def assignLength (column : Option Bytes) : Nat := (column.map List.length).getD 0

/-- The value is read inside the buffer, and each of its bytes is the byte that the column
has at that position. -/
structure ColumnInBounds (buffer : Bytes) (column : Option Bytes) (value : Bytes) : Prop where
  length : assignLength column ≤ buffer.length
  own : ∀ (index : Nat) (byte : UInt8), value[index]? = some byte →
    ∃ text ∈ column, text[index]? = some byte

/-- The five texts of a message, after the row was fetched into the buffers. -/
structure DecodedInBounds (buffers : RowBuffers) (row : Row) (msg : InboundMessage) :
    Prop where
  origin : ColumnInBounds buffers.origin row.origin msg.origin
  senderName : ColumnInBounds buffers.senderName row.senderName msg.senderName
  senderId : ColumnInBounds buffers.senderId row.senderId msg.senderId
  guildName : ColumnInBounds buffers.guildName row.guildName msg.guildName
  message : ColumnInBounds buffers.message row.message msg.message

/-- A column that fits a buffer bound for so many bytes. The one length between the
bound and the size is decoded with a zero for its last byte. -/
def ColumnFits (bound : Nat) (column : Option Bytes) : Prop :=
  ∀ text ∈ column,
    text.length ≤ bound ∨ text.length = bound + 1 ∧ text.getLast? = some 0

instance (bound : Nat) (column : Option Bytes) : Decidable (ColumnFits bound column) :=
  inferInstanceAs (Decidable (∀ _ ∈ _, _ ∨ _ ∧ _))

def RowFits (row : Row) : Prop :=
  ColumnFits 63 row.origin ∧ ColumnFits 63 row.senderName ∧ ColumnFits 63 row.senderId ∧
    ColumnFits 63 row.guildName ∧ ColumnFits 511 row.message

instance (row : Row) : Decidable (RowFits row) :=
  inferInstanceAs (Decidable (_ ∧ _ ∧ _ ∧ _ ∧ _))

/-! ## One column -/

section Column

variable {bound : Nat} {buffer : Bytes}

theorem columnInBounds_of_fits (good : BoundBuffer bound buffer) {column : Option Bytes}
    (fits : ColumnFits bound column) (beyond : Bytes) :
    ColumnInBounds (fetchColumn buffer bound column) column
      (assignColumn (fetchColumn buffer bound column) beyond column) := by
  have size := (good.fetchColumn column).size
  cases column with
  | none =>
      refine ⟨Nat.zero_le _, fun index byte read => ?_⟩
      cases read
  | some text =>
      have whole := (forall_assignColumn_eq_iff good text).mpr (fits text rfl) beyond
      refine ⟨?_, fun index byte read => ⟨text, rfl, ?_⟩⟩
      · rw [size]
        change text.length ≤ bound + 1
        rcases fits text rfl with short | ⟨full, -⟩
        · exact Nat.le_succ_of_le short
        · exact full.le
      · rwa [whole] at read

/-- Whatever follows the buffer, a column that does not fit is not decoded in bounds. -/
theorem fits_of_columnInBounds (good : BoundBuffer bound buffer) {column : Option Bytes}
    {beyond : Bytes}
    (inBounds : ColumnInBounds (fetchColumn buffer bound column) column
      (assignColumn (fetchColumn buffer bound column) beyond column)) :
    ColumnFits bound column := by
  intro text held
  cases held
  have length := inBounds.length
  rw [(good.fetchColumn _).size] at length
  change text.length ≤ bound + 1 at length
  by_cases short : text.length ≤ bound
  · exact .inl short
  · have full : text.length = bound + 1 := by omega
    -- The byte at the bound is the terminator of the buffer.
    have terminator :
        (assignColumn (fetchColumn buffer bound (some text)) beyond (some text))[bound]? =
          some 0 := by
      have copied : (text.take bound).length = bound := List.length_take_of_le (by omega)
      rw [assignColumn_fetchColumn good, if_neg short,
        List.getElem?_append_right copied.le, copied, Nat.sub_self]
      rfl
    rcases inBounds.own bound 0 terminator with ⟨same, held, last⟩
    cases held
    refine .inr ⟨full, ?_⟩
    rwa [List.getLast?_eq_getElem?, full, Nat.add_sub_cancel]

theorem columnInBounds_iff (good : BoundBuffer bound buffer) (column : Option Bytes)
    (beyond : Bytes) :
    ColumnInBounds (fetchColumn buffer (boundLength buffer) column) column
        (assignColumn (fetchColumn buffer (boundLength buffer) column) beyond column) ↔
      ColumnFits bound column := by
  rw [good.boundLength]
  exact ⟨fits_of_columnInBounds good, fun fits => columnInBounds_of_fits good fits beyond⟩

end Column

/-! ## One row -/

theorem decodedInBounds_iff {buffers : RowBuffers} (good : BoundBuffers buffers) (row : Row)
    (beyond : RowBuffers) :
    DecodedInBounds (buffers.fetch row) row ((buffers.fetch row).decode beyond row) ↔
      RowFits row := by
  have origin := columnInBounds_iff good.origin row.origin beyond.origin
  have senderName := columnInBounds_iff good.senderName row.senderName beyond.senderName
  have senderId := columnInBounds_iff good.senderId row.senderId beyond.senderId
  have guildName := columnInBounds_iff good.guildName row.guildName beyond.guildName
  have message := columnInBounds_iff good.message row.message beyond.message
  constructor
  · intro decoded
    exact ⟨origin.mp decoded.origin, senderName.mp decoded.senderName,
      senderId.mp decoded.senderId, guildName.mp decoded.guildName, message.mp decoded.message⟩
  · intro fits
    rcases fits with ⟨first, second, third, fourth, fifth⟩
    exact ⟨origin.mpr first, senderName.mpr second, senderId.mpr third, guildName.mpr fourth,
      message.mpr fifth⟩

/-! ## Every fetched row -/

def Control.batch : Control → Option Batch
  | .fetching batch | .updatingCursor _ batch => some batch
  | _ => none

def BatchBound (worker : Worker) : Prop :=
  ∀ batch ∈ worker.control.batch, BoundBuffers batch.buffers

theorem batchBound_of_free {worker : Worker} (free : worker.control.holds = false) :
    BatchBound worker := by
  intro batch held
  cases here : worker.control with
  | fetching other => rw [here] at free; cases free
  | updatingCursor id other => rw [here] at free; cases free
  | _ => rw [here] at held; cases held

namespace DbWorker

theorem batchBound_step (config : Config) (state : DbState) (bound : BatchBound state.worker)
    (input : WorkerInput) : BatchBound (step config state input).worker := by
  have move := step_move config state input
  generalize step config state input = after at move
  cases move with
  | quiet quiet => exact batchBound_of_free quiet.holds
  | select now control =>
      intro batch held
      cases held
      exact .initial
  | fetch batch row rest beyond control rows =>
      intro other held
      cases held
      exact (bound batch (by rw [control]; rfl)).fetch row
  | advance id batch control =>
      intro other held
      cases held
      exact bound batch (by rw [control]; rfl)
  | _ => exact fun _ held => absurd held (by simp [goTo, note, markFailure, startBackoff,
      insertOutbound, Control.batch])

end DbWorker

/-- In every run, with any rows of any writers: the texts that a step pushes for a fetched
row are decoded in bounds exactly when the columns of the row fit. -/
theorem fetchedRow_inBounds_iff (engine : Engine) (config : Config) (compile : RegexCompiler)
    (startedAt : Nanoseconds) (players : List PlayerRow) (inputs : List WorldInput)
    (batch : Batch) (row : Row) (rest : List Row) (input : WorkerInput)
    (fetching :
      (World.run engine config (.initial compile config startedAt players) inputs).worker.control
        = .fetching batch)
    (rows : batch.rows = row :: rest) (ok : input.ok = true) :
    let state := (World.run engine config (.initial compile config startedAt players)
      inputs).dbState
    (∃ msg, (DbWorker.step config state input).inbound = state.inbound.push msg ∧
      DecodedInBounds (batch.buffers.fetch row) row msg) ↔ RowFits row := by
  intro state
  have control : state.worker.control = .fetching batch := fetching
  have bound : BatchBound state.worker := by
    refine Execution.run_invariant (fun world : World => BatchBound world.worker) ?_
      (batchBound_of_free rfl) inputs
    intro world input bound
    cases input with
    | worker input => exact DbWorker.batchBound_step config world.dbState bound input
    | _ => exact bound
  have pushed : (DbWorker.step config state input).inbound =
      state.inbound.push ((batch.buffers.fetch row).decode input.beyond row) := by
    simp only [DbWorker.step, control, ok, if_true, rows]
    rfl
  have decoded := decodedInBounds_iff (bound batch (by rw [control]; rfl)) row input.beyond
  rw [← decoded]
  constructor
  · intro some
    rcases some with ⟨msg, same, inBounds⟩
    rw [pushed] at same
    rwa [push_eq_push_iff.mp same]
  · intro inBounds
    exact ⟨_, pushed, inBounds⟩

def pollOnce (row : Row) : List WorldInput :=
  let calm : WorldInput := .worker { now := 3600 * nanosecondsPerSecond }
  [calm, calm, calm, .remote (.begin row), .remote (.commit 1), calm, calm, calm, calm]

def longName : Row where
  id := 1
  origin := some (ascii "discord")
  senderName := some (List.replicate 66 0x61)
  senderId := none
  guildName := none
  message := some (ascii "hello")

theorem fetchedRow_inBounds_greeting :
    let row : Row := { longName with senderName := some (ascii "Ann") }
    let state := (World.run quietEngine plainConfig (.initial literalRegex plainConfig 0 [])
      (pollOnce row)).dbState
    (∃ msg, (DbWorker.step plainConfig state {}).inbound = state.inbound.push msg ∧
      DecodedInBounds (RowBuffers.fetch {} row) row msg) ↔ RowFits row :=
  fetchedRow_inBounds_iff quietEngine plainConfig literalRegex 0 []
    (pollOnce { longName with senderName := some (ascii "Ann") })
    { rows := [{ longName with senderName := some (ascii "Ann") }]
      buffers := {}
      now := 3600 * nanosecondsPerSecond }
    { longName with senderName := some (ascii "Ann") } [] {} (by decide +kernel) rfl rfl

/-- Two bytes behind the buffer get into the sender name. -/
theorem longName_leaks :
    let state := (World.run quietEngine plainConfig (.initial literalRegex plainConfig 0 [])
      (pollOnce longName)).dbState
    let input : WorkerInput := { beyond := { senderName := ascii "pw" } }
    ∃ msg, (DbWorker.step plainConfig state input).inbound.items = [msg] ∧
      msg.senderName = List.replicate 63 0x61 ++ [0] ++ ascii "pw" ∧
      assignLength longName.senderName = 66 ∧
      ¬DecodedInBounds (RowBuffers.fetch {} longName) longName msg := by
  intro state input
  refine ⟨(RowBuffers.fetch {} longName).decode input.beyond longName, by decide +kernel,
    by decide +kernel, by decide +kernel, ?_⟩
  rw [decodedInBounds_iff .initial]
  decide +kernel

end PalCrosschat
