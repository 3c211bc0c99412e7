import PalCrosschat.Sanitize
import PalCrosschat.WorkerSteps

/-! # Decoding rows

The texts a receiver builds from a row. Its buffers are bound one byte shorter
than they are, while the length of the column is taken as it is, so a text that
fills a whole buffer comes back with its last byte replaced by a zero. -/

namespace PalCrosschat

open Bytes (ascii)

/-! ## One column -/

/-- A buffer bound for `bound` bytes: one byte longer, and that byte is zero. -/
structure BoundBuffer (bound : Nat) (buffer : Bytes) : Prop where
  size : buffer.length = bound + 1
  terminated : buffer.drop bound = [0]

theorem BoundBuffer.zeros (bound : Nat) : BoundBuffer bound (List.replicate (bound + 1) 0) where
  size := List.length_replicate
  terminated := by simp

section Column

variable {bound : Nat} {buffer : Bytes}

theorem BoundBuffer.boundLength (good : BoundBuffer bound buffer) :
    boundLength buffer = bound := by
  simp [PalCrosschat.boundLength, good.size]

theorem BoundBuffer.fetchColumn (good : BoundBuffer bound buffer) (column : Option Bytes) :
    BoundBuffer bound (fetchColumn buffer bound column) := by
  have size := good.size
  cases column with
  | none => exact good
  | some text =>
      refine ⟨?_, ?_⟩
      · simp [PalCrosschat.fetchColumn]
        omega
      · have whole : min text.length bound + (bound - min bound text.length) = bound := by
          omega
        rw [PalCrosschat.fetchColumn, List.drop_append, List.drop_drop, List.length_take,
          whole, good.terminated, List.drop_of_length_le (by simp), List.nil_append]

theorem assignColumn_fetchColumn (good : BoundBuffer bound buffer) (beyond text : Bytes) :
    assignColumn (fetchColumn buffer bound (some text)) beyond (some text) =
      if text.length ≤ bound then text
      else text.take bound ++ 0 :: beyond.take (text.length - (bound + 1)) := by
  split
  · rename_i fits
    simp [assignColumn, PalCrosschat.fetchColumn, Nat.min_eq_left fits,
      List.take_of_length_le fits]
  · rename_i long
    have past : bound ≤ text.length := by omega
    simp only [assignColumn, PalCrosschat.fetchColumn, Nat.min_eq_right past, good.terminated]
    rw [List.append_assoc, List.take_append, List.take_of_length_le (by simp)]
    congr 1
    rw [List.length_take, Nat.min_eq_left past, List.singleton_append]
    cases excess : text.length - bound with
    | zero => omega
    | succ more =>
        rw [List.take_succ_cons]
        congr
        omega

/-- A column comes back whatever memory follows its buffer exactly when it fits
the bound, or when the byte that is lost was a zero. -/
theorem forall_assignColumn_eq_iff (good : BoundBuffer bound buffer) (text : Bytes) :
    (∀ beyond, assignColumn (fetchColumn buffer bound (some text)) beyond (some text) = text) ↔
      text.length ≤ bound ∨ text.length = bound + 1 ∧ text.getLast? = some 0 := by
  constructor
  · intro decoded
    by_cases fits : text.length ≤ bound
    · exact .inl fits
    · have cut := decoded []
      rw [assignColumn_fetchColumn good, if_neg fits, List.take_nil] at cut
      have size := congrArg List.length cut
      rw [List.length_append, List.length_take, List.length_singleton] at size
      refine .inr ⟨by omega, ?_⟩
      rw [← cut]
      simp
  · intro either beyond
    rcases either with fits | ⟨size, last⟩
    · rw [assignColumn_fetchColumn good, if_pos fits]
    · rw [assignColumn_fetchColumn good, if_neg (by omega), size, Nat.sub_self, List.take_zero]
      rcases List.getLast?_eq_some_iff.mp last with ⟨start, split⟩
      have startSize : start.length = bound := by
        have total := congrArg List.length split
        simp at total
        omega
      rw [split, List.take_left' startSize]

end Column

/-! ## Rows -/

structure BoundBuffers (buffers : RowBuffers) : Prop where
  origin : BoundBuffer 63 buffers.origin
  senderName : BoundBuffer 63 buffers.senderName
  senderId : BoundBuffer 63 buffers.senderId
  guildName : BoundBuffer 63 buffers.guildName
  message : BoundBuffer 511 buffers.message

theorem BoundBuffers.initial : BoundBuffers {} where
  origin := .zeros 63
  senderName := .zeros 63
  senderId := .zeros 63
  guildName := .zeros 63
  message := .zeros 511

theorem BoundBuffers.fetch {buffers : RowBuffers} (good : BoundBuffers buffers) (row : Row) :
    BoundBuffers (buffers.fetch row) := by
  have column {bound : Nat} {buffer : Bytes} (good : BoundBuffer bound buffer)
      (text : Option Bytes) :
      BoundBuffer bound (fetchColumn buffer (boundLength buffer) text) := by
    rw [good.boundLength]
    exact good.fetchColumn text
  exact ⟨column good.origin _, column good.senderName _, column good.senderId _,
    column good.guildName _, column good.message _⟩

theorem BoundBuffers.foldl_fetch (rows : List Row) :
    BoundBuffers (rows.foldl RowBuffers.fetch {}) := by
  have folded : ∀ (rows : List Row) (buffers : RowBuffers), BoundBuffers buffers →
      BoundBuffers (rows.foldl RowBuffers.fetch buffers) := by
    intro rows
    induction rows with
    | nil => exact fun _ good => good
    | cons row rest induction => exact fun _ good => induction _ (good.fetch row)
  exact folded rows {} .initial

/-! ## Server to server -/

def SameFields (msg : OutboundMessage) (inbound : InboundMessage) : Prop :=
  inbound.senderName = msg.senderName ∧ inbound.senderId = msg.senderId ∧
    inbound.guildName = msg.guildName ∧ inbound.message = msg.message

instance (msg : OutboundMessage) (inbound : InboundMessage) :
    Decidable (SameFields msg inbound) :=
  inferInstanceAs (Decidable (_ ∧ _))

/-- Every receiver that fetches the row of the message pushes its texts unchanged,
whatever rows it fetched before and whatever memory follows its buffers. -/
def RoundTrips (config : Config) (msg : OutboundMessage) : Prop :=
  ∀ (receiver : Config) (state : DbState) (input : WorkerInput) (earlier rest : List Row)
    (id : Nat) (now : Nanoseconds), input.ok = true →
    state.worker.control = .fetching
      { rows := { DbWorker.outboundRow config msg with id } :: rest
        buffers := earlier.foldl RowBuffers.fetch {}
        now } →
    ∃ inbound, SameFields msg inbound ∧
      (DbWorker.step receiver state input).inbound = state.inbound.push inbound

/-- A text that `SanitizeMessage` returns for some limit. -/
def Sanitized (text : Bytes) : Prop :=
  ∃ input maxBytes, text = sanitizeMessage input maxBytes

theorem Sanitized.getLast?_ne_zero {text : Bytes} (sanitized : Sanitized text) :
    text.getLast? ≠ some 0 := by
  rcases sanitized with ⟨input, maxBytes, rfl⟩
  intro last
  have control := not_isControl_of_mem_sanitize (List.mem_of_getLast? last)
  exact absurd control (by decide)

theorem push_eq_push_iff {queue : InboundQueue} {first second : InboundMessage} :
    queue.push first = queue.push second ↔ first = second := by
  constructor
  · intro equal
    have items := congrArg (·.deque.items) equal
    exact List.cons.inj (List.append_cancel_left items) |>.1
  · exact congrArg _

section Receiver

variable {config : Config} {msg : OutboundMessage}

/-- The texts come back when each column does. -/
theorem sameFields_decode_iff {buffers : RowBuffers} {beyond : RowBuffers} {id : Nat} :
    SameFields msg ((buffers.fetch { DbWorker.outboundRow config msg with id }).decode beyond
        { DbWorker.outboundRow config msg with id }) ↔
      assignColumn (fetchColumn buffers.senderName (boundLength buffers.senderName)
        (some msg.senderName)) beyond.senderName (some msg.senderName) = msg.senderName ∧
      assignColumn (fetchColumn buffers.senderId (boundLength buffers.senderId)
        (some msg.senderId)) beyond.senderId (some msg.senderId) = msg.senderId ∧
      assignColumn (fetchColumn buffers.guildName (boundLength buffers.guildName)
        (some msg.guildName)) beyond.guildName (some msg.guildName) = msg.guildName ∧
      assignColumn (fetchColumn buffers.message (boundLength buffers.message)
        (some msg.message)) beyond.message (some msg.message) = msg.message :=
  Iff.rfl

/-- The round trip as a statement about the buffers. -/
theorem roundTrips_iff_decode :
    RoundTrips config msg ↔ ∀ (earlier : List Row) (beyond : RowBuffers) (id : Nat),
      SameFields msg (((earlier.foldl RowBuffers.fetch {}).fetch
        { DbWorker.outboundRow config msg with id }).decode beyond
          { DbWorker.outboundRow config msg with id }) := by
  constructor
  · intro roundTrips earlier beyond id
    rcases roundTrips config { worker := { control := _ } } { beyond } earlier [] id 0 rfl rfl
      with ⟨inbound, same, pushed⟩
    rw [← push_eq_push_iff.mp pushed] at same
    exact same
  · intro decoded receiver state input earlier rest id now ok control
    refine ⟨_, decoded earlier input.beyond id, ?_⟩
    simp only [DbWorker.step, control, ok, if_true]
    rfl

/-- The exact condition, for any texts. -/
theorem roundTrips_iff_fits :
    RoundTrips config msg ↔
      (msg.senderName.length ≤ 63 ∨
        msg.senderName.length = 64 ∧ msg.senderName.getLast? = some 0) ∧
      (msg.senderId.length ≤ 63 ∨
        msg.senderId.length = 64 ∧ msg.senderId.getLast? = some 0) ∧
      (msg.guildName.length ≤ 63 ∨
        msg.guildName.length = 64 ∧ msg.guildName.getLast? = some 0) ∧
      (msg.message.length ≤ 511 ∨
        msg.message.length = 512 ∧ msg.message.getLast? = some 0) := by
  have column {bound : Nat} {buffer : Bytes} (good : BoundBuffer bound buffer) (text : Bytes) :
      (∀ beyond, assignColumn (fetchColumn buffer (boundLength buffer) (some text)) beyond
        (some text) = text) ↔
      text.length ≤ bound ∨ text.length = bound + 1 ∧ text.getLast? = some 0 := by
    rw [good.boundLength]
    exact forall_assignColumn_eq_iff good text
  rw [roundTrips_iff_decode]
  constructor
  · intro decoded
    have same := fun beyond => sameFields_decode_iff.mp (decoded [] beyond 0)
    have good := BoundBuffers.initial
    exact ⟨(column good.senderName _).mp fun beyond =>
        (same { senderName := beyond }).1,
      (column good.senderId _).mp fun beyond => (same { senderId := beyond }).2.1,
      (column good.guildName _).mp fun beyond => (same { guildName := beyond }).2.2.1,
      (column good.message _).mp fun beyond => (same { message := beyond }).2.2.2⟩
  · intro given earlier beyond id
    rcases given with ⟨senderName, senderId, guildName, message⟩
    have good := BoundBuffers.foldl_fetch earlier
    exact sameFields_decode_iff.mpr
      ⟨(column good.senderName _).mpr senderName _, (column good.senderId _).mpr senderId _,
        (column good.guildName _).mpr guildName _, (column good.message _).mpr message _⟩

end Receiver

/-- Sanitized texts make the round trip exactly when they leave the last byte of
each buffer free. -/
theorem roundTrips_iff (config : Config) (msg : OutboundMessage)
    (senderName : Sanitized msg.senderName) (guildName : Sanitized msg.guildName)
    (message : Sanitized msg.message) :
    RoundTrips config msg ↔
      msg.message.length ≤ 511 ∧ msg.senderName.length ≤ 63 ∧ msg.guildName.length ≤ 63 ∧
        (msg.senderId.length ≤ 63 ∨
          msg.senderId.length = 64 ∧ msg.senderId.getLast? = some 0) := by
  rw [roundTrips_iff_fits]
  simp only [senderName.getLast?_ne_zero, guildName.getLast?_ne_zero,
    message.getLast?_ne_zero, and_false, or_false]
  constructor
  · intro given
    rcases given with ⟨shortName, shortId, shortGuild, shortMessage⟩
    exact ⟨shortMessage, shortName, shortGuild, shortId⟩
  · intro given
    rcases given with ⟨shortMessage, shortName, shortGuild, shortId⟩
    exact ⟨shortName, shortId, shortGuild, shortMessage⟩

def greeting : OutboundMessage where
  senderName := ascii "Zoe"
  senderId := []
  guildName := []
  message := ascii "hello"

theorem roundTrips_greeting : RoundTrips plainConfig greeting :=
  (roundTrips_iff plainConfig greeting
    ⟨ascii "Zoe", 64, by decide⟩ ⟨[], 64, by decide⟩ ⟨ascii "hello", 512, by decide⟩).mpr
    (by decide)

def fullMessage : Bytes := List.replicate 512 0x61

theorem length_fullMessage : fullMessage.length = 512 := List.length_replicate

theorem sanitizeMessage_fullMessage : sanitizeMessage fullMessage = fullMessage := by
  have kept : fullMessage.filter (fun byte => !Bytes.isControl byte) = fullMessage := by
    rw [List.filter_eq_self]
    intro byte member
    rw [List.eq_of_mem_replicate member]
    rfl
  have trimmed : stripControlAndTrim fullMessage = fullMessage := by
    rw [stripControlAndTrim, kept]
    exact Bytes.trimBoth_of_ends (fun byte first => by cases first; rfl)
      fun byte last => by
        rw [List.eq_of_mem_replicate (List.mem_of_getLast? last)]
        rfl
  have nonempty : fullMessage.isEmpty = false := rfl
  simp only [sanitizeMessage, trimmed, nonempty, Bool.false_eq_true, if_false]
  exact truncateUtf8_of_le length_fullMessage.le

/-- A message that fills its buffer does not arrive. -/
theorem fullMessage_not_roundTrips :
    Sanitized fullMessage ∧ fullMessage.length ≤ 512 ∧
    ¬RoundTrips plainConfig
      { greeting with message := fullMessage } := by
  have sanitized : Sanitized fullMessage := ⟨fullMessage, 512, sanitizeMessage_fullMessage.symm⟩
  refine ⟨sanitized, length_fullMessage.le, fun roundTrips => ?_⟩
  rcases (roundTrips_iff_fits.mp roundTrips).2.2.2 with short | ⟨-, lastIsZero⟩
  · change fullMessage.length ≤ 511 at short
    rw [length_fullMessage] at short
    omega
  · exact sanitized.getLast?_ne_zero lastIsZero

end PalCrosschat
