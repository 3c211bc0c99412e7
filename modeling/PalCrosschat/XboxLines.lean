import PalCrosschat.DrainSteps
import PalCrosschat.IssuedChats

/-! # Lines of other servers on Xbox

A row carries the uid of its sender as a text of the database. Whether it is that of
a player on this server is decided by the roster alone, so a row of another server
reaches Xbox players when its sender is on the roster here. -/

namespace PalCrosschat

open Bytes (ascii)

namespace ChatInject

section OffXbox

variable (engine : Engine) (config : Config) (filter : WordFilter) (msg : InboundMessage)
  (world : InjectWorld)

/-- The messages `BroadcastOne` issues for a row. -/
def rowIssued : List PalChatMessage :=
  ((broadcastOne engine config filter msg).run world).2.chats.drop world.chats.length

/-- No message has a sender or reaches a player on Xbox. -/
def OffXbox : Prop :=
  ∀ chat ∈ rowIssued engine config filter msg world,
    chat.senderPlayerUId = .nil ∧
      ∀ uid, LivePlayer engine world true uid → ¬chat.Reaches uid

def SenderOnline : Prop :=
  ∃ sender, tryParseGuid msg.senderId = some sender ∧ sender ≠ .nil ∧
    formatGuid sender ∈ (prunedRoster engine world).roster

/-- When a player is on Xbox, the line for them is not attributed or not issued, and the
line for the others is not issued or has its receivers. -/
def KeptOffXbox : Prop :=
  ∀ dual ∈ rowDual config filter msg, (∃ uid, LivePlayer engine world true uid) →
    (SenderOnline engine msg world →
      ¬GetsThrough engine (dual.plain engine world)
        (dual.beforePlain engine config.injectCategory world)) ∧
    ((∃ uid, LivePlayer engine world false uid) →
      GetsThrough engine (dual.formatted engine world) (beforeCalls engine world) →
      Filled engine (dual.formatted engine world) (beforeCalls engine world))

variable {engine} {config} {filter} {msg} {world}

theorem rowIssued_eq :
    rowIssued engine config filter msg world =
      chatsOf engine config.injectCategory (rowCalls engine config filter msg world) := by
  rw [rowIssued, (broadcastOne_endsWith engine config filter msg world).2, List.drop_left]

theorem senderPlayerUid_rowDual {dual : DualCall}
    (broadcast : rowDual config filter msg = some dual) :
    dual.senderPlayerUid = tryParseGuid msg.senderId := by
  unfold rowDual at broadcast
  dsimp only at broadcast
  split at broadcast
  · cases broadcast
  · split at broadcast
    · cases broadcast
    · cases broadcast
      rfl

theorem senderOnline_iff {dual : DualCall} (broadcast : rowDual config filter msg = some dual) :
    SenderOnline engine msg world ↔
      (onlineSender engine dual.senderPlayerUid world).isSome = true := by
  rw [senderPlayerUid_rowDual broadcast, Option.isSome_iff_exists]
  exact exists_congr fun sender => onlineSender_eq_some.symm

/-- The messages of a row that is broadcast, one for each call that gets through. -/
theorem mem_rowIssued {dual : DualCall} (broadcast : rowDual config filter msg = some dual)
    {chat : PalChatMessage} :
    chat ∈ rowIssued engine config filter msg world ↔
      ∃ entry ∈ dual.made engine config.injectCategory world,
        chat ∈ issuedChats engine config.injectCategory entry.1 entry.2 := by
  rw [rowIssued_eq, rowCalls, broadcast]
  exact List.mem_flatMap

theorem keptOffXbox_of_offXbox (wellFormed : world.audience.WellFormed)
    (off : OffXbox engine config filter msg world) :
    KeptOffXbox engine config filter msg world := by
  intro dual broadcast someXbox
  have nonemptyXbox := (xbox_ne_nil_iff wellFormed).mpr someXbox
  constructor
  · intro online getsThrough
    have isOnline := (senderOnline_iff broadcast).mp online
    have made := (dual.mem_made engine config.injectCategory world).mpr
      (.inr ⟨⟨nonemptyXbox, isOnline⟩, rfl⟩)
    have sent := (off _ ((mem_rowIssued broadcast).mpr
      ⟨_, made, (mem_issuedChats engine _).mpr ⟨getsThrough, rfl⟩⟩)).1
    rcases Option.isSome_iff_exists.mp isOnline with ⟨sender, found⟩
    have nonNil := (onlineSender_eq_some.mp found).2.1
    change (onlineSender engine dual.senderPlayerUid world).getD .nil = .nil at sent
    rw [found] at sent
    exact nonNil sent
  · intro someOthers getsThrough
    have made := (dual.mem_made engine config.injectCategory world).mpr
      (.inl ⟨(others_ne_nil_iff wellFormed).mpr someOthers, rfl⟩)
    have unseen := (off _ ((mem_rowIssued broadcast).mpr
      ⟨_, made, (mem_issuedChats engine _).mpr ⟨getsThrough, rfl⟩⟩)).2
    by_contra notFilled
    rcases someXbox with ⟨uid, onXbox⟩
    apply unseen uid onXbox
    left
    rw [filledChat_receivers, if_neg notFilled]

theorem offXbox_of_keptOffXbox (wellFormed : world.audience.WellFormed)
    (kept : KeptOffXbox engine config filter msg world) :
    OffXbox engine config filter msg world := by
  intro chat member
  cases broadcast : rowDual config filter msg with
  | none =>
      rw [rowIssued_eq, rowCalls, broadcast] at member
      exact absurd member List.not_mem_nil
  | some dual =>
      rcases (mem_rowIssued broadcast).mp member with ⟨entry, made, issued⟩
      rcases (mem_issuedChats engine _).mp issued with ⟨getsThrough, rfl⟩
      rcases (dual.mem_made engine _ world).mp made with
        ⟨nonemptyOthers, rfl⟩ | ⟨⟨nonemptyXbox, isOnline⟩, rfl⟩
      · refine ⟨rfl, ?_⟩
        intro uid onXbox reached
        have filled := (kept dual broadcast ⟨uid, onXbox⟩).2
          ((others_ne_nil_iff wellFormed).mp nonemptyOthers) getsThrough
        rw [PalChatMessage.Reaches, filledChat_receivers, if_pos filled] at reached
        have listed : uid ∈ (lookAround engine world).1.2 :=
          reached.resolve_left nonemptyOthers
        have distinct : ((lookAround engine world).1.2 ++ (lookAround engine world).1.1).Nodup :=
          nodup_lookAround wellFormed
        exact List.disjoint_of_nodup_append distinct listed
          ((mem_xbox_iff wellFormed uid).mpr onXbox)
      · have someXbox := (xbox_ne_nil_iff wellFormed).mp nonemptyXbox
        have online := (senderOnline_iff broadcast).mpr isOnline
        exact absurd getsThrough ((kept dual broadcast someXbox).1 online)

end OffXbox

/-- A row stays off Xbox exactly if it is not broadcast, nobody is on Xbox, or its sender
is not on the roster (or the attributed line is not issued) and the line for the others
is not for everybody. -/
theorem offXbox_iff (engine : Engine) (config : Config) (filter : WordFilter)
    (msg : InboundMessage) (operations : List AudienceTracker.Operation) (start : InjectWorld) :
    let world := { start with audience := AudienceTracker.run operations }
    OffXbox engine config filter msg world ↔ KeptOffXbox engine config filter msg world := by
  intro world
  have wellFormed : world.audience.WellFormed := AudienceTracker.wellFormed_run operations
  exact ⟨keptOffXbox_of_offXbox wellFormed, offXbox_of_keptOffXbox wellFormed⟩

def movedPlayer : Guid := { a := 2 }

def movedRow : InboundMessage :=
  { DrainWorld.remoteRow 1 (ascii "hello") with senderId := formatGuid movedPlayer }

def movedWorld : InjectWorld where
  audience := AudienceTracker.run [.upsert movedPlayer (ascii "gdk_2") 7]

/-- Their last line over there is shown on Xbox here, in their name. -/
theorem moved_on_xbox :
    movedRow.origin ≠ plainConfig.serverOrigin ∧
      ¬OffXbox quietEngine plainConfig DrainWorld.plainFilter movedRow movedWorld := by
  refine ⟨by decide, ?_⟩
  intro off
  have attributed : movedPlayer ∈ (rowIssued quietEngine plainConfig DrainWorld.plainFilter
      movedRow movedWorld).map PalChatMessage.senderPlayerUId := by
    decide +kernel
  rcases List.mem_map.mp attributed with ⟨chat, issued, sender⟩
  have unattributed := (off chat issued).1
  rw [sender] at unattributed
  exact absurd unattributed (by decide)

end ChatInject

end PalCrosschat
