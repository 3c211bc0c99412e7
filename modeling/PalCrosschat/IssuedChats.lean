import PalCrosschat.DualAudience

/-! # The messages of a broadcast

Which `BroadcastChatMessage`s the rows and the deferred actions issue, and for
whom: one for each of their `BroadcastDisplay` calls that gets through, to the
receivers whose array could be filled. -/

namespace PalCrosschat

open Bytes (ascii)

/-- The message is for the player: by name, or because it is for everybody. -/
def PalChatMessage.Reaches (chat : PalChatMessage) (uid : Guid) : Prop :=
  chat.receiverPlayerUIds = [] ∨ uid ∈ chat.receiverPlayerUIds

instance (chat : PalChatMessage) (uid : Guid) : Decidable (chat.Reaches uid) :=
  inferInstanceAs (Decidable (_ ∨ _))

namespace ChatInject

section Calls

variable (engine : Engine) (category : Category)

/-! ## One call -/

def atReceivers (call : DisplayCall) (world : InjectWorld) : InjectWorld :=
  let ready := (ensureBroadcastFunction engine).run ((resolveGameState engine).run world).2
  let sender := (fillInitFString engine call.displaySender).run ready.2
  ((fillInitFString engine call.message).run sender.2).2

def Filled (call : DisplayCall) (world : InjectWorld) : Prop :=
  call.receivers.length < 512 ∧ engine.gameMalloc (atReceivers engine call world).moment = true

instance (call : DisplayCall) (world : InjectWorld) : Decidable (Filled engine call world) :=
  inferInstanceAs (Decidable (_ ∧ _))

def GetsThrough (call : DisplayCall) (world : InjectWorld) : Prop :=
  DisplayReaches engine call.displaySender call.message call.receivers world

instance (call : DisplayCall) (world : InjectWorld) :
    Decidable (GetsThrough engine call world) :=
  inferInstanceAs (Decidable (DisplayReaches _ _ _ _ _))

def Stuck (call : DisplayCall) (world : InjectWorld) : Prop :=
  world.inject.circuitOpen = false ∧ ¬GetsThrough engine call world

instance (call : DisplayCall) (world : InjectWorld) : Decidable (Stuck engine call world) :=
  inferInstanceAs (Decidable (_ ∧ _))

def issuedChats (call : DisplayCall) (world : InjectWorld) : List PalChatMessage :=
  if GetsThrough engine call world then
    [filledChat engine call.displaySender call.message category call.receivers
      call.senderPlayerUid world]
  else []

theorem perform_endsWith (call : DisplayCall) (world : InjectWorld) :
    EndsWith world ((call.perform engine category).run world)
      (!decide (Stuck engine call world)) (issuedChats engine category call world) := by
  unfold issuedChats
  cases circuit : world.inject.circuitOpen with
  | true =>
      have stopped : ¬GetsThrough engine call world := by
        intro reaches
        have isClosed := reaches.1
        rw [circuit] at isClosed
        cases isClosed
      rw [if_neg stopped, decide_eq_false (by simp [Stuck, circuit])]
      exact broadcastDisplay_open engine _ _ _ _ _ _ circuit
  | false =>
      by_cases reaches : GetsThrough engine call world
      · rw [if_pos reaches, decide_eq_false (by simp [Stuck, reaches])]
        exact broadcastDisplay_reached engine _ _ _ _ _ _ reaches
      · rw [if_neg reaches, decide_eq_true ⟨circuit, reaches⟩]
        exact broadcastDisplay_stuck engine _ _ _ _ _ _ circuit reaches

theorem fillReceivers_run (receivers : List Guid) (world : InjectWorld) :
    ((fillReceivers engine receivers).run world).1 =
      if receivers.length < 512 ∧ engine.gameMalloc world.moment = true then receivers
      else [] := by
  cases receivers with
  | nil => exact (ite_self _).symm
  | cons uid rest =>
      by_cases large : 512 ≤ (uid :: rest).length
      · rw [if_neg (by omega), fillReceivers, if_pos (by simp only [decide_eq_true large,
          Bool.or_true])]
        rfl
      · rw [fillReceivers, if_neg (by simpa using large), run_bind]
        change ((if engine.gameMalloc world.moment = true then _ else _ :
          InjectProgram (List Guid)).run _).1 = _
        cases allocated : engine.gameMalloc world.moment with
        | true => rw [if_pos rfl, if_pos ⟨by omega, rfl⟩]; rfl
        | false => rw [if_neg (by simp), if_neg (by simp)]; rfl

theorem mem_issuedChats {call : DisplayCall} {world : InjectWorld} {chat : PalChatMessage} :
    chat ∈ issuedChats engine category call world ↔
      GetsThrough engine call world ∧
        chat = filledChat engine call.displaySender call.message category call.receivers
          call.senderPlayerUid world := by
  unfold issuedChats
  split <;> simp [*]

theorem filledChat_receivers (call : DisplayCall) (world : InjectWorld) :
    (filledChat engine call.displaySender call.message category call.receivers
      call.senderPlayerUid world).receiverPlayerUIds =
      if Filled engine call world then call.receivers else [] :=
  fillReceivers_run engine call.receivers (atReceivers engine call world)

/-! ## Calls in a row -/

def madeCalls : List DisplayCall → InjectWorld → List (DisplayCall × InjectWorld)
  | [], _ => []
  | call :: rest, world =>
      (call, world) :: madeCalls rest ((call.perform engine category).run world).2

theorem madeCalls_map (calls : List DisplayCall) (world : InjectWorld) :
    (madeCalls engine category calls world).map Prod.fst = calls := by
  induction calls generalizing world with
  | nil => rfl
  | cons call rest induction => exact congrArg (call :: ·) (induction _)

def chatsOf (made : List (DisplayCall × InjectWorld)) : List PalChatMessage :=
  made.flatMap fun entry => issuedChats engine category entry.1 entry.2

def noneStuck (made : List (DisplayCall × InjectWorld)) : Bool :=
  made.all fun entry => !decide (Stuck engine entry.1 entry.2)

theorem EndsWith.after {α : Type} {first second : InjectWorld} {ending : α × InjectWorld}
    {value : α} {left right : List PalChatMessage} (grown : second.chats = first.chats ++ left)
    (rest : EndsWith second ending value right) : EndsWith first ending value (left ++ right) := by
  refine ⟨rest.1, ?_⟩
  rw [rest.2, grown, List.append_assoc]

theorem performCalls_endsWith (calls : List DisplayCall) (world : InjectWorld) :
    EndsWith world ((performCalls engine category calls).run world)
      (noneStuck engine (madeCalls engine category calls world))
      (chatsOf engine category (madeCalls engine category calls world)) := by
  induction calls generalizing world with
  | nil => exact .same rfl true
  | cons call rest induction =>
      have first := perform_endsWith engine category call world
      have later := EndsWith.after first.2 (induction ((call.perform engine category).run world).2)
      rw [performCalls_cons]
      refine ⟨?_, later.2⟩
      rw [later.1, first.1]
      rfl

/-! ## One broadcast -/

/-- The arguments of a `BroadcastDual`, the category apart. -/
structure DualCall where
  xboxSender : Bytes
  xboxMessage : Bytes
  formattedSender : Bytes
  formattedMessage : Bytes
  senderPlayerUid : Option Guid
deriving DecidableEq, Repr

def DualCall.perform (dual : DualCall) : InjectProgram Bool :=
  broadcastDual engine dual.xboxSender dual.xboxMessage dual.formattedSender
    dual.formattedMessage category dual.senderPlayerUid

/-- The calls of a `BroadcastDual`, each with its world. -/
def DualCall.made (dual : DualCall) (world : InjectWorld) : List (DisplayCall × InjectWorld) :=
  madeCalls engine category
    (callsFrom engine dual.xboxSender dual.xboxMessage dual.formattedSender
      dual.formattedMessage dual.senderPlayerUid world)
    (beforeCalls engine world)

theorem beforeCalls_sameChats (world : InjectWorld) :
    SameChats world (beforeCalls engine world) := by
  have looked : SameChats world (lookAround engine world).2 :=
    trans_of SameChats (bootstrapAudience_silent engine world).sameChats
      (snapshotAudience_silent engine _).sameChats
  unfold beforeCalls
  split
  · exact trans_of SameChats looked (note_sameChats rfl _)
  · exact looked

theorem DualCall.perform_endsWith (dual : DualCall) (world : InjectWorld) :
    EndsWith world ((dual.perform engine category).run world)
      (noneStuck engine (dual.made engine category world))
      (chatsOf engine category (dual.made engine category world)) := by
  rw [perform, broadcastDual_run]
  have performed := performCalls_endsWith engine category
    (callsFrom engine dual.xboxSender dual.xboxMessage dual.formattedSender
      dual.formattedMessage dual.senderPlayerUid world) (beforeCalls engine world)
  exact ⟨performed.1, by rw [performed.2, beforeCalls_sameChats engine world]; rfl⟩

section Made

variable (dual : DualCall) (world : InjectWorld)

def DualCall.formatted : DisplayCall :=
  ⟨dual.formattedSender, dual.formattedMessage, (lookAround engine world).1.2, none⟩

def DualCall.plain : DisplayCall :=
  ⟨dual.xboxSender, dual.xboxMessage, (lookAround engine world).1.1,
    onlineSender engine dual.senderPlayerUid world⟩

def DualCall.beforePlain : InjectWorld :=
  if (lookAround engine world).1.2.isEmpty then beforeCalls engine world
  else (((dual.formatted engine world).perform engine category).run (beforeCalls engine world)).2

/-- The calls that are made, with their worlds. -/
theorem DualCall.mem_made {entry : DisplayCall × InjectWorld} :
    entry ∈ dual.made engine category world ↔
      (lookAround engine world).1.2 ≠ [] ∧
        entry = (dual.formatted engine world, beforeCalls engine world) ∨
      ((lookAround engine world).1.1 ≠ [] ∧
        (onlineSender engine dual.senderPlayerUid world).isSome = true) ∧
        entry = (dual.plain engine world, dual.beforePlain engine category world) := by
  unfold made callsFrom dualCalls beforePlain formatted plain
  cases (lookAround engine world).1.2 <;> cases (lookAround engine world).1.1 <;>
    cases onlineSender engine dual.senderPlayerUid world <;> simp [madeCalls]

end Made

/-- No `BroadcastDual` makes a call without receivers. -/
theorem DualCall.receivers_ne_nil {dual : DualCall} {world : InjectWorld}
    {entry : DisplayCall × InjectWorld} (member : entry ∈ dual.made engine category world) :
    entry.1.receivers ≠ [] := by
  rcases (dual.mem_made engine category world).mp member with
    ⟨someOthers, rfl⟩ | ⟨⟨someXbox, -⟩, rfl⟩
  · exact someOthers
  · exact someXbox

end Calls

/-! ## Rows and actions -/

section Lines

variable (engine : Engine) (config : Config)

def rowDual (filter : WordFilter) (msg : InboundMessage) : Option DualCall :=
  let cleanMessage := sanitizeMessage msg.message
  if cleanMessage.isEmpty then none
  else if filter.active && (filter.findMatch cleanMessage).isSome then none
  else
    let cleanSender := cleanSenderName msg.senderName
    let chatPrefix := prefixForOrigin config msg.origin
    let cleanGuild := sanitizeMessage msg.guildName 64
    let display := applyChatFormat config.chatFormat chatPrefix cleanGuild cleanSender
      cleanMessage
    let plain := applyChatFormatAttributed config.chatFormat chatPrefix cleanGuild cleanSender
      cleanMessage
    some
      { xboxSender := plain.1
        xboxMessage := if plain.2.isEmpty then cleanMessage else plain.2
        formattedSender := display.1
        formattedMessage := if display.2.isEmpty then cleanMessage else display.2
        senderPlayerUid := tryParseGuid msg.senderId }

theorem broadcastOne_eq (filter : WordFilter) (msg : InboundMessage) :
    broadcastOne engine config filter msg =
      (rowDual config filter msg).elim (pure true)
        (DualCall.perform engine config.injectCategory) := by
  unfold broadcastOne rowDual
  dsimp only
  split
  · rfl
  · split <;> rfl

/-- The calls `BroadcastOne` makes for a row. -/
def rowCalls (filter : WordFilter) (msg : InboundMessage) (world : InjectWorld) :
    List (DisplayCall × InjectWorld) :=
  (rowDual config filter msg).elim [] fun dual => dual.made engine config.injectCategory world

theorem broadcastOne_endsWith (filter : WordFilter) (msg : InboundMessage)
    (world : InjectWorld) :
    EndsWith world ((broadcastOne engine config filter msg).run world)
      (noneStuck engine (rowCalls engine config filter msg world))
      (chatsOf engine config.injectCategory (rowCalls engine config filter msg world)) := by
  rw [broadcastOne_eq, rowCalls]
  cases rowDual config filter msg with
  | none => exact .same rfl true
  | some dual => exact dual.perform_endsWith engine config.injectCategory world

def taggedDual (action : DeferredAction) : Option DualCall :=
  let chatPrefix := localServerPrefix config
  let cleanSender := cleanSenderName action.senderName
  let cleanMessage := sanitizeMessage action.message
  if cleanMessage.isEmpty then none
  else
    let cleanGuild := sanitizeMessage action.guildName 64
    let display := applyChatFormat config.chatFormat chatPrefix cleanGuild cleanSender
      cleanMessage
    if display.2.isEmpty then none
    else
      let plain := applyChatFormatAttributed config.chatFormat chatPrefix cleanGuild
        cleanSender cleanMessage
      some
        { xboxSender := plain.1
          xboxMessage := if plain.2.isEmpty then cleanMessage else plain.2
          formattedSender := display.1
          formattedMessage := display.2
          senderPlayerUid := if action.senderUid = .nil then none else some action.senderUid }

theorem broadcastLocalTagged_eq (action : DeferredAction) :
    broadcastLocalTagged engine config action.senderName action.guildName action.message
        action.category action.senderUid =
      (taggedDual config action).elim (pure false) (DualCall.perform engine action.category) := by
  unfold broadcastLocalTagged taggedDual
  dsimp only
  split
  · rfl
  · split <;> rfl

def privateCall (action : DeferredAction) : DisplayCall :=
  ⟨ascii "PalCrosschat", action.message, action.receivers, none⟩

def actionCalls (action : DeferredAction) (world : InjectWorld) :
    List (DisplayCall × InjectWorld) :=
  match action.kind with
  | .localTagged =>
      (taggedDual config action).elim [] fun dual => dual.made engine action.category world
  | .privateChat => if action.receivers.isEmpty then [] else [(privateCall action, world)]
  | .serverNotice | .screenLog => []

theorem Silent.sameChats {α : Type} {program : InjectProgram α} (silent : Silent program) :
    Respects SameChats program :=
  silent.mono Unseen.sameChats

theorem processEvent_sameChats {call : EngineCall}
    (other : ∀ moment returned, (InjectEvent.processEvent moment call returned).chat = none) :
    Respects SameChats (processEvent engine call) :=
  .bind .get fun _ => .bind (Silent.ask _).sameChats fun _ =>
    .bind (note_sameChats (other _ _)) fun _ => .pure _

theorem showServerNotice_sameChats (noticeMessage : Bytes) :
    Respects SameChats (showServerNotice engine noticeMessage) := by
  unfold showServerNotice
  dsimp only
  refine .bind .get fun world => .ite (.pure _) (.ite (.pure _) ?_)
  refine .bind (resolveGameState_sameChats engine) fun gameState => .ite (.pure _) ?_
  refine .bind (ensureServerNoticeFunction_silent engine).sameChats fun ready => .ite (.pure _) ?_
  refine .bind (fillInitFString_silent engine _).sameChats fun notice => ?_
  refine .bind (resolveGameState_sameChats engine) fun again => .ite (.pure _) ?_
  refine .bind (processEvent_sameChats engine fun _ _ => rfl) fun returned => .ite (.pure _) ?_
  exact .bind tripInjectCircuit_sameChats fun _ => .pure _

theorem sendScreenLog_sameChats (playerController : ObjectRef) (message : Bytes) :
    Respects SameChats (sendScreenLog engine playerController message) := by
  unfold sendScreenLog
  dsimp only
  refine .bind .get fun world => .ite (.pure _) (.ite (.pure _) ?_)
  refine .bind (Silent.ask _).sameChats fun found => .ite (.pure _) ?_
  refine .bind (fillInitFString_silent engine _).sameChats fun text => ?_
  exact processEvent_sameChats engine fun _ _ => rfl

theorem chats_of_same {first second : InjectWorld} (same : SameChats first second)
    (category : Category) : second.chats = first.chats ++ chatsOf engine category [] :=
  same.trans (List.append_nil _).symm

theorem runAction_chats (action : DeferredAction) (world : InjectWorld) :
    ((runAction engine config action).run world).2.chats =
      world.chats ++ chatsOf engine action.category (actionCalls engine config action world) := by
  unfold runAction actionCalls
  cases action.kind with
  | localTagged =>
      dsimp only
      rw [broadcastLocalTagged_eq]
      cases taggedDual config action with
      | none => exact (List.append_nil _).symm
      | some dual => exact (dual.perform_endsWith engine action.category world).2
  | serverNotice => exact chats_of_same engine (showServerNotice_sameChats engine _ world) _
  | screenLog =>
      refine chats_of_same engine
        (Respects.bind (Silent.ask _).sameChats (fun answer => ?_) world) _
      rcases answer with ⟨controller, weak⟩
      cases controller with
      | none => exact .pure _
      | some controller => exact .bind (sendScreenLog_sameChats engine _ _) fun _ => .pure _
  | privateChat =>
      dsimp only
      split
      · exact (List.append_nil _).symm
      · have performed := (perform_endsWith engine action.category (privateCall action) world).2
        rw [chatsOf, List.flatMap_singleton]
        exact performed

theorem receivers_ne_nil_of_actionCalls {action : DeferredAction} {world : InjectWorld}
    {entry : DisplayCall × InjectWorld}
    (member : entry ∈ actionCalls engine config action world) : entry.1.receivers ≠ [] := by
  unfold actionCalls at member
  cases kind : action.kind with
  | localTagged =>
      rw [kind] at member
      dsimp only at member
      cases tagged : taggedDual config action with
      | none =>
          rw [tagged] at member
          exact absurd member List.not_mem_nil
      | some dual =>
          rw [tagged] at member
          exact DualCall.receivers_ne_nil engine action.category member
  | privateChat =>
      rw [kind] at member
      dsimp only at member
      split at member
      · exact absurd member List.not_mem_nil
      · rename_i someReceivers
        rw [List.mem_singleton.mp member]
        simpa [privateCall] using someReceivers
  | serverNotice =>
      rw [kind] at member
      exact absurd member List.not_mem_nil
  | screenLog =>
      rw [kind] at member
      exact absurd member List.not_mem_nil

theorem receivers_ne_nil_of_rowCalls {filter : WordFilter} {msg : InboundMessage}
    {world : InjectWorld} {entry : DisplayCall × InjectWorld}
    (member : entry ∈ rowCalls engine config filter msg world) : entry.1.receivers ≠ [] := by
  unfold rowCalls at member
  cases broadcast : rowDual config filter msg with
  | none =>
      rw [broadcast] at member
      exact absurd member List.not_mem_nil
  | some dual =>
      rw [broadcast] at member
      exact DualCall.receivers_ne_nil engine config.injectCategory member

end Lines

end ChatInject

end PalCrosschat
