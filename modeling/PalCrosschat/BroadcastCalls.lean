import PalCrosschat.BroadcastEffects
import PalCrosschat.Roster

/-! # The calls of a broadcast

`BroadcastDual` is a list of `BroadcastDisplay` calls that depends on the roster
alone, and each of these issues at most one `BroadcastChatMessage`. -/

namespace PalCrosschat

/-! ## Issued messages -/

def InjectEvent.chat : InjectEvent → Option PalChatMessage
  | .processEvent _ (.broadcastChatMessage chat) _ => some chat
  | _ => none

/-- The `FPalChatMessage`s issued so far, oldest first. -/
def InjectWorld.chats (world : InjectWorld) : List PalChatMessage :=
  world.inject.journal.filterMap InjectEvent.chat

def SameChats (start world : InjectWorld) : Prop := world.chats = start.chats

instance : IsPreorder InjectWorld SameChats where
  refl _ := rfl
  trans _ _ _ left right := right.trans left

theorem Unseen.sameChats {start world : InjectWorld} (unseen : Unseen start world) :
    SameChats start world :=
  congrArg (List.filterMap InjectEvent.chat) unseen.journal

namespace ChatInject

theorem note_sameChats {event : InjectEvent} (silent : event.chat = none) :
    Respects SameChats (updateInject fun inject => inject.note event) := by
  intro world
  change List.filterMap InjectEvent.chat (world.inject.journal ++ [event]) = world.chats
  rw [List.filterMap_append, List.filterMap_cons_none silent, List.filterMap_nil,
    List.append_nil, InjectWorld.chats]

theorem tripInjectCircuit_sameChats : Respects SameChats tripInjectCircuit := by
  intro world
  cases isOpen : world.inject.circuitOpen with
  | true =>
      have unchanged : (tripInjectCircuit.run world).2 = world := by
        change { world with inject := if world.inject.circuitOpen then world.inject else _ } = _
        rw [isOpen]
        rfl
      rw [unchanged]
      exact refl_of SameChats world
  | false =>
      rw [tripInjectCircuit_run isOpen]
      exact note_sameChats rfl world

section Programs

variable (engine : Engine)

theorem resolveGameState_sameChats : Respects SameChats (resolveGameState engine) := by
  intro world
  have emits : Emitting InjectEvent.isTickNote (resolveGameState engine) :=
    resolveGameState_emits engine rfl
  rcases (emits world).journal with ⟨added, grown, notes⟩
  have silent : added.filterMap InjectEvent.chat = [] := by
    apply List.filterMap_eq_nil_iff.mpr
    intro event member
    have isNote := notes event member
    cases event <;> first | rfl | cases isNote
  change List.filterMap InjectEvent.chat _ = world.chats
  rw [grown, List.filterMap_append, silent, List.append_nil, InjectWorld.chats]

/-! ## One call -/

/-- The parameters `BroadcastDisplay` fills in before its second look at the GameState,
and the world there. -/
def fillParams (displaySender message : Bytes) (receivers : List Guid)
    (world : InjectWorld) : (WideText × WideText × List Guid) × InjectWorld :=
  let ready := (ensureBroadcastFunction engine).run ((resolveGameState engine).run world).2
  let sender := (fillInitFString engine displaySender).run ready.2
  let text := (fillInitFString engine message).run sender.2
  let uids := (fillReceivers engine receivers).run text.2
  ((sender.1, text.1, uids.1), uids.2)

def filledChat (displaySender message : Bytes) (category : Category)
    (receivers : List Guid) (senderPlayerUid : Option Guid) (world : InjectWorld) :
    PalChatMessage :=
  let params := (fillParams engine displaySender message receivers world).1
  { category
    sender := params.1
    senderPlayerUId := senderPlayerUid.getD .nil
    message := params.2.1
    receiverPlayerUIds := params.2.2 }

/-- A program ends with a value and has added messages to those of `start`. -/
def EndsWith {α : Type} (start : InjectWorld) (ending : α × InjectWorld) (value : α)
    (added : List PalChatMessage) : Prop :=
  ending.1 = value ∧ ending.2.chats = start.chats ++ added

theorem EndsWith.same {start world : InjectWorld} (same : SameChats start world) (value : Bool) :
    EndsWith start (value, world) value [] :=
  ⟨rfl, same.trans (List.append_nil _).symm⟩

theorem processEvent_chats (chat : PalChatMessage) (world : InjectWorld) :
    ((processEvent engine (.broadcastChatMessage chat)).run world).2.chats =
      world.chats ++ [chat] := by
  rw [processEvent_run]
  change List.filterMap InjectEvent.chat (world.inject.journal ++ [_]) = _
  rw [List.filterMap_append]
  rfl

theorem fillParams_sameChats (displaySender message : Bytes) (receivers : List Guid)
    (world : InjectWorld) :
    SameChats world (fillParams engine displaySender message receivers world).2 := by
  refine trans_of SameChats (resolveGameState_sameChats engine world) ?_
  refine trans_of SameChats (ensureBroadcastFunction_silent engine _).sameChats ?_
  refine trans_of SameChats (fillInitFString_silent engine displaySender _).sameChats ?_
  refine trans_of SameChats (fillInitFString_silent engine message _).sameChats ?_
  exact (fillReceivers_silent engine receivers _).sameChats

section Display

variable (displaySender message : Bytes) (category : Category) (receivers : List Guid)
  (senderPlayerUid : Option Guid) (world : InjectWorld)

theorem broadcastDisplay_open (isOpen : world.inject.circuitOpen = true) :
    EndsWith world ((broadcastDisplay engine displaySender message category receivers
      senderPlayerUid).run world) true [] := by
  rw [broadcastDisplay, run_get_bind, if_pos isOpen]
  exact .same rfl true

theorem broadcastDisplay_stuck (isClosed : world.inject.circuitOpen = false)
    (stuck : ¬DisplayReaches engine displaySender message receivers world) :
    EndsWith world ((broadcastDisplay engine displaySender message category receivers
      senderPlayerUid).run world) false [] := by
  rw [broadcastDisplay, run_get_bind, if_neg (by simp [isClosed]), run_bind]
  have resolvedSame := resolveGameState_sameChats engine world
  by_cases noState : ((resolveGameState engine).run world).1.isNone = true
  · rw [if_pos noState]
    exact .same resolvedSame false
  rw [if_neg noState, run_bind]
  by_cases notReady : (!((ensureBroadcastFunction engine).run
      ((resolveGameState engine).run world).2).1) = true
  · rw [if_pos notReady]
    exact .same (trans_of SameChats resolvedSame
      (ensureBroadcastFunction_silent engine _).sameChats) false
  rw [if_neg notReady, run_bind, run_bind, run_bind, run_bind]
  have filledSame := fillParams_sameChats engine displaySender message receivers world
  have againSame := trans_of SameChats filledSame (resolveGameState_sameChats engine _)
  have gone : ((resolveGameState engine).run
      (fillParams engine displaySender message receivers world).2).1.isNone = true := by
    by_contra found
    have again : ((resolveGameState engine).run
        (fillParams engine displaySender message receivers world).2).1.isSome = true := by
      simpa [Option.isSome_iff_ne_none] using found
    exact stuck ⟨isClosed, by simpa [Option.isSome_iff_ne_none] using noState,
      by simpa using notReady, again⟩
  change EndsWith world ((if ((resolveGameState engine).run
    (fillParams engine displaySender message receivers world).2).1.isNone = true then _
    else _ : InjectProgram Bool).run _) false []
  rw [if_pos gone]
  exact .same againSame false

/-- A call that gets through issues its message and counts as sent. -/
theorem broadcastDisplay_reached
    (reaches : DisplayReaches engine displaySender message receivers world) :
    EndsWith world ((broadcastDisplay engine displaySender message category receivers
      senderPlayerUid).run world) true
      [filledChat engine displaySender message category receivers senderPlayerUid world] := by
  rcases reaches with ⟨isClosed, resolved, ready, again⟩
  rw [broadcastDisplay, run_get_bind, if_neg (by simp [isClosed]), run_bind,
    if_neg (by simpa [Option.isSome_iff_ne_none] using resolved), run_bind,
    if_neg (by simpa using ready), run_bind, run_bind, run_bind, run_bind,
    if_neg (by simpa [Option.isSome_iff_ne_none] using again), run_bind]
  have againSame := trans_of SameChats
    (fillParams_sameChats engine displaySender message receivers world)
    (resolveGameState_sameChats engine _)
  have issued := processEvent_chats engine
    (filledChat engine displaySender message category receivers senderPlayerUid world)
    ((resolveGameState engine).run
      (fillParams engine displaySender message receivers world).2).2
  rw [againSame] at issued
  generalize called : (processEvent engine _).run _ = ending
  change (processEvent engine (.broadcastChatMessage
    (filledChat engine displaySender message category receivers senderPlayerUid world))).run
    ((resolveGameState engine).run
      (fillParams engine displaySender message receivers world).2).2 = ending at called
  rw [called] at issued
  rcases ending with ⟨returned, world₁⟩
  cases returned with
  | true => exact ⟨rfl, issued⟩
  | false =>
      -- A fault opens the circuit; the line is given up.
      refine ⟨rfl, Eq.trans ?_ issued⟩
      exact tripInjectCircuit_sameChats _

end Display

/-! ## The calls of `BroadcastDual` -/

end Programs

/-- The arguments of a `BroadcastDisplay` call, the category apart. -/
structure DisplayCall where
  displaySender : Bytes
  message : Bytes
  receivers : List Guid
  senderPlayerUid : Option Guid
deriving DecidableEq, Repr

def DisplayCall.perform (engine : Engine) (category : Category) (call : DisplayCall) :
    InjectProgram Bool :=
  broadcastDisplay engine call.displaySender call.message category call.receivers
    call.senderPlayerUid

/-- Calls in a row. All of them are made; together they succeed when each does. -/
def performCalls (engine : Engine) (category : Category) : List DisplayCall → InjectProgram Bool
  | [] => return true
  | call :: rest => do
      let ok ← call.perform engine category
      let restOk ← performCalls engine category rest
      return ok && restOk

/-- The formatted line goes to the others, the plain line of a sender who is online to
the Xbox players. -/
def dualCalls (xboxSender xboxMessage formattedSender formattedMessage : Bytes)
    (xbox others : List Guid) (xboxUid : Option Guid) : List DisplayCall :=
  (if others.isEmpty then []
    else [⟨formattedSender, formattedMessage, others, none⟩]) ++
  (if xbox.isEmpty || xboxUid.isNone then []
    else [⟨xboxSender, xboxMessage, xbox, xboxUid⟩])

section Dual

variable (engine : Engine)
  (xboxSender xboxMessage formattedSender formattedMessage : Bytes) (category : Category)
  (senderPlayerUid : Option Guid)

/-- The bootstrap and the snapshot of a `BroadcastDual`: both lists, and the world
after that. -/
def lookAround (world : InjectWorld) : (List Guid × List Guid) × InjectWorld :=
  (snapshotAudience engine).run ((bootstrapAudience engine).run world).2

def onlineSender (world : InjectWorld) : Option Guid :=
  senderPlayerUid.filter (lookAround engine world).2.audience.isOnlinePlayerUid

/-- The calls a `BroadcastDual` makes from a world on. -/
def callsFrom (world : InjectWorld) : List DisplayCall :=
  dualCalls xboxSender xboxMessage formattedSender formattedMessage
    (lookAround engine world).1.1 (lookAround engine world).1.2
    (onlineSender engine senderPlayerUid world)

/-- The world in which the first call is made. An empty roster leaves a note. -/
def beforeCalls (world : InjectWorld) : InjectWorld :=
  if (lookAround engine world).1.1.isEmpty && (lookAround engine world).1.2.isEmpty then
    ((updateInject fun inject => inject.note .rosterEmpty).run (lookAround engine world).2).2
  else (lookAround engine world).2

theorem performCalls_cons (call : DisplayCall) (rest : List DisplayCall)
    (world : InjectWorld) :
    (performCalls engine category (call :: rest)).run world =
      (((call.perform engine category).run world).1 &&
        ((performCalls engine category rest).run
          ((call.perform engine category).run world).2).1,
        ((performCalls engine category rest).run
          ((call.perform engine category).run world).2).2) := rfl

theorem performCalls_singleton (call : DisplayCall) (world : InjectWorld) :
    (performCalls engine category [call]).run world =
      (call.perform engine category).run world := by
  rw [performCalls_cons]
  exact congrArg (Prod.mk · _) (Bool.and_true _)

/-- `BroadcastDual` makes exactly these calls. -/
theorem broadcastDual_run (world : InjectWorld) :
    (broadcastDual engine xboxSender xboxMessage formattedSender formattedMessage category
      senderPlayerUid).run world =
    (performCalls engine category (callsFrom engine xboxSender xboxMessage formattedSender
      formattedMessage senderPlayerUid world)).run (beforeCalls engine world) := by
  unfold broadcastDual callsFrom onlineSender beforeCalls lookAround
  rw [run_bind, run_bind, run_get_bind]
  generalize (snapshotAudience engine).run ((bootstrapAudience engine).run world).2 = seen
  rcases seen with ⟨⟨xbox, others⟩, start⟩
  dsimp only
  generalize senderPlayerUid.filter start.audience.isOnlinePlayerUid = xboxUid
  cases xbox with
  | nil =>
      cases others with
      | nil => rfl
      | cons uid rest =>
          exact (performCalls_singleton engine category ⟨_, _, uid :: rest, none⟩ start).symm
  | cons gdk gdks =>
      cases others with
      | nil =>
          cases xboxUid with
          | none => rfl
          | some sender =>
              refine Eq.trans ?_ (performCalls_singleton engine category
                ⟨xboxSender, xboxMessage, gdk :: gdks, some sender⟩ start).symm
              rfl
      | cons uid rest =>
          cases xboxUid with
          | none => rfl
          | some sender =>
              refine Eq.trans ?_ (performCalls_cons engine category
                ⟨formattedSender, formattedMessage, uid :: rest, none⟩ [_] start).symm
              rw [performCalls_singleton engine category
                ⟨xboxSender, xboxMessage, gdk :: gdks, some sender⟩]
              rfl

end Dual

end ChatInject

end PalCrosschat
