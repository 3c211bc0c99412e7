import PalCrosschat.TickBudget

/-! # A tick that spends its budget

On an engine where no call fails, whose roster bootstrap finds the senders of the
tick and a player of each kind, every line issues all the messages it may need. -/

namespace PalCrosschat

open Bytes (ascii)

namespace ChatInject

/-! ## Programs that succeed -/

/-- The circuit is closed, and something is known of the roster. -/
structure Calm (Known : AudienceTracker → Prop) (world : InjectWorld) : Prop where
  closed : world.inject.circuitOpen = false
  known : Known world.audience

def Succeeds {α : Type} (Known : AudienceTracker → Prop) (program : InjectProgram α)
    (accepts : α → Prop) : Prop :=
  Ensures (Calm Known) program fun value world => accepts value ∧ Calm Known world

namespace Succeeds

variable {α β : Type} {Known : AudienceTracker → Prop}

theorem pure {accepts : α → Prop} {value : α} (accepted : accepts value) :
    Succeeds Known (Pure.pure value) accepts :=
  fun _ calm => ⟨accepted, calm⟩

theorem bind {first : InjectProgram α} {second : α → InjectProgram β}
    {acceptsFirst : α → Prop} {accepts : β → Prop} (left : Succeeds Known first acceptsFirst)
    (right : ∀ value, acceptsFirst value → Succeeds Known (second value) accepts) :
    Succeeds Known (first >>= second) accepts := by
  intro world calm
  rcases left world calm with ⟨accepted, calmAfter⟩
  exact right _ accepted _ calmAfter

theorem ite {condition : Prop} [Decidable condition] {yes no : InjectProgram α}
    {accepts : α → Prop} (whenTrue : condition → Succeeds Known yes accepts)
    (whenFalse : ¬condition → Succeeds Known no accepts) :
    Succeeds Known (if condition then yes else no) accepts :=
  Ensures.ite whenTrue whenFalse

theorem get : Succeeds Known (MonadState.get : InjectProgram InjectWorld) (Calm Known) :=
  fun _ calm => ⟨calm, calm⟩

theorem ask (question : Nat → α) :
    Succeeds Known (ChatInject.ask question) fun answer => ∃ moment, answer = question moment :=
  fun world calm => ⟨⟨world.moment, rfl⟩, calm.closed, calm.known⟩

theorem update {change : ChatInject → ChatInject}
    (kept : ∀ inject, (change inject).circuitOpen = inject.circuitOpen) :
    Succeeds Known (updateInject change) fun _ => True :=
  fun world calm => ⟨trivial, (kept world.inject).trans calm.closed, calm.known⟩

theorem askAlways {question : Nat → Bool} (always : ∀ moment, question moment = true) :
    Succeeds Known (ChatInject.ask question) fun answer => answer = true :=
  fun world calm => ⟨always world.moment, calm.closed, calm.known⟩

end Succeeds

/-! ## An engine where no call fails -/

structure Obliging (engine : Engine) : Prop where
  finds : ∀ moment, ∃ object, engine.findGameState moment = .found object
  caches : ∀ moment, engine.cacheWeak moment = true
  broadcasts : ∀ moment, engine.findBroadcastFunction moment = true
  returns : ∀ moment, engine.processEvent moment = true

section Obliging

variable {engine : Engine} {Known : AudienceTracker → Prop}

theorem fillInitFString_succeeds (text : Bytes) :
    Succeeds Known (fillInitFString engine text) fun _ => True := by
  unfold fillInitFString
  refine .ite (fun _ => .pure trivial) fun _ => .bind (.ask _) fun _ _ => ?_
  exact .ite (fun _ => .pure trivial) fun _ => .pure trivial

theorem fillReceivers_succeeds (receivers : List Guid) :
    Succeeds Known (fillReceivers engine receivers) fun _ => True := by
  unfold fillReceivers
  refine .ite (fun _ => .pure trivial) fun _ => .bind (.ask _) fun _ _ => ?_
  exact .ite (fun _ => .pure trivial) fun _ => .pure trivial

theorem ensureServerNoticeFunction_succeeds :
    Succeeds Known (ensureServerNoticeFunction engine) fun _ => True := by
  unfold ensureServerNoticeFunction
  refine .bind .get fun world _ => .ite (fun _ => .pure trivial) fun _ => ?_
  exact .bind (.ask _) fun _ _ => .bind (.update fun _ => rfl) fun _ _ => .pure trivial

variable (obliging : Obliging engine)
include obliging

theorem resolveGameState_succeeds :
    Succeeds Known (resolveGameState engine) fun found => found.isSome = true := by
  unfold resolveGameState
  refine .bind .get fun world _ => .bind (.ask _) fun answer _ => ?_
  refine .ite (fun found => ?_) fun _ => ?_
  · exact .bind (.update fun _ => rfl) fun _ _ => .pure found
  · refine .bind (.update fun _ => rfl) fun _ _ => .bind (.ask _) fun answer asked => ?_
    rcases asked with ⟨moment, rfl⟩
    rcases obliging.finds moment with ⟨object, found⟩
    rw [found]
    refine .bind (.askAlways obliging.caches) fun cached always => ?_
    rw [if_pos always]
    exact .bind (.update fun _ => rfl) fun _ _ => .pure rfl

theorem ensureBroadcastFunction_succeeds :
    Succeeds Known (ensureBroadcastFunction engine) fun ready => ready = true := by
  unfold ensureBroadcastFunction
  refine .bind .get fun world _ => .ite (fun _ => .pure rfl) fun _ => ?_
  refine .bind (.askAlways obliging.broadcasts) fun found always => ?_
  exact .bind (.update fun _ => rfl) fun _ _ => .pure always

theorem processEvent_succeeds (call : EngineCall) :
    Succeeds Known (processEvent engine call) fun returned => returned = true := by
  refine .bind .get fun world _ => .bind (.askAlways obliging.returns) fun returned always => ?_
  exact .bind (.update fun _ => rfl) fun _ _ => .pure always

theorem broadcastDisplay_succeeds (displaySender message : Bytes) (category : Category)
    (receivers : List Guid) (senderPlayerUid : Option Guid) :
    Succeeds Known (broadcastDisplay engine displaySender message category receivers
      senderPlayerUid) fun sent => sent = true := by
  unfold broadcastDisplay
  refine .bind .get fun world _ => .ite (fun _ => .pure rfl) fun _ => ?_
  refine .bind (resolveGameState_succeeds obliging) fun gameState found => ?_
  rw [if_neg (by simpa [Option.isSome_iff_ne_none] using found)]
  refine .bind (ensureBroadcastFunction_succeeds obliging) fun ready isReady => ?_
  rw [if_neg (by simpa using isReady)]
  refine .bind (fillInitFString_succeeds _) fun sender _ => ?_
  refine .bind (fillInitFString_succeeds _) fun text _ => ?_
  refine .bind (fillReceivers_succeeds _) fun uids _ => ?_
  refine .bind (resolveGameState_succeeds obliging) fun again foundAgain => ?_
  rw [if_neg (by simpa [Option.isSome_iff_ne_none] using foundAgain)]
  refine .bind (processEvent_succeeds obliging _) fun returned ok => ?_
  rw [if_pos ok]
  exact .pure rfl

theorem showServerNotice_succeeds (noticeMessage : Bytes) :
    Succeeds Known (showServerNotice engine noticeMessage) fun _ => True := by
  unfold showServerNotice
  dsimp only
  refine .bind .get fun world _ => .ite (fun _ => .pure trivial) fun _ => ?_
  refine .ite (fun _ => .pure trivial) fun _ => ?_
  refine .bind (resolveGameState_succeeds obliging) fun gameState _ => ?_
  refine .ite (fun _ => .pure trivial) fun _ => ?_
  refine .bind ensureServerNoticeFunction_succeeds fun ready _ => ?_
  refine .ite (fun _ => .pure trivial) fun _ => ?_
  refine .bind (fillInitFString_succeeds _) fun notice _ => ?_
  refine .bind (resolveGameState_succeeds obliging) fun again _ => ?_
  refine .ite (fun _ => .pure trivial) fun _ => ?_
  refine .bind (processEvent_succeeds obliging _) fun returned ok => ?_
  rw [if_pos ok]
  exact .pure trivial

theorem sendScreenLog_succeeds (playerController : ObjectRef) (message : Bytes) :
    Succeeds Known (sendScreenLog engine playerController message) fun _ => True := by
  unfold sendScreenLog
  dsimp only
  refine .bind .get fun world _ => .ite (fun _ => .pure trivial) fun _ => ?_
  refine .ite (fun _ => .pure trivial) fun _ => .bind (.ask _) fun found _ => ?_
  refine .ite (fun _ => .pure trivial) fun _ => ?_
  refine .bind (fillInitFString_succeeds _) fun text _ => ?_
  exact fun world calm => ⟨trivial, (processEvent_succeeds obliging _ world calm).2⟩

theorem canInjectNow_succeeds (configuredMax : Int) :
    Succeeds Known (canInjectNow engine configuredMax) fun _ => True := by
  unfold canInjectNow
  refine .bind .get fun world _ => .ite (fun _ => .pure trivial) fun _ => ?_
  refine .bind (resolveGameState_succeeds obliging) fun gameState _ => ?_
  refine .ite (fun _ => .pure trivial) fun _ => ?_
  refine .bind .get fun world _ => .bind (.ask _) fun now _ => ?_
  exact .bind (.update fun _ => rfl) fun _ _ => .bind .get fun world _ => .pure trivial

/-! ## Calls -/

theorem getsThrough {call : DisplayCall} {world : InjectWorld} (calm : Calm Known world) :
    GetsThrough engine call world := by
  rcases resolveGameState_succeeds obliging world calm with ⟨resolved, calmResolved⟩
  rcases ensureBroadcastFunction_succeeds obliging _ calmResolved with ⟨ready, calmReady⟩
  rcases fillInitFString_succeeds call.displaySender _ calmReady with ⟨-, calmSender⟩
  rcases fillInitFString_succeeds call.message _ calmSender with ⟨-, calmText⟩
  rcases fillReceivers_succeeds call.receivers _ calmText with ⟨-, calmUids⟩
  exact ⟨calm.closed, resolved, ready, (resolveGameState_succeeds obliging _ calmUids).1⟩

theorem length_chatsOf_madeCalls (category : Category) (calls : List DisplayCall)
    {world : InjectWorld} (calm : Calm Known world) :
    (chatsOf engine category (madeCalls engine category calls world)).length = calls.length := by
  induction calls generalizing world with
  | nil => rfl
  | cons call rest induction =>
      have later := induction
        (broadcastDisplay_succeeds obliging call.displaySender call.message category
          call.receivers call.senderPlayerUid world calm).2
      rw [madeCalls, chatsOf, List.flatMap_cons, issuedChats,
        if_pos (getsThrough obliging calm), List.length_append, List.length_cons, Nat.add_comm]
      exact congrArg (· + 1) later

theorem performCalls_succeeds (category : Category) (calls : List DisplayCall) :
    Succeeds Known (performCalls engine category calls) fun sent => sent = true := by
  induction calls with
  | nil => exact .pure rfl
  | cons call rest induction =>
      refine .bind (broadcastDisplay_succeeds obliging _ _ _ _ _) fun ok sent => ?_
      refine .bind induction fun restOk restSent => .pure ?_
      rw [sent, restSent]
      rfl

end Obliging

/-! ## The roster of a welcoming engine -/

/-- What the `PlayerState`s of these players say. -/
def joining (players : List (Guid × Bytes)) (object : ObjectRef) : Option JoinReading :=
  players[object]?.map fun player =>
    { playerUId := some player.1, accountName := some player.2 }

/-- An engine where no call fails, at a fixed time, whose bootstrap finds these
players. -/
def welcoming (players : List (Guid × Bytes)) (now : Nanoseconds) : Engine :=
  { quietEngine with
    now _ := now
    findAllPlayerStates _ := some (List.range players.length)
    joinReading _ := joining players }

theorem welcoming_obliging (players : List (Guid × Bytes)) (now : Nanoseconds) :
    Obliging (welcoming players now) where
  finds _ := ⟨0, rfl⟩
  caches _ := rfl
  broadcasts _ := rfl
  returns _ := rfl

def settle (players : List (Guid × Bytes)) (audience : AudienceTracker) : AudienceTracker :=
  (audience.tryBootstrapOnce (some (List.range players.length)) (joining players)).present

section Welcoming

variable (players : List (Guid × Bytes)) (now : Nanoseconds)

theorem bootstrapped_upsert (audience : AudienceTracker) (playerUid : Guid)
    (platformUserId : Bytes) (playerState : Option ObjectRef) :
    (audience.upsert playerUid platformUserId playerState).bootstrapped =
      audience.bootstrapped := by
  rw [AudienceTracker.upsert]
  split <;> rfl

def welcome (joinReading : ObjectRef → Option JoinReading) (audience : AudienceTracker)
    (state : ObjectRef) : AudienceTracker :=
  match AudienceTracker.tryReadJoinIdentity (joinReading state) with
  | none => audience
  | some (uid, platform) => audience.upsert uid platform (some state)

theorem tryBootstrapOnce_fresh {audience : AudienceTracker}
    (fresh : audience.bootstrapped = false) (states : List ObjectRef)
    (joinReading : ObjectRef → Option JoinReading) :
    audience.tryBootstrapOnce (some states) joinReading =
      states.foldl (welcome joinReading) { audience with bootstrapped := true } := by
  rw [AudienceTracker.tryBootstrapOnce, fresh]
  rfl

theorem bootstrapped_foldl_admit (joinReading : ObjectRef → Option JoinReading)
    (states : List ObjectRef) (audience : AudienceTracker) :
    (states.foldl (welcome joinReading) audience).bootstrapped = audience.bootstrapped := by
  induction states generalizing audience with
  | nil => rfl
  | cons state rest induction =>
      rw [List.foldl_cons, induction, welcome]
      cases AudienceTracker.tryReadJoinIdentity (joinReading state) with
      | none => rfl
      | some identity => exact bootstrapped_upsert audience _ _ _

theorem bootstrapped_tryBootstrapOnce (audience : AudienceTracker) (states : List ObjectRef)
    (joinReading : ObjectRef → Option JoinReading) :
    (audience.tryBootstrapOnce (some states) joinReading).bootstrapped = true := by
  cases done : audience.bootstrapped with
  | true =>
      rw [AudienceTracker.tryBootstrapOnce, if_pos done]
      exact done
  | false => rw [tryBootstrapOnce_fresh done, bootstrapped_foldl_admit]

theorem bootstrapped_present (audience : AudienceTracker) :
    audience.present.bootstrapped = audience.bootstrapped := by
  simp only [AudienceTracker.present, AudienceTracker.snapshot]
  split <;> rfl

theorem deadKeys_present (audience : AudienceTracker) :
    audience.present.deadKeys (fun _ => true) = [] := by
  rw [AudienceTracker.deadKeys, List.map_eq_nil_iff, List.filter_eq_nil_iff]
  rintro ⟨key, entry⟩ member
  have found : audience.present.roster.lookup key = some entry :=
    AList.mem_lookup_iff.mpr member
  rw [AudienceTracker.present, AudienceTracker.snapshot_roster,
    AudienceTracker.lookup_pruneDead] at found
  have stays := (Option.filter_eq_some_iff.mp found).2
  cases hasWeak : entry.hasWeak <;> simp_all

theorem present_present (audience : AudienceTracker) :
    audience.present.present = audience.present := by
  have nobody := deadKeys_present audience
  rw [AudienceTracker.present, AudienceTracker.snapshot, AudienceTracker.pruneDead, nobody]
  rfl

theorem settle_settle (audience : AudienceTracker) :
    settle players (settle players audience) = settle players audience := by
  have done : (settle players audience).bootstrapped = true := by
    rw [settle, bootstrapped_present, bootstrapped_tryBootstrapOnce]
  generalize settled : settle players audience = roster at done
  rw [settle, AudienceTracker.tryBootstrapOnce, if_pos done, ← settled, settle, present_present]

/-! ## Lines -/

def SettlesAs (start : AudienceTracker) (audience : AudienceTracker) : Prop :=
  settle players audience = settle players start

variable {players now} {start : AudienceTracker} {world : InjectWorld}

theorem beforeCalls_calm (calm : Calm (SettlesAs players start) world) :
    Calm (SettlesAs players start) (beforeCalls (welcoming players now) world) := by
  have settled : SettlesAs players start (settle players world.audience) :=
    (settle_settle players world.audience).trans calm.known
  unfold beforeCalls
  split
  · exact ⟨calm.closed, settled⟩
  · exact ⟨calm.closed, settled⟩

theorem length_callsFrom_welcoming (calm : Calm (SettlesAs players start) world)
    (xboxSender xboxMessage formattedSender formattedMessage : Bytes)
    (senderPlayerUid : Option Guid) :
    (callsFrom (welcoming players now) xboxSender xboxMessage formattedSender formattedMessage
      senderPlayerUid world).length = lineNeed (settle players start) senderPlayerUid := by
  rw [callsFrom, length_dualCalls, lineNeed, ← calm.known]
  rfl

/-- A line issues what it needs. -/
theorem dual_chats (category : Category) (dual : DualCall)
    (calm : Calm (SettlesAs players start) world) :
    (chatsOf (welcoming players now) category
      (dual.made (welcoming players now) category world)).length =
        lineNeed (settle players start) dual.senderPlayerUid := by
  rw [DualCall.made, length_chatsOf_madeCalls (welcoming_obliging players now) category _
    (beforeCalls_calm calm), length_callsFrom_welcoming calm]

theorem dual_succeeds (category : Category) (dual : DualCall) :
    Succeeds (SettlesAs players start) (dual.perform (welcoming players now) category)
      fun sent => sent = true := by
  intro world calm
  rw [DualCall.perform, broadcastDual_run]
  exact performCalls_succeeds (welcoming_obliging players now) category _ _ (beforeCalls_calm calm)

section Lines

variable (players now) (config : Config) (filter : WordFilter) (start)

def Expected (dual : DualCall) : Prop :=
  lineNeed (settle players start) dual.senderPlayerUid = dualDemand start dual.senderPlayerUid

theorem runAction_succeeds (action : DeferredAction) :
    Succeeds (SettlesAs players start) (runAction (welcoming players now) config action)
      fun _ => True := by
  have obliging := welcoming_obliging players now
  unfold runAction
  cases action.kind with
  | localTagged =>
      dsimp only
      rw [broadcastLocalTagged_eq]
      have broadcast : Succeeds (SettlesAs players start) ((taggedDual config action).elim
          (pure false) (DualCall.perform (welcoming players now) action.category))
          fun _ => True := by
        cases taggedDual config action with
        | none => exact .pure trivial
        | some dual =>
            exact fun world calm => ⟨trivial, (dual_succeeds action.category dual world calm).2⟩
      exact .bind broadcast fun _ _ => .pure trivial
  | serverNotice =>
      exact .bind (showServerNotice_succeeds obliging _) fun _ _ => .pure trivial
  | screenLog =>
      refine .bind (.ask _) fun answer _ => ?_
      rcases answer with ⟨controller, weak⟩
      cases controller with
      | none => exact .pure trivial
      | some controller =>
          exact .bind (sendScreenLog_succeeds obliging _ _) fun _ _ => .pure trivial
  | privateChat =>
      refine .ite (fun _ => .pure trivial) fun _ => ?_
      exact .bind (broadcastDisplay_succeeds obliging _ _ _ _ _) fun _ _ => .pure trivial

theorem broadcastOne_succeeds (msg : InboundMessage) :
    Succeeds (SettlesAs players start)
      (broadcastOne (welcoming players now) config filter msg) fun sent => sent = true := by
  rw [broadcastOne_eq]
  cases rowDual config filter msg with
  | none => exact .pure rfl
  | some dual => exact dual_succeeds config.injectCategory dual

variable {players config filter start}

theorem runAction_length (action : DeferredAction) (calm : Calm (SettlesAs players start) world)
    (expected : ∀ dual, taggedDual config action = some dual → Expected players start dual) :
    ((runAction (welcoming players now) config action).run world).2.chats.length =
      world.chats.length + actionDemand config start action := by
  rw [runAction_chats, List.length_append]
  congr 1
  unfold actionCalls actionDemand
  cases action.kind with
  | localTagged =>
      cases tagged : taggedDual config action with
      | none => rfl
      | some dual => exact (dual_chats action.category dual calm).trans (expected dual tagged)
  | privateChat =>
      dsimp only
      split
      · rfl
      · exact length_chatsOf_madeCalls (welcoming_obliging players now) action.category
          [privateCall action] calm
  | serverNotice => rfl
  | screenLog => rfl

theorem broadcastOne_length (msg : InboundMessage) (calm : Calm (SettlesAs players start) world)
    (expected : ∀ dual, rowDual config filter msg = some dual → Expected players start dual) :
    ((broadcastOne (welcoming players now) config filter msg).run world).2.chats.length =
      world.chats.length + rowDemand config filter start msg := by
  rw [(broadcastOne_endsWith (welcoming players now) config filter msg world).2,
    List.length_append]
  congr 1
  unfold rowCalls rowDemand
  cases broadcast : rowDual config filter msg with
  | none => rfl
  | some dual =>
      exact (dual_chats config.injectCategory dual calm).trans (expected dual broadcast)

/-! ## The two loops -/

theorem flushDeferred_spends (limit : Nat) (calm : Calm (SettlesAs players start) world)
    (expected : ∀ action ∈ world.inject.deferred.items, ∀ dual,
      taggedDual config action = some dual → Expected players start dual) :
    let flushed := ((flushDeferred (welcoming players now) config limit).run world).2
    flushed.chats.length = world.chats.length +
        totalNeed (actionDemand config start) (world.inject.deferred.items.take limit) ∧
      Calm (SettlesAs players start) flushed := by
  induction limit generalizing world with
  | zero => exact ⟨rfl, calm⟩
  | succ remaining induction =>
      dsimp only
      rw [flushDeferred, run_get_bind]
      cases stored : world.inject.deferred.items with
      | nil => exact ⟨rfl, calm⟩
      | cons action rest =>
          have poppedCalm : Calm (SettlesAs players start) ((popDeferred action).run world).2 :=
            ⟨calm.closed, calm.known⟩
          have poppedChats : ((popDeferred action).run world).2.chats = world.chats :=
            note_sameChats rfl
              { world with inject := { world.inject with deferred := world.inject.deferred.pop } }
          have poppedRest : ((popDeferred action).run world).2.inject.deferred.items = rest :=
            congrArg List.tail stored
          rw [stored] at expected
          rw [run_bind, run_bind]
          generalize ((popDeferred action).run world).2 = popped at *
          have issued := runAction_length now action poppedCalm
            (expected action List.mem_cons_self)
          have ran := (runAction_succeeds players now start config action popped poppedCalm).2
          have deferred : ((runAction (welcoming players now) config action).run
              popped).2.inject.deferred = popped.inject.deferred :=
            ((emitsRules (welcoming players now)).actionRules.runAction config action
              popped).deferred
          rw [← deferred] at poppedRest
          have later := induction ran (by
            rw [poppedRest]
            exact fun other member => expected other (List.mem_cons_of_mem _ member))
          refine ⟨?_, later.2⟩
          rw [later.1, poppedRest, issued, poppedChats, List.take_succ_cons, totalNeed]
          omega

theorem drainInbound_spends (limit : Nat) (calm : Calm (SettlesAs players start) world)
    (expected : ∀ msg ∈ world.inbound.items, ∀ dual,
      rowDual config filter msg = some dual → Expected players start dual) :
    ((drainInbound (welcoming players now) config filter limit).run world).2.chats.length =
      world.chats.length +
        totalNeed (rowDemand config filter start) (world.inbound.items.take limit) := by
  induction limit generalizing world with
  | zero => rfl
  | succ remaining induction =>
      rw [drainInbound, run_get_bind]
      cases popped : world.inbound.tryPop with
      | mk item inbound =>
      cases item with
      | none =>
          have nothing : world.inbound.items = [] := by
            unfold BoundedQueue.tryPop at popped
            split at popped
            · assumption
            · cases popped
          rw [nothing]
          rfl
      | some item =>
          rcases BoundedQueue.tryPop_some (congrArg Prod.fst popped) with ⟨rest, stored, -⟩
          have restStored : inbound.items = rest := by
            have tail := BoundedQueue.items_tryPop world.inbound
            rw [popped] at tail
            rw [tail, BoundedQueue.items, stored, List.tail_cons]
          have items : world.inbound.items = item :: rest := stored
          rw [items] at expected
          let taken : InjectWorld :=
            { world with inbound, inject := world.inject.note (.injecting item) }
          have takenCalm : Calm (SettlesAs players start) taken := ⟨calm.closed, calm.known⟩
          have takenChats : taken.chats = world.chats := note_sameChats rfl { world with inbound }
          let ended := (broadcastOne (welcoming players now) config filter item).run taken
          have issued : ended.2.chats.length =
              taken.chats.length + rowDemand config filter start item :=
            broadcastOne_length now item takenCalm (expected item List.mem_cons_self)
          have sent : ended.1 = true ∧ Calm (SettlesAs players start) ended.2 :=
            broadcastOne_succeeds players now start config filter item taken takenCalm
          have queue : ended.2.inbound = inbound :=
            ((frameRules _).broadcastOne config filter item taken).inbound
          let noted : InjectWorld :=
            { ended.2 with inject := ended.2.inject.note (.injected item ended.1) }
          have notedCalm : Calm (SettlesAs players start) noted := ⟨sent.2.closed, sent.2.known⟩
          have notedChats : noted.chats = ended.2.chats := note_sameChats rfl ended.2
          have notedQueue : noted.inbound.items = rest := by
            change ended.2.inbound.items = rest
            rw [queue, restStored]
          have later := induction notedCalm (by
            rw [notedQueue]
            exact fun other member => expected other (List.mem_cons_of_mem _ member))
          change ((if ended.1 = true then
              drainInbound (welcoming players now) config filter remaining
            else modify fun world => { world with inbound := world.inbound.push item }).run
              noted).2.chats.length = _
          rw [if_pos sent.1, later, notedQueue, notedChats, issued, takenChats, items,
            List.take_succ_cons, totalNeed]
          omega

end Lines

end Welcoming

/-! ## Who is welcomed -/

/-- The player is on the roster with a `PlayerState`. -/
def Anchored (audience : AudienceTracker) (uid : Guid) (onXbox : Option Bool) : Prop :=
  ∃ entry, audience.roster.lookup (formatGuid uid) = some entry ∧
    entry.playerState.isSome = true ∧
    ∀ platform ∈ onXbox, isXboxPlatform entry.platform = platform

section Anchored

variable {audience : AudienceTracker} {uid other : Guid}

theorem anchored_upsert (nonNil : uid ≠ .nil) (platformUserId : Bytes) (state : ObjectRef) :
    Anchored (audience.upsert uid platformUserId (some state)) uid none := by
  refine ⟨audience.upserted uid platformUserId (some state), ?_, rfl, nofun⟩
  rw [AudienceTracker.upsert_roster audience platformUserId nonNil, AList.lookup_insert]

theorem anchored_upsert_platform (nonNil : uid ≠ .nil) {platformUserId : Bytes}
    (named : normalizePlatformUserId platformUserId ≠ []) (state : ObjectRef) :
    Anchored (audience.upsert uid platformUserId (some state)) uid
      (some (isXboxPlatform (normalizePlatformUserId platformUserId))) := by
  refine ⟨audience.upserted uid platformUserId (some state), ?_, rfl, ?_⟩
  · rw [AudienceTracker.upsert_roster audience platformUserId nonNil, AList.lookup_insert]
  · rintro platform ⟨⟩
    simp only [AudienceTracker.upserted]
    rw [List.isEmpty_eq_false_iff.mpr named, if_neg Bool.false_ne_true]

theorem Anchored.upsert_other {onXbox : Option Bool} (anchored : Anchored audience other onXbox)
    (different : other ≠ uid) (platformUserId : Bytes) (state : ObjectRef) :
    Anchored (audience.upsert uid platformUserId (some state)) other onXbox := by
  by_cases isNil : uid = .nil
  · rw [AudienceTracker.upsert, if_pos isNil]
    exact anchored
  · rcases anchored with ⟨entry, found, hasState, platform⟩
    refine ⟨entry, ?_, hasState, platform⟩
    have otherKey : formatGuid other ≠ formatGuid uid :=
      fun same => different (formatGuid_injective same)
    rw [AudienceTracker.upsert_roster audience platformUserId isNil,
      AList.lookup_insert_ne otherKey, found]

theorem Anchored.welcome (anchored : Anchored audience other none)
    (joinReading : ObjectRef → Option JoinReading) (state : ObjectRef) :
    Anchored (welcome joinReading audience state) other none := by
  unfold ChatInject.welcome
  cases AudienceTracker.tryReadJoinIdentity (joinReading state) with
  | none => exact anchored
  | some identity =>
      by_cases same : other = identity.1
      · rw [same]
        by_cases isNil : identity.1 = .nil
        · dsimp only
          rw [AudienceTracker.upsert, if_pos isNil, ← same]
          exact anchored
        · exact anchored_upsert isNil _ _
      · exact anchored.upsert_other same _ _

theorem Anchored.foldl_admit (anchored : Anchored audience other none)
    (joinReading : ObjectRef → Option JoinReading) (states : List ObjectRef) :
    Anchored (states.foldl (ChatInject.welcome joinReading) audience) other none := by
  induction states generalizing audience with
  | nil => exact anchored
  | cons state rest induction => exact induction (anchored.welcome joinReading state)

theorem anchored_of_mem {joinReading : ObjectRef → Option JoinReading} {states : List ObjectRef}
    {state : ObjectRef} (member : state ∈ states) (nonNil : uid ≠ .nil) {platform : Bytes}
    (identity : AudienceTracker.tryReadJoinIdentity (joinReading state) = some (uid, platform)) :
    Anchored (states.foldl (ChatInject.welcome joinReading) audience) uid none := by
  induction states generalizing audience with
  | nil => cases member
  | cons first rest induction =>
      rcases List.mem_cons.mp member with rfl | later
      · have entered : Anchored (ChatInject.welcome joinReading audience state) uid none := by
          unfold ChatInject.welcome
          rw [identity]
          exact anchored_upsert nonNil platform state
        exact entered.foldl_admit joinReading rest
      · exact induction later

end Anchored

def guests (senders : List Guid) : List (Guid × Bytes) :=
  senders.map (fun uid => (uid, [])) ++ [(⟨1, 0, 0, 0⟩, ascii "gdk_1"), (⟨2, 0, 0, 0⟩, ascii "steam_1")]

section Guests

variable {audience : AudienceTracker} (senders : List Guid)

theorem joining_sender {index : Nat} {uid : Guid} (found : senders[index]? = some uid) :
    joining (guests senders) index = some { playerUId := some uid, accountName := some [] } := by
  have inside : index < (senders.map fun uid => (uid, ([] : Bytes))).length := by
    rw [List.length_map]
    exact (List.getElem?_eq_some_iff.mp found).1
  rw [joining, guests, List.getElem?_append_left inside, List.getElem?_map, found]
  rfl

theorem joining_guest (index : Nat) :
    joining (guests senders) (senders.length + index) =
      ([(⟨1, 0, 0, 0⟩, ascii "gdk_1"), (⟨2, 0, 0, 0⟩, ascii "steam_1")] :
        List (Guid × Bytes))[index]?.map fun player =>
          { playerUId := some player.1, accountName := some player.2 } := by
  rw [joining, guests, List.getElem?_append_right (by simp)]
  simp

theorem sender_anchored {uid : Guid} (member : uid ∈ senders) (nonNil : uid ≠ .nil) :
    Anchored ((List.range (guests senders).length).foldl (welcome (joining (guests senders)))
      audience) uid none := by
  rcases List.getElem?_of_mem member with ⟨index, found⟩
  have inside := (List.getElem?_eq_some_iff.mp found).1
  have inRange : index ∈ List.range (guests senders).length := by
    rw [List.mem_range, guests, List.length_append, List.length_map]
    omega
  have identity : AudienceTracker.tryReadJoinIdentity (joining (guests senders) index) =
      some (uid, []) := by
    rw [joining_sender senders found, AudienceTracker.tryReadJoinIdentity]
    simp only [if_neg nonNil]
    rfl
  exact anchored_of_mem inRange nonNil identity

theorem guests_anchored :
    let audience := (List.range (guests senders).length).foldl
      (welcome (joining (guests senders))) audience
    Anchored audience ⟨1, 0, 0, 0⟩ (some true) ∧ Anchored audience ⟨2, 0, 0, 0⟩ (some false) := by
  have count : (guests senders).length = senders.length + 1 + 1 := by simp [guests]
  have first : AudienceTracker.tryReadJoinIdentity (joining (guests senders) senders.length) =
      some (⟨1, 0, 0, 0⟩, ascii "gdk_1") := by
    rw [show senders.length = senders.length + 0 by rfl, joining_guest senders 0]
    decide
  have second :
      AudienceTracker.tryReadJoinIdentity (joining (guests senders) (senders.length + 1)) =
      some (⟨2, 0, 0, 0⟩, ascii "steam_1") := by
    rw [joining_guest senders 1]
    decide
  dsimp only
  rw [count, List.range_succ, List.range_succ, List.foldl_append, List.foldl_append,
    List.foldl_cons, List.foldl_nil, List.foldl_cons, List.foldl_nil]
  generalize (List.range senders.length).foldl (welcome (joining (guests senders))) audience =
    before
  rw [welcome, second, welcome, first]
  have xbox : isXboxPlatform (normalizePlatformUserId (ascii "gdk_1")) = true := by decide
  have steam : isXboxPlatform (normalizePlatformUserId (ascii "steam_1")) = false := by decide
  rw [← xbox, ← steam]
  constructor
  · apply Anchored.upsert_other _ (by decide)
    exact anchored_upsert_platform (by decide) (by decide) _
  · exact anchored_upsert_platform (by decide) (by decide) _

end Guests

/-! ## The tick -/

theorem expected_guests {start : AudienceTracker} (wellFormed : start.WellFormed)
    {senders : List Guid} {dual : DualCall}
    (listed : ∀ uid, dual.senderPlayerUid = some uid → uid ∈ senders) :
    Expected (guests senders) start dual := by
  unfold Expected dualDemand settle
  cases done : start.bootstrapped with
  | true => rw [if_pos rfl, AudienceTracker.tryBootstrapOnce, if_pos done]
  | false =>
      have seeded := (AudienceTracker.tryBootstrapOnce_entered start
        (some (List.range (guests senders).length)) (joining (guests senders))).wellFormed
          wellFormed
      have boot := tryBootstrapOnce_fresh done (List.range (guests senders).length)
        (joining (guests senders))
      have anchored : ∀ uid ∈ senders, uid ≠ .nil → Anchored
          (start.tryBootstrapOnce (some (List.range (guests senders).length))
            (joining (guests senders))) uid none := by
        rw [boot]
        exact fun uid => sender_anchored senders
      have both : Anchored (start.tryBootstrapOnce (some (List.range (guests senders).length))
            (joining (guests senders))) ⟨1, 0, 0, 0⟩ (some true) ∧
          Anchored (start.tryBootstrapOnce (some (List.range (guests senders).length))
            (joining (guests senders))) ⟨2, 0, 0, 0⟩ (some false) := by
        rw [boot]
        exact guests_anchored senders
      generalize start.tryBootstrapOnce (some (List.range (guests senders).length))
        (joining (guests senders)) = roster at seeded anchored both
      have wellFormedPresent : roster.present.WellFormed := seeded.snapshot _
      have present : ∀ {uid onXbox}, Anchored roster uid onXbox → ∃ entry,
          roster.present.roster.lookup (formatGuid uid) = some entry ∧
            ∀ platform ∈ onXbox, isXboxPlatform entry.platform = platform := by
        rintro uid onXbox ⟨entry, found, hasState, platform⟩
        refine ⟨entry, ?_, platform⟩
        rw [mem_present seeded, Option.filter_eq_some_iff]
        refine ⟨found, ?_⟩
        rcases Option.isSome_iff_exists.mp hasState with ⟨object, state⟩
        rw [state]
        rfl
      rcases present both.1 with ⟨xboxEntry, xboxFound, onXbox⟩
      rcases present both.2 with ⟨otherEntry, otherFound, notOnXbox⟩
      have xbox : roster.present.xbox ≠ [] := List.ne_nil_of_mem
        (wellFormedPresent.mem_xbox.mpr ⟨xboxEntry, xboxFound, onXbox true rfl⟩)
      have others : roster.present.others ≠ [] := List.ne_nil_of_mem
        (wellFormedPresent.mem_others.mpr ⟨otherEntry, otherFound, notOnXbox false rfl⟩)
      have online : dual.senderPlayerUid.filter roster.present.isOnlinePlayerUid =
          dual.senderPlayerUid.filter fun uid => uid ≠ .nil := by
        cases sender : dual.senderPlayerUid with
        | none => rfl
        | some uid =>
            by_cases isNil : uid = .nil
            · simp [AudienceTracker.isOnlinePlayerUid, Option.filter_some, isNil]
            · rcases present (anchored uid (listed uid sender) isNil) with ⟨entry, found, -⟩
              have stored : formatGuid uid ∈ roster.present.roster :=
                AList.lookup_isSome.mp (by rw [found]; rfl)
              simp [AudienceTracker.isOnlinePlayerUid, Option.filter_some, isNil, stored]
      rw [if_neg Bool.false_ne_true, lineNeed, List.isEmpty_eq_false_iff.mpr xbox,
        List.isEmpty_eq_false_iff.mpr others, online, if_neg Bool.false_ne_true, Bool.false_or]

section Tick

variable (config : Config) (filter : WordFilter) (world : InjectWorld)

def tickSenders : List Guid :=
  world.inject.deferred.items.filterMap (fun action =>
      (taggedDual config action).bind DualCall.senderPlayerUid) ++
    world.inbound.items.filterMap fun msg =>
      (rowDual config filter msg).bind DualCall.senderPlayerUid

def hostEngine (now : Nanoseconds) : Engine :=
  welcoming (guests (tickSenders config filter world)) now

theorem hostEngine_obliging (now : Nanoseconds) :
    Obliging (hostEngine config filter world now) :=
  welcoming_obliging _ now

variable {world}

theorem sinceReady_hostEngine (isClosed : world.inject.circuitOpen = false)
    (ready : world.inject.worldReadyAt ≠ 0) (elapsed : Nanoseconds) :
    sinceReady (hostEngine config filter world (world.inject.worldReadyAt + elapsed)) world =
      elapsed := by
  have readyAt : ((resolveGameState (hostEngine config filter world
      (world.inject.worldReadyAt + elapsed))).run world).2.inject.worldReadyAt =
        world.inject.worldReadyAt := by
    rcases resolveGameState_quiet _ isClosed world (.refl world) with quiet | ⟨-, tripped⟩
    · exact quiet.readyAt
    · exact tripped.readyAt
  rw [sinceReady, readyAt, if_neg ready]
  change world.inject.worldReadyAt + elapsed - world.inject.worldReadyAt = elapsed
  rw [Int.add_comm]
  exact Int.add_sub_cancel _ _

theorem allowed_hostEngine {maxPerTick : Int} (isClosed : world.inject.circuitOpen = false)
    (ready : world.inject.worldReadyAt ≠ 0) {elapsed : Nanoseconds} {limit : Nat}
    (limited : tickLimit maxPerTick elapsed = some limit) :
    ((canInjectNow (hostEngine config filter world (world.inject.worldReadyAt + elapsed))
      maxPerTick).run world).1 = some limit := by
  have since := sinceReady_hostEngine config filter isClosed ready elapsed
  have obliging := hostEngine_obliging config filter world (world.inject.worldReadyAt + elapsed)
  have calm : Calm (fun _ => True) world := ⟨isClosed, trivial⟩
  have found := (resolveGameState_succeeds obliging world calm).1
  rw [canInjectNow_fst, isClosed, if_neg Bool.false_ne_true,
    if_neg (by simpa [Option.isSome_iff_ne_none] using found), since, limited]

/-- Every action and every row of the tick gets what it needs. -/
theorem drain_spends (wellFormed : world.audience.WellFormed) {maxPerTick : Int} {limit : Nat}
    (isClosed : world.inject.circuitOpen = false) (positive : 0 < limit) {now : Nanoseconds}
    (allowed : ((canInjectNow (hostEngine config filter world now) maxPerTick).run world).1 =
      some limit) :
    ((drain (hostEngine config filter world now) config filter maxPerTick).run
      world).2.chats.length = world.chats.length + tickDemand config filter world limit := by
  have actions : ∀ action ∈ world.inject.deferred.items, ∀ dual,
      taggedDual config action = some dual →
        Expected (guests (tickSenders config filter world)) world.audience dual := by
    intro action member dual tagged
    apply expected_guests wellFormed
    intro uid sender
    exact List.mem_append_left _
      (List.mem_filterMap.mpr ⟨action, member, by rw [tagged]; exact sender⟩)
  have rows : ∀ msg ∈ world.inbound.items, ∀ dual, rowDual config filter msg = some dual →
      Expected (guests (tickSenders config filter world)) world.audience dual := by
    intro msg member dual broadcast
    apply expected_guests wellFormed
    intro uid sender
    exact List.mem_append_right _
      (List.mem_filterMap.mpr ⟨msg, member, by rw [broadcast]; exact sender⟩)
  have calm : Calm (SettlesAs (guests (tickSenders config filter world)) world.audience) world :=
    ⟨isClosed, rfl⟩
  have begun := canInjectNow_sameChats (hostEngine config filter world now) maxPerTick world
  have deferred : ((canInjectNow (hostEngine config filter world now)
      maxPerTick).run world).2.inject.deferred = world.inject.deferred :=
    (canInjectNow_emits _ maxPerTick world).deferred
  have inbound := (canInjectNow_frame (hostEngine config filter world now) maxPerTick
    world).inbound
  have readyCalm := (canInjectNow_succeeds (hostEngine_obliging config filter world now) maxPerTick
    world calm).2
  rw [drain_of_some positive allowed]
  unfold hostEngine at *
  generalize ((canInjectNow (welcoming (guests (tickSenders config filter world)) now)
    maxPerTick).run world).2 = begin at *
  rw [← deferred] at actions
  have flushed := flushDeferred_spends now limit readyCalm actions
  have flushedInbound := ((fieldFrame (welcoming (guests (tickSenders config filter world))
    now)).flushDeferred config limit begin).inbound
  rw [← inbound, ← flushedInbound] at rows
  have drained := drainInbound_spends now limit flushed.2 rows
  rw [drained, flushed.1, flushedInbound, inbound, deferred, begun, tickDemand, Nat.add_assoc]

theorem fitsBudget_of_withinBudget (wellFormed : world.audience.WellFormed) {maxPerTick : Int}
    (positive : 1 ≤ maxPerTick) (within : WithinBudget config filter maxPerTick world) :
    FitsBudget config filter maxPerTick world := by
  cases isClosed : world.inject.circuitOpen with
  | true => exact .inl isClosed
  | false =>
      by_cases ready : world.inject.worldReadyAt = 0
      · exact .inr (.inl ready)
      have room : ∀ elapsed limit, tickLimit maxPerTick elapsed = some limit → 0 < limit →
          tickDemand config filter world limit ≤ limit := by
        intro elapsed limit limited some
        have allowed := allowed_hostEngine config filter isClosed ready limited
        have spent := drain_spends config filter wellFormed isClosed some allowed
        have kept := within
          (hostEngine config filter world (world.inject.worldReadyAt + elapsed))
        rw [← (limit_eq_tickBudget positive allowed).1] at kept
        omega
      have full : tickLimit maxPerTick kInjectRamp = some maxPerTick.toNat := by
        rw [tickLimit, if_neg (by decide), if_neg (by decide), if_pos (by omega)]
      have ramp : tickLimit maxPerTick kInjectWarmup = some 1 := by
        rw [tickLimit, if_neg (by decide), if_pos (by decide)]
      exact .inr (.inr ⟨room _ _ ramp Nat.one_pos, room _ _ full (by omega)⟩)

end Tick

/-- From every roster the tracker can have: a tick keeps within its budget on every
engine exactly when its actions and rows fit in it. -/
theorem withinBudget_iff (config : Config) (filter : WordFilter) {maxPerTick : Int}
    (positive : 1 ≤ maxPerTick) (operations : List AudienceTracker.Operation)
    (start : InjectWorld) :
    WithinBudget config filter maxPerTick
        { start with audience := AudienceTracker.run operations } ↔
      FitsBudget config filter maxPerTick
        { start with audience := AudienceTracker.run operations } := by
  have wellFormed := AudienceTracker.wellFormed_run operations
  constructor
  · exact fitsBudget_of_withinBudget config filter wellFormed positive
  · exact withinBudget_of_fitsBudget wellFormed positive

def notice : DeferredAction where
  kind := .privateChat
  message := ascii "muted"
  receivers := [⟨7, 0, 0, 0⟩]
  category := chatCategoryGlobal

/-- A tick with this many notices and one row of the bot, while the player with uid
7 is online. -/
def busyTick (notices : Nat) : InjectWorld where
  inject := { worldReadyAt := 1, deferred := (List.replicate notices notice).foldl .push .empty }
  inbound := .push .empty
    { id := 1
      origin := ascii "discord"
      senderName := ascii "Alice"
      senderId := []
      guildName := []
      message := ascii "hello" }

def steamJoin : List AudienceTracker.Operation :=
  [.upsert ⟨7, 0, 0, 0⟩ (ascii "steam_7") 1, .tryBootstrapOnce none fun _ => none]

theorem withinBudget_oneRow :
    WithinBudget plainConfig (.ofConfig (fun _ => none) plainConfig) 5
      { busyTick 0 with audience := AudienceTracker.run steamJoin } :=
  (withinBudget_iff plainConfig (.ofConfig (fun _ => none) plainConfig) (by decide) steamJoin
    (busyTick 0)).mpr (by decide +kernel)

/-- Five notices and a row are six messages in a tick that may issue five. -/
theorem withinBudget_fails :
    ¬WithinBudget plainConfig (.ofConfig (fun _ => none) plainConfig) 5
      { busyTick 5 with audience := AudienceTracker.run steamJoin } := by
  intro within
  have kept := within { quietEngine with now := fun _ => 100 * nanosecondsPerSecond }
  revert kept
  decide +kernel

end ChatInject

end PalCrosschat
