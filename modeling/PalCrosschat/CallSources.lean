import PalCrosschat.GameCalls
import PalCrosschat.IssuedChats

/-! # Where engine calls come from

Every call the engine gets is made for one deferred action or for one inbound row, and it
shows texts of that action or row. -/

namespace PalCrosschat

open Bytes (ascii)

/-! ## Calls and their texts -/

/-- An allocation for the call of this moment failed. The strings and the receivers of a call
are allocated within six questions before it. -/
def Engine.AllocationFailed (engine : Engine) (moment : Nat) : Prop :=
  ∃ asked, asked < moment ∧ moment ≤ asked + 6 ∧ engine.gameMalloc asked = false

def Engine.Writes (engine : Engine) (moment : Nat) (text : Bytes) (wide : WideText) : Prop :=
  wide = engine.codec.ensureStr text ∨ wide = [] ∧ engine.AllocationFailed moment

namespace ChatInject

/-- The message a `BroadcastDisplay` call issues. It is for the receivers of the call, unless
there is no room for so many, or no memory. -/
structure DisplayCall.Shows (engine : Engine) (moment : Nat) (category : Category)
    (call : DisplayCall) (chat : PalChatMessage) : Prop where
  category : chat.category = category
  sender : engine.Writes moment call.displaySender chat.sender
  senderPlayerUId : chat.senderPlayerUId = call.senderPlayerUid.getD .nil
  message : engine.Writes moment call.message chat.message
  receivers : chat.receiverPlayerUIds = call.receivers ∨
    chat.receiverPlayerUIds = [] ∧
      (512 ≤ call.receivers.length ∨ engine.AllocationFailed moment)

/-- The messages a `BroadcastDual` issues: the formatted line, or the plain one under the
uid of its sender. -/
inductive DualCall.Shows (engine : Engine) (moment : Nat) (category : Category)
    (dual : DualCall) (chat : PalChatMessage) : Prop
  | formatted (receivers : List Guid)
      (shows : DisplayCall.Shows engine moment category
        ⟨dual.formattedSender, dual.formattedMessage, receivers, none⟩ chat)
  | plain (receivers : List Guid) (uid : Guid) (own : dual.senderPlayerUid = some uid)
      (shows : DisplayCall.Shows engine moment category
        ⟨dual.xboxSender, dual.xboxMessage, receivers, some uid⟩ chat)

end ChatInject

open ChatInject

/-- The calls that are made for a deferred action. -/
inductive DeferredAction.Causes (engine : Engine) (config : Config) (action : DeferredAction)
    (moment : Nat) : EngineCall → Prop
  | line (dual : DualCall) (chat : PalChatMessage) (kind : action.kind = .localTagged)
      (tagged : taggedDual config action = some dual)
      (shows : dual.Shows engine moment action.category chat) :
      Causes engine config action moment (.broadcastChatMessage chat)
  | serverNotice (notice : WideText) (kind : action.kind = .serverNotice)
      (writes : engine.Writes moment (sanitizeNotice action.message 512) notice) :
      Causes engine config action moment (.broadcastServerNotice notice)
  | screenLog (controller : ObjectRef) (message : WideText) (kind : action.kind = .screenLog)
      (addressed : action.controller = some controller)
      (writes : engine.Writes moment (sanitizeNotice action.message 512) message) :
      Causes engine config action moment (.sendScreenLogToClient controller message)
  | privateChat (chat : PalChatMessage) (kind : action.kind = .privateChat)
      (shows : (privateCall action).Shows engine moment action.category chat) :
      Causes engine config action moment (.broadcastChatMessage chat)

/-- The calls that are made for an inbound row. -/
inductive InboundMessage.Causes (engine : Engine) (config : Config) (filter : WordFilter)
    (item : InboundMessage) (moment : Nat) : EngineCall → Prop
  | line (dual : DualCall) (chat : PalChatMessage)
      (broadcast : rowDual config filter item = some dual)
      (shows : dual.Shows engine moment config.injectCategory chat) :
      Causes engine config filter item moment (.broadcastChatMessage chat)

/-! ## What the programs issue -/

/-- From `start` on only such calls were issued. -/
def Issues (Allowed : Nat → EngineCall → Prop) (start world : InjectWorld) : Prop :=
  ∃ added, world.inject.journal = start.inject.journal ++ added ∧
    ∀ moment call returned, .processEvent moment call returned ∈ added → Allowed moment call

section Issues

variable {Allowed : Nat → EngineCall → Prop}

instance : IsPreorder InjectWorld (Issues Allowed) where
  refl world := ⟨[], (List.append_nil _).symm, fun _ _ _ member => absurd member List.not_mem_nil⟩
  trans _ _ _ left right := by
    rcases left with ⟨leftAdded, leftGrown, leftAllowed⟩
    rcases right with ⟨rightAdded, rightGrown, rightAllowed⟩
    refine ⟨leftAdded ++ rightAdded, by rw [rightGrown, leftGrown, List.append_assoc], ?_⟩
    intro moment call returned member
    rcases List.mem_append.mp member with inLeft | inRight
    · exact leftAllowed moment call returned inLeft
    · exact rightAllowed moment call returned inRight

theorem Unseen.issues {start world : InjectWorld} (unseen : Unseen start world) :
    Issues Allowed start world :=
  ⟨[], unseen.journal.trans (List.append_nil _).symm,
    fun _ _ _ member => absurd member List.not_mem_nil⟩

theorem Issues.bind {α β : Type} {first : InjectProgram α} {second : α → InjectProgram β}
    {world : InjectWorld} (left : Respects (Issues Allowed) first)
    (right : Issues Allowed (first.run world).2
      ((second (first.run world).1).run (first.run world).2).2) :
    Issues Allowed world ((first >>= second).run world).2 :=
  trans_of (Issues Allowed) (left world) right

namespace ChatInject

theorem Silent.issues {α : Type} {program : InjectProgram α} (silent : Silent program) :
    Respects (Issues Allowed) program :=
  silent.mono Unseen.issues

theorem Emitting.issues {α : Type} {allowed : InjectEvent → Bool} {program : InjectProgram α}
    (emits : Emitting allowed program)
    (noCall : ∀ moment call returned, allowed (.processEvent moment call returned) = false) :
    Respects (Issues Allowed) program := by
  intro start
  rcases (emits start).journal with ⟨added, grown, kinds⟩
  refine ⟨added, grown, fun moment call returned member => ?_⟩
  have isAllowed := kinds _ member
  rw [noCall] at isAllowed
  cases isAllowed

variable (engine : Engine) (config : Config)

theorem resolveGameState_issues : Respects (Issues Allowed) (resolveGameState engine) :=
  have emits : Emitting InjectEvent.isTickNote (resolveGameState engine) :=
    resolveGameState_emits engine rfl
  emits.issues fun _ _ _ => rfl

theorem tripInjectCircuit_issues : Respects (Issues Allowed) tripInjectCircuit :=
  have emits : Emitting InjectEvent.isTickNote tripInjectCircuit := tripInjectCircuit_emits rfl
  emits.issues fun _ _ _ => rfl

theorem processEvent_issues {call : EngineCall} {world : InjectWorld}
    (isAllowed : Allowed world.moment call) :
    Issues Allowed world ((processEvent engine call).run world).2 := by
  refine ⟨[.processEvent world.moment call (engine.processEvent world.moment)], rfl,
    fun moment other result member => ?_⟩
  cases List.mem_singleton.mp member
  exact isAllowed

theorem processEvent_bind_issues {α : Type} {call : EngineCall} {rest : Bool → InjectProgram α}
    {world : InjectWorld} (isAllowed : Allowed world.moment call)
    (others : ∀ returned, Respects (Issues Allowed) (rest returned)) :
    Issues Allowed world ((processEvent engine call >>= rest).run world).2 :=
  trans_of (Issues Allowed) (processEvent_issues engine isAllowed) (others _ _)

/-! ### Allocations -/

def AsksWithin {α : Type} (count : Nat) (program : InjectProgram α) : Prop :=
  ∀ world : InjectWorld, world.moment ≤ (program.run world).2.moment ∧
    (program.run world).2.moment ≤ world.moment + count

namespace AsksWithin

variable {α β : Type} {count more : Nat}

theorem pure (value : α) : AsksWithin count (Pure.pure value : InjectProgram α) :=
  fun _ => ⟨Nat.le_refl _, Nat.le_add_right _ _⟩

theorem ask (question : Nat → α) : AsksWithin 1 (ChatInject.ask question) :=
  fun _ => ⟨Nat.le_succ _, Nat.le_refl _⟩

theorem updateInject (change : ChatInject → ChatInject) :
    AsksWithin 0 (ChatInject.updateInject change) :=
  fun _ => ⟨Nat.le_refl _, Nat.le_refl _⟩

theorem bind {first : InjectProgram α} {second : α → InjectProgram β}
    (left : AsksWithin count first) (right : ∀ value, AsksWithin more (second value)) :
    AsksWithin (count + more) (first >>= second) := by
  intro world
  have early := left world
  have late := right (first.run world).1 (first.run world).2
  rw [run_bind]
  constructor
  · exact Nat.le_trans early.1 late.1
  · exact Nat.le_trans late.2 (by omega)

theorem get_bind {program : InjectWorld → InjectProgram α}
    (asks : ∀ world, AsksWithin count (program world)) : AsksWithin count (get >>= program) :=
  fun world => asks world world

theorem ite {condition : Prop} [Decidable condition] {yes no : InjectProgram α}
    (whenTrue : AsksWithin count yes) (whenFalse : AsksWithin count no) :
    AsksWithin count (if condition then yes else no) := by
  split
  · exact whenTrue
  · exact whenFalse

end AsksWithin

theorem resolveGameState_asks : AsksWithin 3 (resolveGameState engine) := by
  unfold resolveGameState
  refine .get_bind fun world => @AsksWithin.bind _ _ 1 2 _ _ (.ask _) fun answer => ?_
  refine .ite (@AsksWithin.bind _ _ 0 2 _ _ (.updateInject _) fun _ => .pure _) ?_
  refine @AsksWithin.bind _ _ 0 2 _ _ (.updateInject _) fun _ => ?_
  refine @AsksWithin.bind _ _ 1 1 _ _ (.ask _) fun found => ?_
  cases found with
  | faulted =>
      refine @AsksWithin.bind _ _ 0 1 _ _ (.updateInject _) fun _ => .get_bind fun world => ?_
      refine .ite ?_ (.pure _)
      exact @AsksWithin.bind _ _ 0 1 _ _ (.updateInject _) fun _ => .pure _
  | missing => exact .pure _
  | found object =>
      refine @AsksWithin.bind _ _ 1 0 _ _ (.ask _) fun weak => .ite ?_ (.pure _)
      exact @AsksWithin.bind _ _ 0 0 _ _ (.updateInject _) fun _ => .pure _

structure Allocates {α : Type} (engine : Engine) (wanted : List α) (start : InjectWorld)
    (filled : List α × InjectWorld) : Prop where
  moment : start.moment ≤ filled.2.moment ∧ filled.2.moment ≤ start.moment + 1
  value : filled.1 = wanted ∨ filled.1 = [] ∧
    engine.gameMalloc start.moment = false ∧ filled.2.moment = start.moment + 1

theorem allocates_ask {α : Type} (wanted : List α) (world : InjectWorld) :
    Allocates engine wanted world ((do
      if ← ask engine.gameMalloc then return wanted
      else return [] : InjectProgram (List α)).run world) := by
  rw [run_bind]
  change Allocates engine wanted world ((if engine.gameMalloc world.moment = true then
    pure wanted else pure [] : InjectProgram (List α)).run
      { world with moment := world.moment + 1 })
  split
  · exact ⟨⟨Nat.le_add_right _ _, Nat.le_refl _⟩, .inl rfl⟩
  · rename_i failed
    exact ⟨⟨Nat.le_add_right _ _, Nat.le_refl _⟩,
      .inr ⟨rfl, Bool.eq_false_iff.mpr failed, rfl⟩⟩

theorem allocates_nothing {α : Type} (world : InjectWorld) :
    Allocates engine ([] : List α) world ((pure [] : InjectProgram (List α)).run world) :=
  ⟨⟨Nat.le_refl _, Nat.le_add_right _ _⟩, .inl rfl⟩

theorem fillInitFString_allocates (text : Bytes) (world : InjectWorld) :
    Allocates engine (engine.codec.ensureStr text) world
      ((fillInitFString engine text).run world) := by
  unfold fillInitFString
  dsimp only
  split
  · rename_i empty
    rw [List.isEmpty_iff.mp empty]
    exact allocates_nothing engine world
  · exact allocates_ask engine _ world

theorem fillReceivers_allocates (receivers : List Guid) (world : InjectWorld) :
    Allocates engine (if 512 ≤ receivers.length then [] else receivers) world
      ((fillReceivers engine receivers).run world) := by
  unfold fillReceivers
  cases receivers with
  | nil => exact allocates_nothing engine world
  | cons uid rest =>
      by_cases large : 512 ≤ (uid :: rest).length
      · rw [if_pos large, if_pos (by simp only [decide_eq_true large, Bool.or_true])]
        exact allocates_nothing engine world
      · rw [if_neg large, if_neg (by simpa using large)]
        exact allocates_ask engine _ world

theorem Allocates.soon {engine : Engine} {α : Type} {wanted : List α} {start : InjectWorld}
    {filled : List α × InjectWorld} (allocates : Allocates engine wanted start filled)
    {moment : Nat} (later : filled.2.moment ≤ moment) (soon : moment ≤ filled.2.moment + 5) :
    filled.1 = wanted ∨ filled.1 = [] ∧ engine.AllocationFailed moment := by
  rcases allocates.value with whole | ⟨nothing, failed, asked⟩
  · exact .inl whole
  · exact .inr ⟨nothing, start.moment, by omega, by omega, failed⟩

/-! ### Programs -/

theorem broadcastDisplay_issues {category : Category} {call : DisplayCall}
    (isAllowed : ∀ moment chat, call.Shows engine moment category chat →
      Allowed moment (.broadcastChatMessage chat)) :
    Respects (Issues Allowed) (call.perform engine category) := by
  unfold DisplayCall.perform broadcastDisplay
  refine .bind .get fun world => .ite (.pure _) ?_
  refine .bind (resolveGameState_issues engine) fun gameState => .ite (.pure _) ?_
  refine .bind (ensureBroadcastFunction_silent engine).issues fun ready => .ite (.pure _) ?_
  intro world
  -- The moments of the allocations are needed from here to the call.
  refine .bind (fillInitFString_silent engine _).issues ?_
  have sender := fillInitFString_allocates engine call.displaySender world
  generalize (fillInitFString engine call.displaySender).run world = sent at sender ⊢
  refine .bind (fillInitFString_silent engine _).issues ?_
  have text := fillInitFString_allocates engine call.message sent.2
  generalize (fillInitFString engine call.message).run sent.2 = written at text ⊢
  refine .bind (fillReceivers_silent engine _).issues ?_
  have receivers := fillReceivers_allocates engine call.receivers written.2
  generalize (fillReceivers engine call.receivers).run written.2 = uids at receivers ⊢
  refine .bind (resolveGameState_issues engine) ?_
  have again := resolveGameState_asks engine uids.2
  generalize (resolveGameState engine).run uids.2 = resolved at again ⊢
  split
  · exact refl_of (Issues Allowed) _
  · have sentBefore := text.moment
    have writtenBefore := receivers.moment
    have named : uids.1 = call.receivers ∨ uids.1 = [] ∧
        (512 ≤ call.receivers.length ∨ engine.AllocationFailed resolved.2.moment) := by
      have filled := receivers.soon again.1 (by omega)
      split at filled
      · rename_i large
        exact .inr ⟨filled.elim id And.left, .inl large⟩
      · exact filled.imp_right fun failed => ⟨failed.1, .inr failed.2⟩
    refine processEvent_bind_issues engine (isAllowed _ _ ⟨rfl, ?_, rfl, ?_, named⟩)
      fun returned => .ite (.pure _) ?_
    · exact sender.soon (by omega) (by omega)
    · exact text.soon (by omega) (by omega)
    · refine .bind (Silent.modify fun world => .audience world _).issues fun _ => ?_
      exact .bind tripInjectCircuit_issues fun _ => .pure _

theorem showServerNotice_issues {noticeMessage : Bytes}
    (isAllowed : ∀ moment notice,
      engine.Writes moment (sanitizeNotice noticeMessage 512) notice →
      Allowed moment (.broadcastServerNotice notice)) :
    Respects (Issues Allowed) (showServerNotice engine noticeMessage) := by
  unfold showServerNotice
  dsimp only
  refine .bind .get fun world => .ite (.pure _) (.ite (.pure _) ?_)
  refine .bind (resolveGameState_issues engine) fun gameState => .ite (.pure _) ?_
  refine .bind (ensureServerNoticeFunction_silent engine).issues fun ready => .ite (.pure _) ?_
  intro world
  refine .bind (fillInitFString_silent engine _).issues ?_
  have notice := fillInitFString_allocates engine (sanitizeNotice noticeMessage 512) world
  generalize (fillInitFString engine (sanitizeNotice noticeMessage 512)).run world = written
    at notice ⊢
  refine .bind (resolveGameState_issues engine) ?_
  have again := resolveGameState_asks engine written.2
  generalize (resolveGameState engine).run written.2 = resolved at again ⊢
  split
  · exact refl_of (Issues Allowed) _
  · refine processEvent_bind_issues engine (isAllowed _ _ (notice.soon again.1 (by omega)))
      fun returned => .ite (.pure _) ?_
    exact .bind tripInjectCircuit_issues fun _ => .pure _

theorem sendScreenLog_issues {controller : ObjectRef} {message : Bytes}
    (isAllowed : ∀ moment text, engine.Writes moment (sanitizeNotice message 512) text →
      Allowed moment (.sendScreenLogToClient controller text)) :
    Respects (Issues Allowed) (sendScreenLog engine controller message) := by
  unfold sendScreenLog
  dsimp only
  refine .bind .get fun world => .ite (.pure _) (.ite (.pure _) ?_)
  refine .bind (Silent.ask _).issues fun found => .ite (.pure _) ?_
  intro world
  refine .bind (fillInitFString_silent engine _).issues ?_
  have text := fillInitFString_allocates engine (sanitizeNotice message 512) world
  exact processEvent_issues engine (isAllowed _ _ (text.soon (Nat.le_refl _) (by omega)))

/-! ## What actions and rows issue -/

theorem performCalls_issues {category : Category} {calls : List DisplayCall}
    (each : ∀ call ∈ calls, Respects (Issues Allowed) (call.perform engine category)) :
    Respects (Issues Allowed) (performCalls engine category calls) := by
  induction calls with
  | nil => exact .pure _
  | cons call rest induction =>
      refine .bind (each call List.mem_cons_self) fun ok => ?_
      exact .bind (induction fun other member => each other (List.mem_cons_of_mem _ member))
        fun restOk => .pure _

theorem beforeCalls_issues (world : InjectWorld) :
    Issues Allowed world (beforeCalls engine world) := by
  have looked : Issues Allowed world (lookAround engine world).2 :=
    trans_of (Issues Allowed) ((bootstrapAudience_silent engine).issues world)
      ((snapshotAudience_silent engine).issues _)
  unfold beforeCalls
  split
  · refine trans_of (Issues Allowed) looked ⟨[.rosterEmpty], rfl, fun _ _ _ member => ?_⟩
    cases List.mem_singleton.mp member
  · exact looked

theorem DualCall.issues {category : Category} {dual : DualCall}
    (isAllowed : ∀ moment chat, dual.Shows engine moment category chat →
      Allowed moment (.broadcastChatMessage chat)) :
    Respects (Issues Allowed) (dual.perform engine category) := by
  intro world
  rw [DualCall.perform, broadcastDual_run]
  refine trans_of (Issues Allowed) (beforeCalls_issues engine world)
    (performCalls_issues engine (fun call member => ?_) _)
  rcases mem_callsFrom.mp member with ⟨-, rfl⟩ | ⟨⟨-, online⟩, rfl⟩
  · exact broadcastDisplay_issues engine fun moment chat shows =>
      isAllowed moment chat (.formatted _ shows)
  · rcases Option.isSome_iff_exists.mp online with ⟨uid, known⟩
    rw [known]
    have own := (onlineSender_eq_some.mp known).1
    exact broadcastDisplay_issues engine fun moment chat shows =>
      isAllowed moment chat (.plain _ uid own shows)

theorem broadcastLocalTagged_issues {action : DeferredAction} (kind : action.kind = .localTagged)
    (isAllowed : ∀ moment call, action.Causes engine config moment call → Allowed moment call) :
    Respects (Issues Allowed) (broadcastLocalTagged engine config action.senderName
      action.guildName action.message action.category action.senderUid) := by
  rw [broadcastLocalTagged_eq]
  cases tagged : taggedDual config action with
  | none => exact .pure _
  | some dual =>
      exact dual.issues engine fun moment chat shows =>
        isAllowed moment _ (.line dual chat kind tagged shows)

theorem broadcastOne_issues (filter : WordFilter) {item : InboundMessage}
    (isAllowed : ∀ moment call, item.Causes engine config filter moment call →
      Allowed moment call) :
    Respects (Issues Allowed) (broadcastOne engine config filter item) := by
  rw [broadcastOne_eq]
  cases broadcast : rowDual config filter item with
  | none => exact .pure _
  | some dual =>
      exact dual.issues engine fun moment chat shows =>
        isAllowed moment _ (.line dual chat broadcast shows)

theorem runAction_issues {action : DeferredAction}
    (isAllowed : ∀ moment call, action.Causes engine config moment call → Allowed moment call) :
    Respects (Issues Allowed) (runAction engine config action) := by
  unfold runAction
  cases kind : action.kind with
  | localTagged =>
      exact .bind (broadcastLocalTagged_issues engine config kind isAllowed) fun _ => .pure _
  | serverNotice =>
      refine .bind (showServerNotice_issues engine fun moment notice writes => ?_) fun _ =>
        .pure _
      exact isAllowed moment _ (.serverNotice notice kind writes)
  | screenLog =>
      refine .bind_of (fun answer => ∀ controller, answer.1 = some controller →
          action.controller = some controller) (Silent.ask _).issues
        (fun state controller resolved => eq_of_safeWeakGet resolved) fun answer addressed => ?_
      rcases answer with ⟨resolved, weak⟩
      cases resolved with
      | none => exact .pure _
      | some controller =>
          refine .bind (sendScreenLog_issues engine fun moment text writes => ?_) fun _ => .pure _
          exact isAllowed moment _
            (.screenLog controller text kind (addressed controller rfl) writes)
  | privateChat =>
      refine .ite (.pure _) (.bind ?_ fun _ => .pure _)
      exact @broadcastDisplay_issues Allowed engine action.category (privateCall action)
        fun moment chat shows => isAllowed moment _ (.privateChat chat kind shows)

end ChatInject

end Issues

/-! ## Runs -/

inductive Accounted (engine : Engine) (config : Config) (journal : List InjectEvent)
    (moment : Nat) (call : EngineCall) : Prop
  | action (action : DeferredAction) (enqueued : .enqueued action ∈ journal)
      (causes : action.Causes engine config moment call)
  | row (filter : WordFilter) (item : InboundMessage) (injecting : .injecting item ∈ journal)
      (causes : item.Causes engine config filter moment call)

theorem Accounted.later {engine : Engine} {config : Config} {journal : List InjectEvent}
    {moment : Nat} {call : EngineCall} (accounted : Accounted engine config journal moment call)
    (added : List InjectEvent) : Accounted engine config (journal ++ added) moment call := by
  cases accounted with
  | action action enqueued causes =>
      exact .action action (List.mem_append_left _ enqueued) causes
  | row filter item injecting causes =>
      exact .row filter item (List.mem_append_left _ injecting) causes

structure Sourced (engine : Engine) (config : Config) (world : InjectWorld) : Prop where
  waiting : ∀ action ∈ world.inject.deferred.items, .enqueued action ∈ world.inject.journal
  calls : ∀ moment call returned,
    .processEvent moment call returned ∈ world.inject.journal →
      Accounted engine config world.inject.journal moment call

section Sourced

variable {engine : Engine} {config : Config}

theorem Sourced.grow {start world : InjectWorld} (sourced : Sourced engine config start)
    (waiting : ∀ action ∈ world.inject.deferred.items,
      action ∈ start.inject.deferred.items ∨ .enqueued action ∈ world.inject.journal)
    (issues : Issues (Accounted engine config start.inject.journal) start world) :
    Sourced engine config world := by
  rcases issues with ⟨added, grown, allowed⟩
  constructor
  · intro action member
    rcases waiting action member with old | new
    · rw [grown]
      exact List.mem_append_left _ (sourced.waiting action old)
    · exact new
  · intro moment call returned member
    rw [grown] at member ⊢
    rcases List.mem_append.mp member with old | new
    · exact (sourced.calls moment call returned old).later added
    · exact (allowed moment call returned new).later added

theorem Sourced.note {world : InjectWorld} (sourced : Sourced engine config world)
    {event : InjectEvent} (noCall : ∀ moment call returned,
      event ≠ .processEvent moment call returned) :
    Sourced engine config { world with inject := world.inject.note event } := by
  refine sourced.grow (fun action => .inl) ⟨[event], rfl, fun moment call returned member => ?_⟩
  exact absurd (List.mem_singleton.mp member).symm (noCall moment call returned)

namespace ChatInject

variable (engine : Engine) (config : Config)

theorem flushDeferred_sourced (maxActions : Nat) :
    Keeps (Sourced engine config) (flushDeferred engine config maxActions) := by
  induction maxActions with
  | zero => exact .pure fun _ => id
  | succ remaining induction =>
      intro world sourced
      rw [flushDeferred, run_get_bind]
      cases items : world.inject.deferred.items with
      | nil => exact sourced
      | cons action rest =>
          have popped : Sourced engine config ((popDeferred action).run world).2 :=
            sourced.grow (fun other member => .inl (BoundedDeque.mem_of_mem_pop member))
              ⟨[.flushing action], rfl, fun _ _ _ member => by cases List.mem_singleton.mp member⟩
          have enqueued : .enqueued action ∈
              ((popDeferred action).run world).2.inject.journal :=
            List.mem_append_left _ (sourced.waiting action (items ▸ List.mem_cons_self))
          have emits : Emits InjectEvent.isEffect ((popDeferred action).run world).2
              ((runAction engine config action).run ((popDeferred action).run world).2).2 :=
            (emitsRules engine).actionRules.runAction config action _
          have ran : Sourced engine config
              ((runAction engine config action).run ((popDeferred action).run world).2).2 := by
            refine popped.grow (fun other member => .inl ?_) ?_
            · rw [emits.deferred] at member
              exact member
            · exact runAction_issues engine config
                (fun moment call causes => .action action enqueued causes) _
          exact induction _ ran

theorem drainInbound_sourced (filter : WordFilter) (limit : Nat) :
    Keeps (Sourced engine config) (drainInbound engine config filter limit) := by
  induction limit with
  | zero => exact .pure fun _ => id
  | succ remaining induction =>
      intro world sourced
      rw [drainInbound, run_get_bind]
      rcases world.inbound.tryPop with ⟨popped, inbound⟩
      cases popped with
      | none => exact sourced
      | some item =>
          have taken : Sourced engine config
              { world with inbound, inject := world.inject.note (.injecting item) } :=
            sourced.grow (fun other => .inl) ⟨[.injecting item], rfl,
              fun _ _ _ member => by cases List.mem_singleton.mp member⟩
          have injecting : .injecting item ∈ (world.inject.note (.injecting item)).journal :=
            List.mem_append_right _ List.mem_cons_self
          have emits : Emits InjectEvent.isEffect
              { world with inbound, inject := world.inject.note (.injecting item) }
              ((broadcastOne engine config filter item).run
                { world with inbound, inject := world.inject.note (.injecting item) }).2 :=
            (emitsRules engine).actionRules.broadcastOne config filter item _
          have shown : Sourced engine config ((broadcastOne engine config filter item).run
              { world with inbound, inject := world.inject.note (.injecting item) }).2 := by
            refine taken.grow (fun other member => .inl ?_) ?_
            · rw [emits.deferred] at member
              exact member
            · exact broadcastOne_issues engine config filter
                (fun moment call causes => .row filter item injecting causes) _
          have rest (sent : Bool) : Keeps (Sourced engine config) (do
              updateInject fun inject => inject.note (.injected item sent)
              if sent then
                drainInbound engine config filter remaining
              else
                modify fun world => { world with inbound := world.inbound.push item }) := by
            have noted : Keeps (Sourced engine config)
                (updateInject fun inject => inject.note (.injected item sent)) :=
              fun world sourced => sourced.note (by simp)
            refine .bind noted fun _ => .ite (fun _ => induction) fun _ => ?_
            exact fun world sourced => ⟨sourced.waiting, sourced.calls⟩
          exact rest _ _ shown

theorem drain_sourced (filter : WordFilter) (maxPerTick : Int) :
    Keeps (Sourced engine config) (drain engine config filter maxPerTick) := by
  have allowed : Keeps (Sourced engine config) (canInjectNow engine maxPerTick) := by
    intro world sourced
    have emits := canInjectNow_emits engine maxPerTick world
    refine sourced.grow (fun action member => .inl ?_)
      ((canInjectNow_emits engine maxPerTick).issues (fun _ _ _ => rfl) world)
    rw [emits.deferred] at member
    exact member
  refine .bind allowed fun limit => ?_
  cases limit with
  | none => exact .pure fun _ => id
  | some limit =>
      exact .bind (flushDeferred_sourced engine config _) fun _ =>
        drainInbound_sourced engine config filter limit

end ChatInject

/-- Outside of `Drain` actions are enqueued, and nothing is called for one. -/
theorem GameCalls.sourced {before after : InjectWorld} (calls : GameCalls before after)
    (sourced : Sourced engine config before) : Sourced engine config after := by
  induction calls with
  | refl => exact sourced
  | roster _ operation induction => exact ⟨induction.waiting, induction.calls⟩
  | elapse _ count induction => exact ⟨induction.waiting, induction.calls⟩
  | @enqueue world _ call induction =>
      have enqueued (action : DeferredAction) : Sourced engine config
          { world with inject := world.inject.enqueue action } := by
        refine induction.grow (fun other member => ?_)
          ⟨[.enqueued action], rfl, fun _ _ _ member => by cases List.mem_singleton.mp member⟩
        rcases BoundedDeque.mem_push member with old | new
        · exact .inl old
        · rw [new]
          exact .inr (List.mem_append_right _ List.mem_cons_self)
      cases call with
      | localTagged senderName guildName message category senderPlayerUid => exact enqueued _
      | serverNotice noticeMessage => exact enqueued _
      | screenLog playerController message =>
          cases playerController with
          | none => exact induction
          | some controller => exact enqueued _
      | privateChat receiverPlayerUid message =>
          simp only [ChatInject.enqueueCall, ChatInject.enqueuePrivateChat]
          split
          · exact induction
          · exact enqueued _

end Sourced

namespace World

variable (engine : Engine) (config : Config)

theorem step_sourced {world : World} (sourced : Sourced engine config world.mod.world)
    (input : WorldInput) : Sourced engine config (world.step engine config input).mod.world := by
  cases input with
  | hook context => exact (Mod.gameCalls_handleHook engine config world.mod context).sourced sourced
  | update =>
      exact ChatInject.drain_sourced engine config _ _ _
        ((Mod.gameCalls_beforeDrain engine world.mod).sourced sourced)
  | join playerState => exact ⟨sourced.waiting, sourced.calls⟩
  | worker input => exact ⟨sourced.waiting, sourced.calls⟩
  | remote action => exact sourced
  | webhookPopped => exact sourced

/-- Every call of a run is accounted for. -/
theorem run_sourced (compile : RegexCompiler) (startedAt : Nanoseconds)
    (players : List PlayerRow) (inputs : List WorldInput) :
    Sourced engine config (run engine config (initial compile config startedAt players)
      inputs).mod.world := by
  refine Execution.run_invariant (fun world : World => Sourced engine config world.mod.world)
    (fun world input sourced => step_sourced engine config sourced input) ?_ inputs
  constructor
  · intro action member
    cases member
  · intro moment call returned member
    cases member

end World

end PalCrosschat
