import PalCrosschat.DrainSteps
import PalCrosschat.IssuedChats

/-! # Lines stay targeted

Every `BroadcastDisplay` call of the mod has receivers, but their array is left
empty, which means everybody, when there are 512 or more of them. -/

namespace PalCrosschat

theorem enqueueCall_chats (inject : ChatInject) (call : EnqueueCall) :
    (inject.enqueueCall call).journal.filterMap InjectEvent.chat =
      inject.journal.filterMap InjectEvent.chat := by
  rcases enqueueCall_journal inject call with ⟨added, grown, enqueues⟩
  have none : added.filterMap InjectEvent.chat = [] := by
    apply List.filterMap_eq_nil_iff.mpr
    intro event member
    rcases enqueues event member with ⟨action, rfl⟩
    rfl
  rw [grown, List.filterMap_append, none, List.append_nil]

theorem canInjectNow_sameChats (engine : Engine) (configuredMax : Int) :
    Respects SameChats (ChatInject.canInjectNow engine configuredMax) := by
  unfold ChatInject.canInjectNow
  refine .bind .get fun world => .ite (.pure _) ?_
  refine .bind (ChatInject.resolveGameState_sameChats engine) fun gameState => .ite (.pure _) ?_
  refine .bind .get fun world =>
    .bind (ChatInject.Silent.sameChats (ChatInject.Silent.ask _)) fun now => ?_
  refine .bind (fun start => ?_) fun _ => .bind .get fun world => .pure _
  exact ChatInject.note_sameChats rfl start

namespace DrainWorld

section Calls

variable (engine : Engine) (config : Config)

/-! ## The calls of a step -/

/-- The `BroadcastDisplay` calls `Drain` makes next, each with its world. -/
def proceedCalls (filter : WordFilter) (state : DrainWorld) :
    List (ChatInject.DisplayCall × InjectWorld) :=
  (state.nextAction.elim [] fun action =>
    ChatInject.actionCalls engine config action
      ((ChatInject.popDeferred action).run state.world).2) ++
  state.nextRow.elim [] fun item =>
    ChatInject.rowCalls engine config filter item
      (takeRow state.world item state.world.inbound.tryPop.2)

def stepCalls (state : DrainWorld) (input : DrainInput) :
    List (ChatInject.DisplayCall × InjectWorld) :=
  match input with
  | .proceed filter => state.proceedCalls engine config filter
  | _ => []

def nextCategory (state : DrainWorld) : Category :=
  state.nextAction.elim config.injectCategory DeferredAction.category

theorem takeRow_chats (world : InjectWorld) (item : InboundMessage) (inbound : InboundQueue) :
    (takeRow world item inbound).chats = world.chats := by
  change List.filterMap _ (world.inject.journal ++ [.injecting item]) = _
  rw [List.filterMap_append]
  exact List.append_nil _

/-- What comes of a row. -/
theorem attemptRow_endsWith (filter : WordFilter) (item : InboundMessage)
    (world : InjectWorld) :
    ChatInject.EndsWith world ((attemptRow engine config filter item).run world)
      (ChatInject.noneStuck engine (ChatInject.rowCalls engine config filter item world))
      (ChatInject.chatsOf engine config.injectCategory
        (ChatInject.rowCalls engine config filter item world)) := by
  have broadcast := ChatInject.broadcastOne_endsWith engine config filter item world
  refine ⟨broadcast.1, ?_⟩
  rw [← broadcast.2]
  exact ChatInject.note_sameChats rfl _

theorem step_chats (state : DrainWorld) (input : DrainInput) :
    (state.step engine config input).world.chats =
      state.world.chats ++ ChatInject.chatsOf engine (state.nextCategory config)
        (state.stepCalls engine config input) := by
  cases input with
  | inboundPushed msg => exact (List.append_nil _).symm
  | enqueue call =>
      exact (enqueueCall_chats state.world.inject call).trans (List.append_nil _).symm
  | roster operation => exact (List.append_nil _).symm
  | elapse calls => exact (List.append_nil _).symm
  | drain maxPerTick =>
      refine Eq.trans ?_ (List.append_nil _).symm
      rw [step]
      rcases beginDrain_move engine maxPerTick state with same | ⟨point, idle, free, moved⟩
      · rw [same]
      · rw [moved]
        exact canInjectNow_sameChats engine maxPerTick state.world
  | proceed filter =>
      have move := proceed_move engine config filter state
      rw [step, stepCalls]
      unfold proceedCalls nextCategory
      generalize state.proceed engine config filter = after at move
      cases move with
      | pass point before after noAction noRow =>
          rw [noAction, noRow]
          exact (List.append_nil _).symm
      | act action actions limit flushing next noRow =>
          rw [next, noRow, Option.elim_some, Option.elim_none, List.append_nil, Option.elim_some]
          have popped : SameChats state.world ((ChatInject.popDeferred action).run state.world).2 :=
            ChatInject.note_sameChats rfl _
          rw [← popped]
          exact ChatInject.runAction_chats engine config action _
      | attempt item remaining looping noAction next =>
          rw [noAction, next, Option.elim_none, Option.elim_some, Option.elim_none,
            List.nil_append, ← takeRow_chats state.world item state.world.inbound.tryPop.2]
          exact (attemptRow_endsWith engine config filter item _).2
      | putBack item holding noAction noRow =>
          rw [noAction, noRow]
          exact (List.append_nil _).symm

theorem stepCalls_receivers {state : DrainWorld} {input : DrainInput}
    {entry : ChatInject.DisplayCall × InjectWorld}
    (member : entry ∈ state.stepCalls engine config input) : entry.1.receivers ≠ [] := by
  cases input with
  | proceed filter =>
      rcases List.mem_append.mp member with inAction | inRow
      · cases next : state.nextAction with
        | none =>
            rw [next] at inAction
            exact absurd inAction List.not_mem_nil
        | some action =>
            rw [next] at inAction
            exact ChatInject.receivers_ne_nil_of_actionCalls engine config inAction
      · cases next : state.nextRow with
        | none =>
            rw [next] at inRow
            exact absurd inRow List.not_mem_nil
        | some item =>
            rw [next] at inRow
            exact ChatInject.receivers_ne_nil_of_rowCalls engine config inRow
  | _ => exact absurd member List.not_mem_nil

/-! ## Main result -/

def reachingCalls (state : DrainWorld) (input : DrainInput) :
    List (ChatInject.DisplayCall × InjectWorld) :=
  (state.stepCalls engine config input).filter fun entry =>
    ChatInject.GetsThrough engine entry.1 entry.2

/-- The messages that the step adds to those issued in the run are, in order, for exactly
the receivers of the calls that get through. -/
def Targeted (state : DrainWorld) (input : DrainInput) : Prop :=
  (state.step engine config input).world.chats.map PalChatMessage.receiverPlayerUIds =
    state.world.chats.map PalChatMessage.receiverPlayerUIds ++
      (state.reachingCalls engine config input).map fun entry => entry.1.receivers

/-- The calls that get through have fewer than 512 receivers. -/
def ReceiversFit (state : DrainWorld) (input : DrainInput) : Prop :=
  ∀ entry ∈ state.stepCalls engine config input,
    ChatInject.GetsThrough engine entry.1 entry.2 → entry.1.receivers.length < 512

instance (state : DrainWorld) (input : DrainInput) :
    Decidable (ReceiversFit engine config state input) :=
  inferInstanceAs (Decidable (∀ _ ∈ _, _))

variable {engine} {config} {state : DrainWorld} {input : DrainInput}

/-- The messages of calls are for those whose array could be filled. -/
theorem chatsOf_receivers (category : Category)
    (made : List (ChatInject.DisplayCall × InjectWorld)) :
    (ChatInject.chatsOf engine category made).map PalChatMessage.receiverPlayerUIds =
      (made.filter fun entry => ChatInject.GetsThrough engine entry.1 entry.2).map fun entry =>
        if ChatInject.Filled engine entry.1 entry.2 then entry.1.receivers else [] := by
  induction made with
  | nil => rfl
  | cons entry rest induction =>
      rw [ChatInject.chatsOf, List.flatMap_cons, ← ChatInject.chatsOf, List.map_append, induction,
        ChatInject.issuedChats, List.filter_cons]
      by_cases reaches : ChatInject.GetsThrough engine entry.1 entry.2
      · rw [if_pos reaches, if_pos (decide_eq_true reaches), List.map_singleton,
          ChatInject.filledChat_receivers]
        rfl
      · rw [if_neg reaches, if_neg (by rwa [decide_eq_true_iff])]
        rfl

theorem targeted_step_iff (config : Config) (allocates : ∀ moment, engine.gameMalloc moment = true)
    (state : DrainWorld) (input : DrainInput) :
    Targeted engine config state input ↔ ReceiversFit engine config state input := by
  have filled : ∀ call world, ChatInject.Filled engine call world ↔
      call.receivers.length < 512 :=
    fun call world => and_iff_left (allocates _)
  rw [Targeted, step_chats, List.map_append, List.append_cancel_left_eq, chatsOf_receivers,
    reachingCalls, List.map_inj_left]
  constructor
  · intro named entry member reaches
    have issued := named entry (List.mem_filter.mpr ⟨member, decide_eq_true reaches⟩)
    by_contra large
    rw [if_neg (large ∘ (filled entry.1 entry.2).mp)] at issued
    exact stepCalls_receivers engine config member issued.symm
  · intro fit entry member
    rcases List.mem_filter.mp member with ⟨made, reaches⟩
    exact if_pos ((filled entry.1 entry.2).mpr (fit entry made (of_decide_eq_true reaches)))

theorem named_step (named : ∀ chat ∈ state.world.chats, chat.receiverPlayerUIds ≠ [])
    (targeted : Targeted engine config state input) :
    ∀ chat ∈ (state.step engine config input).world.chats, chat.receiverPlayerUIds ≠ [] := by
  intro chat member
  have listed := List.mem_map_of_mem (f := PalChatMessage.receiverPlayerUIds) member
  rw [targeted] at listed
  rcases List.mem_append.mp listed with old | new
  · rcases List.mem_map.mp old with ⟨shown, before, equal⟩
    rw [← equal]
    exact named shown before
  · rcases List.mem_map.mp new with ⟨entry, reaching, equal⟩
    rw [← equal]
    exact stepCalls_receivers engine config (List.mem_of_mem_filter reaching)

/-- When the game allocator succeeds, the messages a run issues are for the receivers of
the calls it makes exactly if each call that gets through has fewer than 512 of them. Then
none is for everybody. -/
theorem targetedLines (engine : Engine) (config : Config) (inputs : List DrainInput)
    (allocates : ∀ moment, engine.gameMalloc moment = true) :
    (Execution.Along (step engine config) (Targeted engine config) {} inputs ↔
      Execution.Along (step engine config) (ReceiversFit engine config) {} inputs) ∧
    (Execution.Along (step engine config) (ReceiversFit engine config) {} inputs →
      ∀ chat ∈ (run engine config inputs).world.chats, chat.receiverPlayerUIds ≠ []) := by
  have perStep := targeted_step_iff config allocates
  refine ⟨Execution.along_congr perStep inputs, ?_⟩
  intro fit
  exact Execution.run_along_invariant
    (fun _ (state : DrainWorld) => ∀ chat ∈ state.world.chats, chat.receiverPlayerUIds ≠ [])
    (fun _ member => absurd member List.not_mem_nil)
    (fun _ _ allowed named => named_step named ((perStep _ _).mpr allowed)) inputs fit

end Calls

def remoteLine : List DrainInput :=
  warmedUp ++ [.inboundPushed (remoteRow 1 (Bytes.ascii "hello"))] ++ wholeTick

theorem targetedLines_remote :
    (∀ moment, quietEngine.gameMalloc moment = true) ∧
      (run quietEngine plainConfig remoteLine).world.chats.map
        PalChatMessage.receiverPlayerUIds = [[{ a := 1 }]] ∧
      Execution.Along (step quietEngine plainConfig) (Targeted quietEngine plainConfig) {}
        remoteLine :=
  ⟨fun _ => rfl, by decide +kernel,
    (targetedLines quietEngine plainConfig remoteLine fun _ => rfl).1.mpr (by decide +kernel)⟩

/-! ## A crowd -/

def crowd : List Guid := (List.range 512).map fun index => { a := UInt32.ofNat (index + 1) }

theorem length_crowd : crowd.length = 512 := by
  rw [crowd, List.length_map, List.length_range]

theorem nodup_crowd : crowd.Nodup := by
  apply List.nodup_range.map_on
  intro left leftMember right rightMember equal
  have sameField := congrArg (fun uid : Guid => uid.a.toNat) equal
  rw [List.mem_range] at leftMember rightMember
  simp only [UInt32.toNat_ofNat'] at sameField
  omega

theorem nonNil_crowd : ∀ uid ∈ crowd, uid ≠ .nil := by
  intro uid member isNil
  rcases List.mem_map.mp member with ⟨index, small, rfl⟩
  have sameField := congrArg (fun uid : Guid => uid.a.toNat) isNil
  rw [List.mem_range] at small
  simp only [Guid.nil, UInt32.toNat_ofNat'] at sameField
  change (index + 1) % 2 ^ 32 = 0 at sameField
  omega

def joins (uids : List Guid) : List AudienceTracker.Operation :=
  uids.map fun uid => .upsert uid [] 7

theorem joins_snoc (front : List Guid) (last : Guid) :
    joins (front ++ [last]) = joins front ++ [.upsert last [] 7] :=
  List.map_append

def JoinedOnly (audience : AudienceTracker) : Prop :=
  ∀ key entry, audience.roster.lookup key = some entry →
    entry.playerState = some 7 ∧ entry.platform = []

theorem JoinedOnly.step {audience : AudienceTracker} (joined : JoinedOnly audience)
    (uid : Guid) : JoinedOnly (audience.step (.upsert uid [] 7)) := by
  intro key entry found
  by_cases isNil : uid = .nil
  · rw [AudienceTracker.step, AudienceTracker.upsert, if_pos isNil] at found
    exact joined key entry found
  rw [AudienceTracker.step, AudienceTracker.upsert_roster audience [] isNil,
    KeyedTable.lookup_insert_eq] at found
  split at found
  · cases found
    have unknown : (normalizePlatformUserId []).isEmpty = true := by decide
    refine ⟨rfl, ?_⟩
    simp only [AudienceTracker.upserted, unknown, if_true]
    cases before : audience.roster.lookup (formatGuid uid) with
    | none => rfl
    | some old => exact (joined _ old before).2
  · exact joined key entry found

/-- Who joined is there, and as the joins left it. -/
theorem lookup_joins {audience : AudienceTracker} (joined : JoinedOnly audience)
    (uids : List Guid) :
    JoinedOnly (Execution.run AudienceTracker.step audience (joins uids)) ∧
      ∀ uid ∈ uids, uid ≠ .nil →
        formatGuid uid ∈ (Execution.run AudienceTracker.step audience (joins uids)).roster := by
  induction uids using List.reverseRecOn with
  | nil => exact ⟨joined, fun _ member => absurd member List.not_mem_nil⟩
  | append_singleton front last induction =>
      rw [joins_snoc, Execution.run_snoc]
      refine ⟨induction.1.step last, ?_⟩
      intro uid member nonNil
      rcases List.mem_append.mp member with inFront | isLast
      · have listed := AList.lookup_isSome.mpr (induction.2 uid inFront nonNil)
        rcases Option.isSome_iff_exists.mp listed with ⟨entry, found⟩
        rcases (AudienceTracker.upsert_entered _ last [] 7).grows _ entry found with
          ⟨refreshed, kept, -⟩
        exact AList.lookup_isSome.mp (by rw [AudienceTracker.step, kept]; rfl)
      · rw [List.mem_singleton.mp isLast] at nonNil ⊢
        rw [AudienceTracker.step, AudienceTracker.upsert_roster _ [] nonNil]
        exact AList.mem_insert _ |>.mpr (.inl rfl)

theorem length_le_others {world : InjectWorld} {uids : List Guid}
    (wellFormed : world.audience.WellFormed) (joined : JoinedOnly world.audience)
    (distinct : uids.Nodup) (present : ∀ uid ∈ uids, formatGuid uid ∈ world.audience.roster) :
    uids.length ≤ (ChatInject.lookAround quietEngine world).1.2.length := by
  have listed : uids ⊆ (ChatInject.lookAround quietEngine world).1.2 := by
    intro uid member
    rcases Option.isSome_iff_exists.mp (AList.lookup_isSome.mpr (present uid member)) with
      ⟨entry, found⟩
    rcases joined _ entry found with ⟨state, platform⟩
    apply (ChatInject.mem_others_iff wellFormed uid).mpr
    refine ⟨entry, ?_, ?_, by rw [platform]; rfl⟩
    · unfold ChatInject.seededRoster AudienceTracker.tryBootstrapOnce
      split <;> exact found
    · rw [state, Option.any_some]
      exact decide_eq_true (rfl : quietEngine.weakGet _ 7 = .live)
  exact (List.subperm_of_subset distinct listed).length_le

theorem quiet_resolves (world : InjectWorld) :
    ((ChatInject.resolveGameState quietEngine).run world).1.isSome = true := by
  rcases world with ⟨⟨gameState, _, _, _, _, _, _, _⟩, _, _, _⟩
  cases gameState <;> rfl

theorem quiet_getsThrough (call : ChatInject.DisplayCall) {world : InjectWorld}
    (isClosed : world.inject.circuitOpen = false) :
    ChatInject.GetsThrough quietEngine call world := by
  refine ⟨isClosed, quiet_resolves world, ?_, quiet_resolves _⟩
  generalize ((ChatInject.resolveGameState quietEngine).run world).2 = resolved
  rcases resolved with ⟨⟨_, broadcastFnReady, _, _, _, _, _, _⟩, _, _, _⟩
  cases broadcastFnReady <;> rfl

/-- A line of another server for 512 players or more is one call that gets through. -/
theorem large_call {world : InjectWorld} {uids : List Guid}
    (isClosed : world.inject.circuitOpen = false)
    (wellFormed : world.audience.WellFormed) (joined : JoinedOnly world.audience)
    (distinct : uids.Nodup) (present : ∀ uid ∈ uids, formatGuid uid ∈ world.audience.roster)
    (large : 512 ≤ uids.length) :
    ∃ entry ∈ ChatInject.rowCalls quietEngine plainConfig plainFilter
        (remoteRow 1 (Bytes.ascii "hello")) world,
      ChatInject.GetsThrough quietEngine entry.1 entry.2 ∧ 512 ≤ entry.1.receivers.length := by
  have crowded := length_le_others wellFormed joined distinct present
  have someOthers : (ChatInject.lookAround quietEngine world).1.2 ≠ [] := by
    apply List.ne_nil_of_length_pos
    omega
  rcases broadcast : ChatInject.rowDual plainConfig plainFilter
    (remoteRow 1 (Bytes.ascii "hello")) with _ | dual
  · exact absurd broadcast (by decide +kernel)
  have stillClosed : (ChatInject.beforeCalls quietEngine world).inject.circuitOpen = false := by
    unfold ChatInject.beforeCalls
    split <;> exact isClosed
  have getsThrough := quiet_getsThrough (dual.formatted quietEngine world) stillClosed
  refine ⟨(dual.formatted quietEngine _, ChatInject.beforeCalls quietEngine _), ?_,
    getsThrough, large.trans crowded⟩
  rw [ChatInject.rowCalls, broadcast]
  exact (dual.mem_made quietEngine _ _).mpr (.inl ⟨someOthers, rfl⟩)

def withAudience (state : DrainWorld) (audience : AudienceTracker) : DrainWorld :=
  { state with world := { state.world with audience } }

theorem run_roster (engine : Engine) (config : Config) (state : DrainWorld)
    (operations : List AudienceTracker.Operation) :
    Execution.run (step engine config) state (operations.map .roster) =
      state.withAudience
        (Execution.run AudienceTracker.step state.world.audience operations) := by
  induction operations generalizing state with
  | nil => rfl
  | cons head tail induction => exact induction (state.step engine config (.roster head))

theorem beginDrain_withAudience (maxPerTick : Int) (state : DrainWorld)
    (audience : AudienceTracker) :
    (state.withAudience audience).beginDrain quietEngine maxPerTick =
      (state.beginDrain quietEngine maxPerTick).withAudience audience := by
  rcases state with ⟨⟨⟨gameState, _, _, _, _, _, circuitOpen, _⟩, _, _, _⟩, point, _, _, _, _⟩
  cases point with
  | idle => cases circuitOpen <;> cases gameState <;> rfl
  | _ => rfl

theorem proceed_withAudience (filter : WordFilter) {state : DrainWorld} {actions limit : Nat}
    (flushing : state.point = .flushing (actions + 1) limit)
    (nothing : state.world.inject.deferred.items = []) (audience : AudienceTracker) :
    (state.withAudience audience).proceed quietEngine plainConfig filter =
      (state.proceed quietEngine plainConfig filter).withAudience audience := by
  simp only [proceed, withAudience, flushing, nothing]

def rowWaits : List DrainInput :=
  wholeTick ++ [.elapse 100, .inboundPushed (remoteRow 1 (Bytes.ascii "hello"))]

def shownTo (uids : List Guid) : List DrainInput :=
  rowWaits ++ (joins uids).map .roster ++ [.drain 5, .proceed plainFilter]

theorem run_shownTo (uids : List Guid) :
    run quietEngine plainConfig (shownTo uids) =
      (run quietEngine plainConfig (rowWaits ++ [.drain 5, .proceed plainFilter])).withAudience
        (Execution.run AudienceTracker.step
          (run quietEngine plainConfig rowWaits).world.audience (joins uids)) := by
  have flushing : ((run quietEngine plainConfig rowWaits).beginDrain quietEngine 5).point =
      .flushing 5 5 := by
    decide +kernel
  have nothing : ((run quietEngine plainConfig rowWaits).beginDrain quietEngine
      5).world.inject.deferred.items = [] := by
    decide +kernel
  simp only [shownTo, run, Execution.run_append, run_roster, Execution.run_cons, Execution.run_nil,
    step]
  rw [beginDrain_withAudience, proceed_withAudience plainFilter flushing nothing]

/-- The next step issues a message for everybody if enough players are online. -/
theorem not_targeted_of_large (state : DrainWorld) {uids : List Guid}
    (next : state.nextRow = some (remoteRow 1 (Bytes.ascii "hello")))
    (isClosed : state.world.inject.circuitOpen = false)
    (wellFormed : state.world.audience.WellFormed) (joined : JoinedOnly state.world.audience)
    (distinct : uids.Nodup)
    (present : ∀ uid ∈ uids, formatGuid uid ∈ state.world.audience.roster)
    (large : 512 ≤ uids.length) :
    ¬Targeted quietEngine plainConfig state (.proceed plainFilter) := by
  intro targeted
  have taken : (takeRow state.world (remoteRow 1 (Bytes.ascii "hello"))
      state.world.inbound.tryPop.2).inject.circuitOpen = false := isClosed
  rcases large_call taken wellFormed joined distinct present large with
    ⟨entry, made, getsThrough, crowded⟩
  have inStep : entry ∈ state.stepCalls quietEngine plainConfig (.proceed plainFilter) := by
    apply List.mem_append_right
    rw [next]
    exact made
  have fit := (targeted_step_iff plainConfig (fun _ => rfl) state _).mp targeted
  exact absurd (fit entry inStep getsThrough) (Nat.not_lt.mpr crowded)

/-- The game allocator never fails here, but the message of the last step is for
everybody. -/
theorem crowd_not_targeted :
    (∀ moment, quietEngine.gameMalloc moment = true) ∧
      ¬Execution.Along (step quietEngine plainConfig) (Targeted quietEngine plainConfig) {}
        (shownTo crowd ++ [.proceed plainFilter]) := by
  refine ⟨fun _ => rfl, ?_⟩
  intro targeted
  have last := ((Execution.along_snoc _ _).mp targeted).2
  have nobody : JoinedOnly (run quietEngine plainConfig rowWaits).world.audience := by
    have empty : (run quietEngine plainConfig rowWaits).world.audience.roster.keys = [] := by
      decide +kernel
    intro key entry found
    have member := AList.mem_keys.mp (AList.lookup_isSome.mp (Option.isSome_of_eq_some found))
    rw [empty] at member
    exact absurd member List.not_mem_nil
  have isClosed : (run quietEngine plainConfig
      (rowWaits ++ [.drain 5, .proceed plainFilter])).world.inject.circuitOpen = false := by
    decide +kernel
  have next : (run quietEngine plainConfig
      (rowWaits ++ [.drain 5, .proceed plainFilter])).nextRow =
        some (remoteRow 1 (Bytes.ascii "hello")) := by
    decide +kernel
  have joined := lookup_joins nobody crowd
  have wellFormed := wellFormed_run quietEngine plainConfig (shownTo crowd)
  change Targeted quietEngine plainConfig (run quietEngine plainConfig (shownTo crowd)) _ at last
  rw [run_shownTo] at last wellFormed
  generalize run quietEngine plainConfig (rowWaits ++ [.drain 5, .proceed plainFilter]) = ended
    at last wellFormed isClosed next
  generalize Execution.run AudienceTracker.step _ (joins crowd) = audience
    at last wellFormed joined
  exact not_targeted_of_large (ended.withAudience audience) next isClosed wellFormed
    joined.1 nodup_crowd (fun uid member => joined.2 uid member (nonNil_crowd uid member))
    length_crowd.ge last

end DrainWorld

end PalCrosschat
