import PalCrosschat.InjectSteps

/-! # What a broadcast leaves in the journal

The programs that a deferred action runs leave the deferred deque alone and add
nothing but calls, empty rosters and an opened circuit to the journal. A line is
shown when the roster is empty or a call is issued for it. -/

namespace PalCrosschat

namespace InjectEvent

def isEffect : InjectEvent → Bool
  | .rosterEmpty | .processEvent _ _ _ | .circuitOpened => true
  | _ => false

/-- What `CanInjectNow` may leave behind. -/
def isTickNote : InjectEvent → Bool
  | .gameStateReady _ | .circuitOpened => true
  | _ => false

def isShown : InjectEvent → Bool
  | .rosterEmpty | .processEvent _ (.broadcastChatMessage _) _ => true
  | _ => false

end InjectEvent

/-- From `start` on only allowed entries were added, and the deque is untouched. -/
structure Emits (allowed : InjectEvent → Bool) (start world : InjectWorld) : Prop where
  journal : ∃ added, world.inject.journal = start.inject.journal ++ added ∧
    ∀ event ∈ added, allowed event = true
  deferred : world.inject.deferred = start.inject.deferred

/-- From `start` on a line was shown. -/
def Shows (start world : InjectWorld) : Prop :=
  ∃ added, world.inject.journal = start.inject.journal ++ added ∧
    ∃ event ∈ added, event.isShown = true

section Emits

variable {allowed : InjectEvent → Bool} {first second third : InjectWorld}

instance : IsPreorder InjectWorld (Emits allowed) where
  refl _ := ⟨⟨[], (List.append_nil _).symm, nofun⟩, rfl⟩
  trans _ _ _ left right := by
    rcases left.journal with ⟨leftAdded, leftGrown, leftAllowed⟩
    rcases right.journal with ⟨rightAdded, rightGrown, rightAllowed⟩
    refine ⟨⟨leftAdded ++ rightAdded, by rw [rightGrown, leftGrown, List.append_assoc], ?_⟩,
      right.deferred.trans left.deferred⟩
    intro event member
    rcases List.mem_append.mp member with inLeft | inRight
    · exact leftAllowed event inLeft
    · exact rightAllowed event inRight

theorem Unseen.emits (unseen : Unseen first second) : Emits allowed first second :=
  ⟨⟨[], unseen.journal.trans (List.append_nil _).symm, nofun⟩, unseen.deferred⟩

theorem Shows.after (left : Emits allowed first second) (right : Shows second third) :
    Shows first third := by
  rcases left.journal with ⟨leftAdded, leftGrown, -⟩
  rcases right with ⟨rightAdded, rightGrown, event, member, shown⟩
  exact ⟨leftAdded ++ rightAdded, by rw [rightGrown, leftGrown, List.append_assoc],
    event, List.mem_append_right _ member, shown⟩

theorem Shows.before (left : Shows first second) (right : Emits allowed second third) :
    Shows first third := by
  rcases left with ⟨leftAdded, leftGrown, event, member, shown⟩
  rcases right.journal with ⟨rightAdded, rightGrown, -⟩
  exact ⟨leftAdded ++ rightAdded, by rw [rightGrown, leftGrown, List.append_assoc],
    event, List.mem_append_left _ member, shown⟩

end Emits

namespace ChatInject

/-! ## The programs, one by one -/

abbrev Emitting {α : Type} (allowed : InjectEvent → Bool) (program : InjectProgram α) : Prop :=
  Respects (Emits allowed) program

section Programs

variable (engine : Engine) (config : Config) {allowed : InjectEvent → Bool}

theorem Silent.emits {α : Type} {program : InjectProgram α} (silent : Silent program) :
    Emitting allowed program :=
  silent.mono Unseen.emits

theorem note_emits {event : InjectEvent} (isAllowed : allowed event = true) :
    Emitting allowed (updateInject fun inject => inject.note event) :=
  fun _ => ⟨⟨[event], rfl, by simpa using isAllowed⟩, rfl⟩

theorem tripInjectCircuit_emits (opens : allowed .circuitOpened = true) :
    Emitting allowed tripInjectCircuit := by
  intro start
  cases isOpen : start.inject.circuitOpen with
  | true =>
      change Emits allowed start { start with inject :=
        if start.inject.circuitOpen then start.inject else _ }
      rw [isOpen]
      exact refl_of (Emits allowed) start
  | false =>
      rw [tripInjectCircuit_run isOpen]
      exact ⟨⟨[.circuitOpened], rfl, by simpa using opens⟩, rfl⟩

theorem resolveGameState_emits (opens : allowed .circuitOpened = true) :
    Emitting allowed (resolveGameState engine) := by
  unfold resolveGameState
  refine .bind .get fun world => .bind (Silent.ask _).emits fun answer => ?_
  refine .ite (.bind (Silent.updateInject (by simp)).emits fun _ => .pure _) ?_
  refine .bind (Silent.updateInject (by simp)).emits fun _ =>
    .bind (Silent.ask _).emits fun answer => ?_
  cases answer with
  | faulted =>
      refine .bind (Silent.updateInject (by simp)).emits fun _ => .bind .get fun counted => ?_
      exact .ite (.bind (tripInjectCircuit_emits opens) fun _ => .pure _) (.pure _)
  | missing => exact .pure _
  | found object =>
      refine .bind (Silent.ask _).emits fun cached => .ite ?_ (.pure _)
      exact .bind (Silent.updateInject (by simp)).emits fun _ => .pure _

theorem processEvent_emits (call : EngineCall) :
    Emitting InjectEvent.isEffect (processEvent engine call) :=
  .bind .get fun _ => .bind (Silent.ask _).emits fun _ => .bind (note_emits rfl) fun _ => .pure _

theorem broadcastDisplay_emits (displaySender message : Bytes) (category : Category)
    (receivers : List Guid) (senderPlayerUid : Option Guid) :
    Emitting InjectEvent.isEffect (broadcastDisplay engine displaySender message category
      receivers senderPlayerUid) := by
  unfold broadcastDisplay
  refine .bind .get fun world => .ite (.pure _) ?_
  refine .bind (resolveGameState_emits engine rfl) fun gameState => .ite (.pure _) ?_
  refine .bind (ensureBroadcastFunction_silent engine).emits fun ready => .ite (.pure _) ?_
  refine .bind (fillInitFString_silent engine _).emits fun sender => ?_
  refine .bind (fillInitFString_silent engine _).emits fun text => ?_
  refine .bind (fillReceivers_silent engine _).emits fun uids => ?_
  refine .bind (resolveGameState_emits engine rfl) fun again => .ite (.pure _) ?_
  refine .bind (processEvent_emits engine _) fun returned => .ite (.pure _) ?_
  refine .bind (Silent.modify fun world => .audience world _).emits fun _ => ?_
  exact .bind (tripInjectCircuit_emits rfl) fun _ => .pure _

theorem showServerNotice_emits (noticeMessage : Bytes) :
    Emitting InjectEvent.isEffect (showServerNotice engine noticeMessage) := by
  unfold showServerNotice
  dsimp only
  refine .bind .get fun world => .ite (.pure _) (.ite (.pure _) ?_)
  refine .bind (resolveGameState_emits engine rfl) fun gameState => .ite (.pure _) ?_
  refine .bind (ensureServerNoticeFunction_silent engine).emits fun ready => .ite (.pure _) ?_
  refine .bind (fillInitFString_silent engine _).emits fun notice => ?_
  refine .bind (resolveGameState_emits engine rfl) fun again => .ite (.pure _) ?_
  refine .bind (processEvent_emits engine _) fun returned => .ite (.pure _) ?_
  exact .bind (tripInjectCircuit_emits rfl) fun _ => .pure _

theorem sendScreenLog_emits (playerController : ObjectRef) (message : Bytes) :
    Emitting InjectEvent.isEffect (sendScreenLog engine playerController message) := by
  unfold sendScreenLog
  refine .bind .get fun world => .ite (.pure _) (.ite (.pure _) ?_)
  refine .bind (Silent.ask _).emits fun found => .ite (.pure _) ?_
  exact .bind (fillInitFString_silent engine _).emits fun text => processEvent_emits engine _

theorem emitsRules : InjectRules engine (Emits InjectEvent.isEffect) where
  unseen := Unseen.emits
  rosterEmpty := note_emits rfl
  display := broadcastDisplay_emits engine
  notice := showServerNotice_emits engine
  screenLog := sendScreenLog_emits engine

theorem canInjectNow_emits (configuredMax : Int) :
    Emitting InjectEvent.isTickNote (canInjectNow engine configuredMax) := by
  unfold canInjectNow
  refine .bind .get fun world => .ite (.pure _) ?_
  refine .bind (resolveGameState_emits engine rfl) fun gameState => .ite (.pure _) ?_
  refine .bind .get fun world => .bind (Silent.ask _).emits fun now => .bind ?_ fun _ => ?_
  · exact fun start => ⟨⟨[.gameStateReady world.moment], rfl, by simp [InjectEvent.isTickNote]⟩,
      rfl⟩
  · exact .bind .get fun world => .pure _

end Programs

/-! ## When a line is shown -/

section Shown

variable (engine : Engine) (config : Config)

/-- `BroadcastDisplay` gets as far as its call: the circuit is closed, the function is
found, and the GameState both times. -/
def DisplayReaches (displaySender message : Bytes) (receivers : List Guid)
    (world : InjectWorld) : Prop :=
  let resolved := (resolveGameState engine).run world
  let ready := (ensureBroadcastFunction engine).run resolved.2
  let sender := (fillInitFString engine displaySender).run ready.2
  let text := (fillInitFString engine message).run sender.2
  let uids := (fillReceivers engine receivers).run text.2
  world.inject.circuitOpen = false ∧ resolved.1.isSome = true ∧ ready.1 = true ∧
    ((resolveGameState engine).run uids.2).1.isSome = true

instance (displaySender message : Bytes) (receivers : List Guid) (world : InjectWorld) :
    Decidable (DisplayReaches engine displaySender message receivers world) :=
  inferInstanceAs (Decidable (_ ∧ _ ∧ _ ∧ _))

/-- One of the two calls of `BroadcastDual` is made, or nobody is online. -/
def DualReaches (xboxSender xboxMessage formattedSender formattedMessage : Bytes)
    (category : Category) (senderPlayerUid : Option Guid) (world : InjectWorld) : Prop :=
  let snapshot := (snapshotAudience engine).run ((bootstrapAudience engine).run world).2
  let xbox := snapshot.1.1
  let others := snapshot.1.2
  let afterOthers :=
    if others.isEmpty then snapshot.2
    else ((broadcastDisplay engine formattedSender formattedMessage category others
      none).run snapshot.2).2
  (xbox.isEmpty && others.isEmpty) = true ∨
    others.isEmpty = false ∧
      DisplayReaches engine formattedSender formattedMessage others snapshot.2 ∨
    xbox.isEmpty = false ∧
      (senderPlayerUid.filter snapshot.2.audience.isOnlinePlayerUid).isSome = true ∧
      DisplayReaches engine xboxSender xboxMessage xbox afterOthers

instance (xboxSender xboxMessage formattedSender formattedMessage : Bytes)
    (category : Category) (senderPlayerUid : Option Guid) (world : InjectWorld) :
    Decidable (DualReaches engine xboxSender xboxMessage formattedSender formattedMessage
      category senderPlayerUid world) :=
  inferInstanceAs (Decidable (_ ∨ _ ∧ _ ∨ _ ∧ _ ∧ _))

section Bind

variable {α β : Type} {first : InjectProgram α} {second : α → InjectProgram β}
  {world : InjectWorld}

theorem shows_bind_right (left : Emitting InjectEvent.isEffect first)
    (right : Shows (first.run world).2
      ((second (first.run world).1).run (first.run world).2).2) :
    Shows world ((first >>= second).run world).2 :=
  .after (left world) right

theorem shows_bind_left (left : Shows world (first.run world).2)
    (right : ∀ value, Emitting InjectEvent.isEffect (second value)) :
    Shows world ((first >>= second).run world).2 :=
  .before left (right _ _)

end Bind

variable {engine} {world : InjectWorld}

theorem processEvent_shows (chat : PalChatMessage) :
    Shows world ((processEvent engine (.broadcastChatMessage chat)).run world).2 :=
  ⟨[.processEvent world.moment (.broadcastChatMessage chat)
    (engine.processEvent world.moment)], rfl, _, List.mem_singleton_self _, rfl⟩

theorem broadcastDisplay_shows {displaySender message : Bytes} {receivers : List Guid}
    (reaches : DisplayReaches engine displaySender message receivers world)
    (category : Category) (senderPlayerUid : Option Guid) :
    Shows world ((broadcastDisplay engine displaySender message category receivers
      senderPlayerUid).run world).2 := by
  rcases reaches with ⟨closed, resolved, ready, again⟩
  unfold broadcastDisplay
  refine shows_bind_right .get ?_
  change Shows world ((if world.inject.circuitOpen = true then _ else _ :
    InjectProgram Bool).run world).2
  rw [if_neg (by simp [closed])]
  refine shows_bind_right (resolveGameState_emits engine rfl) ?_
  rw [if_neg (by simpa [Option.isSome_iff_ne_none] using resolved)]
  refine shows_bind_right (ensureBroadcastFunction_silent engine).emits ?_
  rw [if_neg (by simpa using ready)]
  refine shows_bind_right (fillInitFString_silent engine _).emits ?_
  refine shows_bind_right (fillInitFString_silent engine _).emits ?_
  refine shows_bind_right (fillReceivers_silent engine _).emits ?_
  refine shows_bind_right (resolveGameState_emits engine rfl) ?_
  rw [if_neg (by simpa [Option.isSome_iff_ne_none] using again)]
  refine shows_bind_left (processEvent_shows _) fun returned => .ite (.pure _) ?_
  refine .bind (Silent.modify fun world => .audience world _).emits fun _ => ?_
  exact .bind (tripInjectCircuit_emits rfl) fun _ => .pure _

/-- The call for the Xbox players, made when the sender is online. -/
theorem xboxPart_shows {xboxSender xboxMessage : Bytes} {xbox : List Guid}
    {xboxUid : Option Guid} (online : xboxUid.isSome = true)
    (reaches : DisplayReaches engine xboxSender xboxMessage xbox world)
    (category : Category) (othersOk : Bool) :
    Shows world ((if xboxUid.isNone then
        (do let xboxOk ← Pure.pure true; return othersOk && xboxOk : InjectProgram Bool)
      else do
        let xboxOk ← broadcastDisplay engine xboxSender xboxMessage category xbox xboxUid
        return othersOk && xboxOk).run world).2 := by
  rw [if_neg (by simpa [Option.isSome_iff_ne_none] using online)]
  exact shows_bind_left (broadcastDisplay_shows reaches category xboxUid) fun _ => .pure _

theorem broadcastDual_shows {xboxSender xboxMessage formattedSender formattedMessage : Bytes}
    {category : Category} {senderPlayerUid : Option Guid}
    (reaches : DualReaches engine xboxSender xboxMessage formattedSender formattedMessage
      category senderPlayerUid world) :
    Shows world ((broadcastDual engine xboxSender xboxMessage formattedSender
      formattedMessage category senderPlayerUid).run world).2 := by
  unfold broadcastDual
  refine shows_bind_right (bootstrapAudience_silent engine).emits
    (shows_bind_right (snapshotAudience_silent engine).emits (shows_bind_right .get ?_))
  unfold DualReaches at reaches
  dsimp only at reaches ⊢
  generalize (snapshotAudience engine).run ((bootstrapAudience engine).run world).2 =
    snapshot at reaches ⊢
  rcases snapshot with ⟨⟨xbox, others⟩, start⟩
  rcases reaches with noRoster | ⟨someOthers, reaches⟩ | ⟨someXbox, online, reaches⟩
  · change Shows start ((if (xbox.isEmpty && others.isEmpty) = true then _ else _ :
      InjectProgram Bool).run start).2
    rw [if_pos noRoster]
    exact ⟨[.rosterEmpty], rfl, _, List.mem_singleton_self _, rfl⟩
  · dsimp only at someOthers reaches ⊢
    rw [someOthers]
    simp only [Bool.and_false, Bool.false_eq_true, if_false]
    have called := fun category uid => broadcastDisplay_shows reaches category uid
    cases xbox.isEmpty with
    | true => exact called category none
    | false =>
        refine shows_bind_left (called category none) fun othersOk => .ite (.pure _) ?_
        exact .bind (broadcastDisplay_emits engine _ _ _ _ _) fun _ => .pure _
  · dsimp only at someXbox online reaches ⊢
    rw [someXbox]
    simp only [Bool.false_and, Bool.false_eq_true, if_false]
    cases noOthers : others.isEmpty with
    | true =>
        rw [if_pos noOthers] at reaches
        exact shows_bind_right (.pure _) (xboxPart_shows online reaches category _)
    | false =>
        rw [if_neg (by simp [noOthers])] at reaches
        exact shows_bind_right (broadcastDisplay_emits engine _ _ _ _ _)
          (xboxPart_shows online reaches category _)

/-! ## Rebroadcasts -/

def LineReaches (engine : Engine) (config : Config) (action : DeferredAction)
    (world : InjectWorld) : Prop :=
  let chatPrefix := localServerPrefix config
  let cleanSender := cleanSenderName action.senderName
  let cleanMessage := sanitizeMessage action.message
  let cleanGuild := sanitizeMessage action.guildName 64
  let display := applyChatFormat config.chatFormat chatPrefix cleanGuild cleanSender
    cleanMessage
  let plain := applyChatFormatAttributed config.chatFormat chatPrefix cleanGuild cleanSender
    cleanMessage
  DualReaches engine plain.1 (if plain.2.isEmpty then cleanMessage else plain.2)
    display.1 display.2 action.category
    (if action.senderUid = .nil then none else some action.senderUid) world

instance (engine : Engine) (config : Config) (action : DeferredAction)
    (world : InjectWorld) : Decidable (LineReaches engine config action world) :=
  inferInstanceAs (Decidable (DualReaches _ _ _ _ _ _ _ _))

theorem runAction_shows {config : Config} {action : DeferredAction}
    (tagged : action.kind = .localTagged) (hasText : sanitizeMessage action.message ≠ [])
    (reaches : LineReaches engine config action world) :
    Shows world ((runAction engine config action).run world).2 := by
  have hasDisplay := applyChatFormat_message_ne_nil config.chatFormat
    (localServerPrefix config) (sanitizeMessage action.guildName 64)
    (cleanSenderName action.senderName) hasText
  unfold runAction
  rw [tagged]
  refine shows_bind_left ?_ fun _ => .pure _
  unfold broadcastLocalTagged
  dsimp only
  rw [if_neg (by simpa using hasText), if_neg (by simpa using hasDisplay)]
  exact broadcastDual_shows reaches

end Shown

end ChatInject

end PalCrosschat
