import PalCrosschat.BroadcastEffects
import PalCrosschat.RelayPaths
import PalCrosschat.RelaySoundness

/-! # Local lines after their originals are cleared

With ShowLocalServerTag the hook clears a line and its only copy travels through
the pending deque and the deferred deque to `BroadcastDual`. A rebroadcast that
reaches neither a player nor an empty roster is dropped, and both deques drop
their oldest entry when they are full. Where neither happens, every line is still
in a deque or was shown. -/

namespace PalCrosschat

open Bytes (ascii)

/-! ## The shown lines -/

def Fresh (added : List InjectEvent) : Prop :=
  (added.takeWhile InjectEvent.isEffect).any InjectEvent.isShown = false

def shownLines : List InjectEvent → List DeferredAction
  | [] => []
  | .flushing action :: rest =>
      if action.kind = .localTagged ∧
          (rest.takeWhile InjectEvent.isEffect).any InjectEvent.isShown = true then
        action :: shownLines rest
      else shownLines rest
  | _ :: rest => shownLines rest

def ChatInject.deferredLines (inject : ChatInject) : List DeferredAction :=
  inject.deferred.items.filter fun action => action.kind = .localTagged

section Shown

variable {journal added : List InjectEvent}

theorem any_takeWhile_append (fresh : Fresh added) :
    ((journal ++ added).takeWhile InjectEvent.isEffect).any InjectEvent.isShown =
      (journal.takeWhile InjectEvent.isEffect).any InjectEvent.isShown := by
  rw [List.takeWhile_append]
  split
  · rename_i whole
    have same : journal.takeWhile InjectEvent.isEffect = journal :=
      (List.takeWhile_prefix _).eq_of_length whole
    rw [List.any_append, fresh, Bool.or_false, same]
  · rfl

theorem Fresh.append (first : Fresh journal) (second : Fresh added) :
    Fresh (journal ++ added) :=
  (any_takeWhile_append second).trans first

theorem shownLines_append (fresh : Fresh added) :
    shownLines (journal ++ added) = shownLines journal ++ shownLines added := by
  induction journal with
  | nil => rfl
  | cons event rest induction =>
      cases event with
      | flushing action =>
          simp only [List.cons_append, shownLines, any_takeWhile_append fresh, induction]
          split <;> rfl
      | _ => exact induction

theorem shownLines_eq_nil (noFlush : ∀ action, .flushing action ∉ added) :
    shownLines added = [] := by
  induction added with
  | nil => rfl
  | cons event rest induction =>
      have tail := induction fun action member => noFlush action (List.mem_cons_of_mem _ member)
      cases event with
      | flushing action => exact absurd List.mem_cons_self (noFlush action)
      | _ => exact tail

theorem fresh_of_not_shown (noShow : ∀ event ∈ added, event.isShown = false) :
    Fresh added := by
  rw [Fresh, List.any_eq_false]
  intro event member
  simp [noShow event ((List.takeWhile_sublist _).subset member)]

theorem fresh_cons {event : InjectEvent} (noEffect : event.isEffect = false) :
    Fresh (event :: added) := by
  simp [Fresh, noEffect]

end Shown

/-! ## The flow of the lines -/

/-- Between two states the lines that left the deferred deque are the shown ones,
and none came in. -/
def LinesFlow (start world : InjectWorld) : Prop :=
  ∃ added, world.inject.journal = start.inject.journal ++ added ∧ Fresh added ∧
    enqueuedLines added = [] ∧
    start.inject.deferredLines = shownLines added ++ world.inject.deferredLines

namespace LinesFlow

variable {first second third : InjectWorld}

theorem refl (world : InjectWorld) : LinesFlow world world :=
  ⟨[], (List.append_nil _).symm, rfl, rfl, rfl⟩

theorem trans (left : LinesFlow first second) (right : LinesFlow second third) :
    LinesFlow first third := by
  rcases left with ⟨leftAdded, leftGrown, leftFresh, leftNone, leftLines⟩
  rcases right with ⟨rightAdded, rightGrown, rightFresh, rightNone, rightLines⟩
  refine ⟨leftAdded ++ rightAdded, by rw [rightGrown, leftGrown, List.append_assoc],
    leftFresh.append rightFresh, ?_, ?_⟩
  · rw [enqueuedLines_append, leftNone, rightNone, List.append_nil]
  · rw [leftLines, rightLines, shownLines_append rightFresh, List.append_assoc]

/-- Entries that neither flush nor enqueue, in front of an untouched deque. -/
theorem of_journal (added : List InjectEvent)
    (grown : second.inject.journal = first.inject.journal ++ added)
    (deferred : second.inject.deferred = first.inject.deferred) (fresh : Fresh added)
    (others : ∀ action, .flushing action ∉ added ∧ .enqueued action ∉ added) :
    LinesFlow first second := by
  refine ⟨added, grown, fresh, ?_, ?_⟩
  · exact enqueuedLines_eq_nil fun action member => absurd member (others action).2
  · rw [shownLines_eq_nil fun action => (others action).1, ChatInject.deferredLines, ← deferred]
    rfl

theorem tickNotes (emits : Emits InjectEvent.isTickNote first second) :
    LinesFlow first second := by
  rcases emits.journal with ⟨added, grown, notes⟩
  refine .of_journal added grown emits.deferred (fresh_of_not_shown fun event member => ?_)
    fun action => ⟨fun member => ?_, fun member => ?_⟩
  · have note := notes event member
    cases event <;> simp_all [InjectEvent.isTickNote, InjectEvent.isShown]
  · exact absurd (notes _ member) (by simp [InjectEvent.isTickNote])
  · exact absurd (notes _ member) (by simp [InjectEvent.isTickNote])

end LinesFlow

/-! ## The tick -/

namespace ChatInject

variable (engine : Engine) (config : Config)

/-- Every rebroadcast that `FlushDeferred` takes out of the deque reaches somebody,
or finds nobody online. -/
def FlushReaches : (maxActions : Nat) → InjectWorld → Prop
  | 0, _ => True
  | remaining + 1, world =>
      ∀ action ∈ world.inject.deferred.items.head?,
        let popped := ((popDeferred action).run world).2
        (action.kind = .localTagged → LineReaches engine config action popped) ∧
          FlushReaches remaining ((runAction engine config action).run popped).2

instance FlushReaches.decidable :
    (maxActions : Nat) → DecidablePred (FlushReaches engine config maxActions)
  | 0 => fun _ => .isTrue trivial
  | remaining + 1 => fun world =>
      have := FlushReaches.decidable remaining
      inferInstanceAs (Decidable (∀ action ∈ world.inject.deferred.items.head?, _ ∧ _))

def DrainReaches (maxPerTick : Int) (world : InjectWorld) : Prop :=
  let ready := (canInjectNow engine maxPerTick).run world
  ∀ limit ∈ ready.1,
    FlushReaches engine config (if 0 < limit then limit else 1) ready.2

instance (maxPerTick : Int) : DecidablePred (DrainReaches engine config maxPerTick) :=
  fun world => inferInstanceAs
    (Decidable (∀ limit ∈ ((canInjectNow engine maxPerTick).run world).1,
      FlushReaches engine config _ _))

def TextsLeft (inject : ChatInject) : Prop :=
  ∀ action ∈ inject.deferred.items, action.kind = .localTagged →
    sanitizeMessage action.message ≠ []

variable {engine config} {start : InjectWorld}

/-- One round of `FlushDeferred`. -/
theorem runAction_flow {action : DeferredAction} {rest : List DeferredAction}
    (oldest : start.inject.deferred.items = action :: rest)
    (hasText : action.kind = .localTagged → sanitizeMessage action.message ≠ [])
    (reaches : action.kind = .localTagged →
      LineReaches engine config action ((popDeferred action).run start).2) :
    LinesFlow start
      ((runAction engine config action).run ((popDeferred action).run start).2).2 := by
  have emits :=
    (emitsRules engine).actionRules.runAction config action ((popDeferred action).run start).2
  have shows := fun tagged => runAction_shows tagged (hasText tagged) (reaches tagged)
  generalize ((runAction engine config action).run
    ((popDeferred action).run start).2).2 = world at emits shows ⊢
  rcases emits with ⟨⟨effects, grown, allEffects⟩, deferred⟩
  have items : world.inject.deferred.items = rest := by
    rw [deferred]
    exact congrArg List.tail oldest
  refine ⟨.flushing action :: effects, ?_, fresh_cons rfl, ?_, ?_⟩
  · rw [grown]
    exact List.append_cons .. |>.symm
  · refine enqueuedLines_eq_nil fun other member => ?_
    rcases List.mem_cons.mp member with impossible | effect
    · cases impossible
    · exact absurd (allEffects _ effect) (by simp [InjectEvent.isEffect])
  · have noFlush : shownLines effects = [] := shownLines_eq_nil fun other member =>
      absurd (allEffects _ member) (by simp [InjectEvent.isEffect])
    rw [deferredLines, deferredLines, oldest, items, shownLines, noFlush,
      List.takeWhile_eq_self_iff.mpr allEffects, List.filter_cons]
    by_cases tagged : action.kind = .localTagged
    · rcases shows tagged with ⟨added, sameGrown, event, member, shown⟩
      have same : added = effects := List.append_cancel_left (sameGrown.symm.trans grown)
      have shownHere : effects.any InjectEvent.isShown = true :=
        List.any_eq_true.mpr ⟨event, same ▸ member, shown⟩
      rw [if_pos (by simpa using tagged), if_pos ⟨tagged, shownHere⟩]
      rfl
    · rw [if_neg (by simpa using tagged), if_neg (fun both => tagged both.1)]
      rfl

theorem flushDeferred_flow {maxActions : Nat} (texts : start.inject.TextsLeft)
    (reaches : FlushReaches engine config maxActions start) :
    LinesFlow start ((flushDeferred engine config maxActions).run start).2 := by
  induction maxActions generalizing start with
  | zero => exact .refl start
  | succ remaining induction =>
      rw [flushDeferred, run_get_bind]
      rw [FlushReaches] at reaches
      cases oldest : start.inject.deferred.items with
      | nil => exact .refl start
      | cons action rest =>
          rcases reaches action (by simp [oldest]) with ⟨line, others⟩
          have inDeque : ∀ other ∈ action :: rest, other ∈ start.inject.deferred.items :=
            fun other member => oldest ▸ member
          have flow := runAction_flow oldest (texts action (inDeque action (by simp))) line
          refine flow.trans (induction ?_ others)
          intro other member
          rw [((emitsRules engine).actionRules.runAction config action _).deferred] at member
          exact texts other (BoundedDeque.mem_of_mem_pop member)

theorem drainInbound_flow (filter : WordFilter) (limit : Nat) :
    LinesFlow start ((drainInbound engine config filter limit).run start).2 := by
  induction limit generalizing start with
  | zero => exact .refl start
  | succ remaining induction =>
      rw [drainInbound, run_get_bind]
      rcases start.inbound.tryPop with ⟨popped, inbound⟩
      cases popped with
      | none => exact .refl start
      | some item =>
          let taken : InjectWorld :=
            { start with inbound, inject := start.inject.note (.injecting item) }
          let broadcast := (broadcastOne engine config filter item).run taken
          let reported : InjectWorld :=
            { broadcast.2 with inject := broadcast.2.inject.note (.injected item broadcast.1) }
          have reportedFlow : LinesFlow start reported := by
            rcases (emitsRules engine).actionRules.broadcastOne config filter item taken with
              ⟨⟨effects, grown, allEffects⟩, deferred⟩
            refine .of_journal (.injecting item :: (effects ++ [.injected item broadcast.1]))
              ?_ deferred (fresh_cons rfl) fun action => ⟨fun member => ?_, fun member => ?_⟩
            · change broadcast.2.inject.journal ++ _ = _
              rw [grown]
              simp [taken, note]
            · have effect : .flushing action ∈ effects := by simpa using member
              exact absurd (allEffects _ effect) (by simp [InjectEvent.isEffect])
            · have effect : .enqueued action ∈ effects := by simpa using member
              exact absurd (allEffects _ effect) (by simp [InjectEvent.isEffect])
          refine reportedFlow.trans ?_
          change LinesFlow reported ((if broadcast.1 then _ else _ : InjectProgram Unit).run
            reported).2
          split
          · exact induction
          · exact ⟨[], (List.append_nil _).symm, rfl, rfl, rfl⟩

theorem drain_flow {filter : WordFilter} {maxPerTick : Int} (texts : start.inject.TextsLeft)
    (reaches : DrainReaches engine config maxPerTick start) :
    LinesFlow start ((drain engine config filter maxPerTick).run start).2 := by
  have notes := canInjectNow_emits engine maxPerTick start
  unfold DrainReaches at reaches
  dsimp only at reaches
  rw [drain, run_bind]
  generalize (canInjectNow engine maxPerTick).run start = ready at notes reaches ⊢
  rcases ready with ⟨limit, world⟩
  cases limit with
  | none => exact .tickNotes notes
  | some limit =>
      have textsHere : world.inject.TextsLeft := by
        rw [TextsLeft, notes.deferred]
        exact texts
      refine LinesFlow.trans (.tickNotes notes) (.trans (flushDeferred_flow textsHere ?_)
        (drainInbound_flow filter limit))
      exact reaches limit rfl

end ChatInject

/-! ## The balance -/

namespace ChatInject

def Balanced (inject : ChatInject) : Prop :=
  enqueuedLines inject.journal = shownLines inject.journal ++ inject.deferredLines

def overflow (inject : ChatInject) (actions : List DeferredAction) : List DeferredAction :=
  (inject.deferred.items ++ actions).take
    (inject.deferred.items.length + actions.length - kMaxDeferredActions)

def Holds (inject : ChatInject) (actions : List DeferredAction) : Prop :=
  ∀ action ∈ inject.overflow actions, action.kind ≠ .localTagged

instance (inject : ChatInject) (actions : List DeferredAction) :
    Decidable (inject.Holds actions) :=
  inferInstanceAs (Decidable (∀ action ∈ inject.overflow actions, _))

theorem balanced_initial : ({} : ChatInject).Balanced := by
  simp [Balanced, enqueuedLines, shownLines, deferredLines]

theorem Balanced.enqueueAll {inject : ChatInject} (balanced : inject.Balanced)
    {actions : List DeferredAction} (holds : inject.Holds actions) :
    (inject.enqueueAll actions).Balanced := by
  have grown : (inject.enqueueAll actions).journal =
      inject.journal ++ actions.map .enqueued := by
    rw [enqueueAll_eq]
  have fresh : Fresh (actions.map InjectEvent.enqueued) :=
    fresh_of_not_shown fun event member => by
      rcases List.mem_map.mp member with ⟨action, -, rfl⟩
      rfl
  have noneShown : shownLines (actions.map InjectEvent.enqueued) = [] :=
    shownLines_eq_nil fun action => by simp
  have lines : enqueuedLines (actions.map InjectEvent.enqueued) =
      actions.filter fun action => action.kind = .localTagged := by
    rw [enqueuedLines, List.filterMap_map, ← List.filterMap_eq_filter]
    refine List.filterMap_congr fun action _ => ?_
    simp [Option.guard]
  have kept : (inject.enqueueAll actions).deferredLines =
      inject.deferredLines ++ actions.filter fun action => action.kind = .localTagged := by
    have dropped : (inject.overflow actions).filter (fun action => action.kind = .localTagged) =
        [] := by
      rw [List.filter_eq_nil_iff]
      intro action member
      simpa using holds action member
    rw [deferredLines, enqueueAll_deferred, deferredLines, ← List.filter_append]
    conv_rhs => rw [← List.take_append_drop
      (inject.deferred.items.length + actions.length - kMaxDeferredActions)
      (inject.deferred.items ++ actions), List.filter_append]
    rw [← overflow, dropped, List.nil_append]
  rw [Balanced, grown, enqueuedLines_append, shownLines_append fresh, noneShown, lines, kept,
    balanced, List.append_nil, List.append_assoc]

theorem Balanced.flow {start world : InjectWorld} (balanced : start.inject.Balanced)
    (flow : LinesFlow start world) : world.inject.Balanced := by
  rcases flow with ⟨added, grown, fresh, noLines, lines⟩
  rw [Balanced, grown, enqueuedLines_append, noLines, shownLines_append fresh, balanced, lines,
    List.append_nil, List.append_assoc]

end ChatInject

/-! ## Runs -/

section Steps

variable (engine : Engine) (config : Config)

/-- The step pushes no line with a local tag out of a deque, and every rebroadcast
it flushes reaches somebody, or finds nobody online. -/
def StepKeeps (world : World) : WorldInput → Prop
  | .hook context =>
      (world.mod.hookBranch engine config context = .relayed →
        world.mod.knownName context = none →
        ∀ oldest ∈ world.mod.capture.pendingChatRelays.evicted, oldest.localTag = false) ∧
      world.mod.world.inject.Holds (world.mod.hookActions engine config context)
  | .update =>
      world.mod.world.inject.Holds (world.mod.updateActions engine) ∧
      ChatInject.DrainReaches engine config config.maxBroadcastsPerTick
        (world.mod.beforeDrain engine).world
  | _ => True

instance (world : World) (input : WorldInput) :
    Decidable (StepKeeps engine config world input) :=
  match input with
  | .hook _ => inferInstanceAs (Decidable ((_ → _ → _) ∧ _))
  | .update => inferInstanceAs (Decidable (_ ∧ _))
  | .join _ | .worker _ | .remote _ | .webhookPopped => .isTrue trivial

/-- The invariant: no line with a local tag was pushed out of the pending deque, and
the rebroadcasts balance. -/
structure LinesKept (desk : RelayDesk) (mod : Mod) : Prop where
  evicted : ∀ ticket ∈ desk.evicted, Mod.localTag config ticket.item = false
  balanced : mod.world.inject.Balanced

variable {engine config}

theorem textsLeft_of_sound {initial : World} {inputs : List WorldInput} {inject : ChatInject}
    (sound : SoundInject (Stems engine config initial inputs) inject) : inject.TextsLeft := by
  intro action member tagged
  have soundAction := sound.deferred action member tagged
  rcases soundAction.stems with
    ⟨line, ⟨past, context, rest, -, relayable, rfl⟩, -, -, -, message⟩
  refine sanitizeMessage_ne_nil soundAction.message.1 soundAction.message.2 ?_ ?_
  · rw [message]
    exact fun byte first => head_sanitizeMessage first
  · rw [message]
    exact relayable.nonempty

/-- A ticket that a submission pushes out of the desk is a relay pushed out of the
pending deque. -/
theorem evicted_relay {desk : RelayDesk} {mod : Mod}
    (describes : Describes engine config desk mod) {ticket : RelayTicket}
    (dropped : desk.waiting.evicted = some ticket) :
    mod.capture.pendingChatRelays.evicted = some (ticket.item.relay engine config) := by
  have head : desk.waiting.items.head? = some ticket := by
    rw [(BoundedDeque.items_of_evicted dropped).1]
    rfl
  have full := (BoundedDeque.items_of_evicted dropped).2
  rw [BoundedDeque.evicted, describes.waiting, List.length_map, full, if_pos (Nat.le_refl _),
    List.head?_map, head]
  rfl

theorem LinesKept.step {initial world : World} {past : List WorldInput} {desk : RelayDesk}
    {input : WorldInput} (kept : LinesKept config desk world.mod)
    (describes : Describes engine config desk world.mod)
    (sound : SoundWorld (Stems engine config initial past) config world)
    (meets : StepKeeps engine config world input) :
    LinesKept config (desk.step (relayEvent engine config world input))
      (world.step engine config input).mod := by
  cases input with
  | hook context =>
      refine ⟨?_, ?_⟩
      · by_cases branch : world.mod.hookBranch engine config context = .relayed
        · simp only [relayEvent, if_pos branch]
          cases known : world.mod.knownName context with
          | some name => exact kept.evicted
          | none =>
              intro ticket member
              rcases List.mem_append.mp member with old | new
              · exact kept.evicted ticket old
              · exact meets.1 branch known _ (evicted_relay describes (Option.mem_toList.mp new))
        · simp only [relayEvent, if_neg branch]
          exact kept.evicted
      · change ((world.mod.handleHook engine config context).1.world.inject).Balanced
        rw [Mod.handleHook_inject]
        exact kept.balanced.enqueueAll meets.2
  | update =>
      refine ⟨kept.evicted, ?_⟩
      have before : (world.mod.beforeDrain engine).world.inject.Balanced := by
        rw [Mod.beforeDrain_inject]
        exact kept.balanced.enqueueAll meets.1
      have texts := textsLeft_of_sound (sound.mod.beforeDrain engine).inject
      exact before.flow (ChatInject.drain_flow texts meets.2)
  | _ => exact ⟨kept.evicted, kept.balanced⟩

end Steps

/-! ## The lines -/

section Lines

variable (engine : Engine) (config : Config) (initial : World) (inputs : List WorldInput)

def ClearsForTag (time : Nat) (context : HookContext) : Prop :=
  inputs[time]? = some (.hook context) ∧
  (World.run engine config initial (inputs.take time)).mod.hookBranch engine config context =
    .relayed ∧
  Mod.localTag config context = true

variable {engine config initial inputs} in
theorem ClearsForTag.message {time : Nat} {context : HookContext}
    (clears : ClearsForTag engine config initial inputs time context) :
    ((World.run engine config initial (inputs.take time)).mod.handleHook engine config
      context).2 = context.clearMessage := by
  rcases clears with ⟨-, branch, localTag⟩
  rw [Mod.handleHook_eq, branch]
  exact if_pos localTag

/-- Every line that was cleared for its tag waits for its name in the pending deque,
or it was handed on once: some of these lines were shown, the others are in the
deferred deque. -/
def LocalLinesKept : Prop :=
  let desk := relayDesk engine config initial inputs
  let mod := (World.run engine config initial inputs).mod
  let rebroadcast : RelayDelivery → DeferredAction := fun delivery =>
    delivery.ticket.item.rebroadcastUnder engine delivery.name
  mod.capture.pendingChatRelays.items =
    desk.waiting.items.map (fun ticket => ticket.item.relay engine config) ∧
  ∃ shown deferred : List RelayDelivery,
    shown ++ deferred =
      desk.delivered.filter (fun delivery => Mod.localTag config delivery.ticket.item) ∧
    shown.map rebroadcast = shownLines mod.world.inject.journal ∧
    deferred.map rebroadcast = mod.world.inject.deferredLines ∧
    ∀ time context, ClearsForTag engine config initial inputs time context →
      (∃ ticket ∈ desk.waiting.items, ticket.time = time ∧ ticket.item = context) ∨
      ∃ delivery ∈ shown ++ deferred,
        delivery.ticket.time = time ∧ delivery.ticket.item = context

variable {engine config initial inputs}

/-- What the invariant says about the lines. -/
theorem LinesKept.localLinesKept
    (describes : Describes engine config (relayDesk engine config initial inputs)
      (World.run engine config initial inputs).mod)
    (kept : LinesKept config (relayDesk engine config initial inputs)
      (World.run engine config initial inputs).mod) :
    LocalLinesKept engine config initial inputs := by
  have accounts : (relayDesk engine config initial inputs).Accounts
      (relayEvents engine config initial inputs) := Deferral.accounts_after _
  have balance := describes.enqueued.symm.trans kept.balanced
  have tagged : (relayDesk engine config initial inputs).delivered.filterMap
      (rebroadcastOf engine config) =
      ((relayDesk engine config initial inputs).delivered.filter fun delivery =>
        Mod.localTag config delivery.ticket.item).map fun delivery =>
          delivery.ticket.item.rebroadcastUnder engine delivery.name := by
    rw [← List.filterMap_eq_map, List.filterMap_filter]
    rfl
  rw [tagged] at balance
  rcases List.map_eq_append_iff.mp balance with ⟨shown, deferred, split, shownMap, deferredMap⟩
  refine ⟨describes.waiting, shown, deferred, split.symm, shownMap, deferredMap, ?_⟩
  intro time context given
  rcases given with ⟨hooked, branch, localTag⟩
  have submitted := relayEvents_submit_iff.mpr ⟨hooked, branch, rfl⟩
  have known := (accounts.submitted { time, item := context, known := _ }).mpr submitted
  rcases List.mem_append.mp known with waitsOrDelivered | dropped
  · rcases List.mem_append.mp waitsOrDelivered with sent | waits
    · rcases List.mem_map.mp sent with ⟨delivery, member, equal⟩
      refine .inr ⟨delivery, ?_, by rw [equal], by rw [equal]⟩
      rw [← split, List.mem_filter]
      exact ⟨member, by rw [equal]; exact localTag⟩
    · exact .inl ⟨_, waits, rfl, rfl⟩
  · exact absurd (kept.evicted _ dropped) (by simp [localTag])

end Lines

/-- In every run whose steps push no line with a local tag out of a deque and flush
none to nobody, every line that was cleared for its tag is still in a deque or was
shown. -/
theorem localLines_kept (engine : Engine) (config : Config) (compile : RegexCompiler)
    (startedAt : Nanoseconds) (players : List PlayerRow) (inputs : List WorldInput)
    (meets : Execution.Along (World.step engine config) (StepKeeps engine config)
      (.initial compile config startedAt players) inputs) :
    LocalLinesKept engine config (.initial compile config startedAt players) inputs := by
  refine LinesKept.localLinesKept
    (describes_run engine config compile startedAt players inputs) ?_
  refine Execution.run_along_invariant
    (fun inputs (world : World) => LinesKept config
      (relayDesk engine config (.initial compile config startedAt players) inputs) world.mod)
    ?_ (fun past input meets kept => ?_) inputs meets
  · exact ⟨fun ticket member => absurd member List.not_mem_nil, ChatInject.balanced_initial⟩
  · rw [relayDesk_snoc]
    exact kept.step (describes_run engine config compile startedAt players past)
      (soundWorld_run engine config compile startedAt players past) meets

/-- A server with one Steam player, who is found under the name `Zoe`. -/
def busyEngine : Engine :=
  { namingEngine with
    now := fun moment => (moment + 1) * (20 * nanosecondsPerSecond)
    findAllPlayerStates := fun _ => some [7]
    joinReading := fun _ _ => some { playerUId := some { a := 1 } } }

def greetingTicks : List WorldInput :=
  [.hook (namelessLine (ascii "hi")), .update, .update]

theorem localLines_greeting :
    LocalLinesKept busyEngine taggingConfig (.initial literalRegex taggingConfig 0 [])
        greetingTicks ∧
      (shownLines (World.run busyEngine taggingConfig (.initial literalRegex taggingConfig 0 [])
        greetingTicks).mod.world.inject.journal).map (·.message) = [ascii "hi"] :=
  ⟨localLines_kept busyEngine taggingConfig literalRegex 0 [] greetingTicks
    (by decide +kernel), by decide +kernel⟩

/-- The same server, whose GameState is gone right after `CanInjectNow` saw it in
the second tick. -/
def fadingEngine : Engine :=
  { busyEngine with
    weakGet := fun moment object => if moment < 13 ∨ object ≠ 0 then .live else .dead
    findGameState := fun moment => if moment < 13 then .found 0 else .missing }

/-- The broadcast fails, its result is dropped, and the line is nowhere. -/
theorem greeting_not_kept :
    (World.run fadingEngine taggingConfig (.initial literalRegex taggingConfig 0 [])
      greetingTicks).mod.world.inject.circuitOpen = false ∧
    ¬LocalLinesKept fadingEngine taggingConfig (.initial literalRegex taggingConfig 0 [])
      greetingTicks := by
  refine ⟨by decide +kernel, ?_⟩
  intro given
  rcases given with ⟨waiting, shown, deferred, -, shownMap, deferredMap, located⟩
  have noneShown : shown = [] :=
    List.map_eq_nil_iff.mp (shownMap.trans (by decide +kernel))
  have noneDeferred : deferred = [] :=
    List.map_eq_nil_iff.mp (deferredMap.trans (by decide +kernel))
  have noneWaiting : (relayDesk fadingEngine taggingConfig
      (.initial literalRegex taggingConfig 0 []) greetingTicks).waiting.items = [] :=
    List.map_eq_nil_iff.mp (waiting.symm.trans (by decide +kernel))
  have cleared : ClearsForTag fadingEngine taggingConfig
      (.initial literalRegex taggingConfig 0 []) greetingTicks 0
      (namelessLine (ascii "hi")) :=
    ⟨rfl, by decide +kernel, by decide +kernel⟩
  rcases located 0 _ cleared with ⟨ticket, member, -⟩ | ⟨delivery, member, -⟩
  · rw [noneWaiting] at member
    cases member
  · rw [noneShown, noneDeferred] at member
    cases member

end PalCrosschat
