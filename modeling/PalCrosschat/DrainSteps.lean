import PalCrosschat.BroadcastCalls
import PalCrosschat.Foundation.RetryQueue
import PalCrosschat.InjectFrame

/-! # `Drain` in small steps

A tick of inject is not atomic for the database thread, which may push a row
between any two queue operations of the inbound loop. Here each deferred action,
each inbound line and each re-queue is a step of its own; run without anything in
between, the steps make up `Drain`. -/

namespace PalCrosschat

/-- Where the game thread is in `Drain`. -/
inductive DrainPoint
  | idle
  /-- In `FlushDeferred`, with so many actions to go before an inbound loop of `limit`
  rounds. -/
  | flushing (actions limit : Nat)
  | looping (remaining : Nat)
  /-- The line was not sent and is about to go back to the queue. -/
  | holding (item : InboundMessage)
deriving DecidableEq, Repr

/-- The row in the hands of `Drain`. -/
def DrainPoint.heldRow : DrainPoint → Option InboundMessage
  | .holding item => some item
  | _ => none

/-- One `BroadcastOne` with the messages issued for it. -/
structure Attempt where
  item : InboundMessage
  sent : Bool
  chats : List PalChatMessage
deriving DecidableEq, Repr

/-- Inject in the middle of a tick, with what the inbound queue was given, what became of
its rows and what it dropped, oldest first. -/
structure DrainWorld where
  world : InjectWorld := {}
  point : DrainPoint := .idle
  pushed : List InboundMessage := []
  attempts : List Attempt := []
  evicted : List InboundMessage := []
  /-- The part of `evicted` that made room for a row that came back. -/
  evictedByRetry : List InboundMessage := []

inductive EnqueueCall
  | localTagged (senderName guildName message : Bytes) (category : Category)
      (senderPlayerUid : Guid)
  | serverNotice (noticeMessage : Bytes)
  | screenLog (playerController : Option ObjectRef) (message : Bytes)
  | privateChat (receiverPlayerUid : Guid) (message : Bytes)
deriving DecidableEq, Repr

def ChatInject.enqueueCall (inject : ChatInject) : EnqueueCall → ChatInject
  | .localTagged senderName guildName message category senderPlayerUid =>
      inject.enqueueLocalTagged senderName guildName message category senderPlayerUid
  | .serverNotice noticeMessage => inject.enqueueServerNotice noticeMessage
  | .screenLog playerController message => inject.enqueueScreenLog playerController message
  | .privateChat receiverPlayerUid message =>
      inject.enqueuePrivateChat receiverPlayerUid message

theorem enqueueCall_journal (inject : ChatInject) (call : EnqueueCall) :
    ∃ added, (inject.enqueueCall call).journal = inject.journal ++ added ∧
      ∀ event ∈ added, ∃ action, event = .enqueued action := by
  have enqueued : ∀ action, ∃ added, (inject.enqueue action).journal = inject.journal ++ added ∧
      ∀ event ∈ added, ∃ action, event = .enqueued action :=
    fun action => ⟨[.enqueued action], rfl, fun _ member => ⟨action, List.mem_singleton.mp member⟩⟩
  have nothing : ∃ added, inject.journal = inject.journal ++ added ∧
      ∀ event ∈ added, ∃ action, event = InjectEvent.enqueued action :=
    ⟨[], (List.append_nil _).symm, fun _ member => absurd member List.not_mem_nil⟩
  cases call with
  | localTagged senderName guildName message category senderPlayerUid => exact enqueued _
  | serverNotice noticeMessage => exact enqueued _
  | screenLog playerController message =>
      cases playerController with
      | none => exact nothing
      | some controller => exact enqueued _
  | privateChat receiverPlayerUid message =>
      simp only [ChatInject.enqueueCall, ChatInject.enqueuePrivateChat]
      split
      · exact nothing
      · exact enqueued _

inductive DrainInput
  /-- The database thread pushes a row. -/
  | inboundPushed (msg : InboundMessage)
  | enqueue (call : EnqueueCall)
  /-- Another part of the mod calls the roster. -/
  | roster (operation : AudienceTracker.Operation)
  /-- Another part of the mod makes this many engine calls. -/
  | elapse (calls : Nat)
  /-- `Drain` is called. -/
  | drain (maxPerTick : Int)
  /-- `Drain` goes on. -/
  | proceed (filter : WordFilter)

/-- The filter `Drain` goes on with. -/
def DrainInput.proceedFilter : DrainInput → Option WordFilter
  | .proceed filter => some filter
  | _ => none

def pushedRows (inputs : List DrainInput) : List InboundMessage :=
  inputs.filterMap fun
    | .inboundPushed msg => some msg
    | _ => none

theorem pushedRows_snoc (past : List DrainInput) (input : DrainInput) :
    pushedRows (past ++ [input]) = pushedRows past ++ pushedRows [input] :=
  List.filterMap_append

namespace DrainWorld

section Machine

variable (engine : Engine) (config : Config)

def attemptRow (filter : WordFilter) (item : InboundMessage) : InjectProgram Bool := do
  let sent ← ChatInject.broadcastOne engine config filter item
  ChatInject.updateInject fun inject => inject.note (.injected item sent)
  return sent

def performAction (action : DeferredAction) : InjectProgram Unit := do
  ChatInject.popDeferred action
  ChatInject.runAction engine config action

/-- The world after `TryPop`. -/
def takeRow (world : InjectWorld) (item : InboundMessage) (inbound : InboundQueue) :
    InjectWorld :=
  { world with inbound, inject := world.inject.note (.injecting item) }

/-- `TryPop` and `BroadcastOne` for the popped row. -/
def attempt (filter : WordFilter) (state : DrainWorld) (item : InboundMessage)
    (remaining : Nat) : DrainWorld :=
  let ended := (attemptRow engine config filter item).run
    (takeRow state.world item state.world.inbound.tryPop.2)
  { state with
    world := ended.2
    point := if ended.1 then .looping remaining else .holding item
    attempts := state.attempts ++
      [{ item, sent := ended.1, chats := ended.2.chats.drop state.world.chats.length }] }

def putBack (state : DrainWorld) (item : InboundMessage) : DrainWorld :=
  let evicted := state.world.inbound.deque.evicted.toList
  { state with
    world := { state.world with inbound := state.world.inbound.push item }
    point := .idle
    evicted := state.evicted ++ evicted
    evictedByRetry := state.evictedByRetry ++ evicted }

/-- The action that `Drain` runs next. -/
def nextAction (state : DrainWorld) : Option DeferredAction :=
  match state.point with
  | .flushing (_ + 1) _ => state.world.inject.deferred.items.head?
  | _ => none

/-- The row that `Drain` broadcasts next. -/
def nextRow (state : DrainWorld) : Option InboundMessage :=
  match state.point with
  | .looping (_ + 1) => state.world.inbound.tryPop.1
  | _ => none

/-- The next thing `Drain` does. -/
def proceed (filter : WordFilter) (state : DrainWorld) : DrainWorld :=
  match state.point with
  | .idle => state
  | .flushing 0 limit => { state with point := .looping limit }
  | .flushing (actions + 1) limit =>
      match state.world.inject.deferred.items with
      | [] => { state with point := .looping limit }
      | action :: _ =>
          { state with
            world := ((performAction engine config action).run state.world).2
            point := .flushing actions limit }
  | .looping 0 => { state with point := .idle }
  | .looping (remaining + 1) =>
      match state.world.inbound.tryPop.1 with
      | none => { state with point := .idle }
      | some item => state.attempt engine config filter item remaining
  | .holding item => state.putBack item

/-- A call of `Drain`, up to what `CanInjectNow` says. -/
def beginDrain (maxPerTick : Int) (state : DrainWorld) : DrainWorld :=
  match state.point with
  | .idle =>
      let allowed := (ChatInject.canInjectNow engine maxPerTick).run state.world
      { state with
        world := allowed.2
        point :=
          match allowed.1 with
          | none => .idle
          | some limit => .flushing (if 0 < limit then limit else 1) limit }
  | _ => state

def step (state : DrainWorld) : DrainInput → DrainWorld
  | .inboundPushed msg =>
      { state with
        world := { state.world with inbound := state.world.inbound.push msg }
        pushed := state.pushed ++ [msg]
        evicted := state.evicted ++ state.world.inbound.deque.evicted.toList }
  | .enqueue call =>
      { state with
        world := { state.world with inject := state.world.inject.enqueueCall call } }
  | .roster operation =>
      { state with
        world := { state.world with audience := state.world.audience.step operation } }
  | .elapse calls =>
      { state with world := { state.world with moment := state.world.moment + calls } }
  | .drain maxPerTick => state.beginDrain engine maxPerTick
  | .proceed filter => state.proceed engine config filter

abbrev run (inputs : List DrainInput) : DrainWorld :=
  Execution.run (step engine config) {} inputs

end Machine

/-! ## What a step can do -/

section Moves

variable (engine : Engine) (config : Config) (filter : WordFilter)

/-- What the next thing of `Drain` does. -/
inductive ProceedMove (state : DrainWorld) : DrainWorld → Prop
  /-- Nothing is left of a part of the tick. -/
  | pass (point : DrainPoint) (before : state.point.heldRow = none)
      (after : point.heldRow = none) (noAction : state.nextAction = none)
      (noRow : state.nextRow = none) : ProceedMove state { state with point }
  | act (action : DeferredAction) (actions limit : Nat)
      (flushing : state.point = .flushing (actions + 1) limit)
      (next : state.nextAction = some action) (noRow : state.nextRow = none) :
      ProceedMove state
        { state with
          world := ((performAction engine config action).run state.world).2
          point := .flushing actions limit }
  | attempt (item : InboundMessage) (remaining : Nat)
      (looping : state.point = .looping (remaining + 1)) (noAction : state.nextAction = none)
      (next : state.nextRow = some item) :
      ProceedMove state (state.attempt engine config filter item remaining)
  | putBack (item : InboundMessage) (holding : state.point = .holding item)
      (noAction : state.nextAction = none) (noRow : state.nextRow = none) :
      ProceedMove state (state.putBack item)

theorem proceed_move (state : DrainWorld) :
    ProceedMove engine config filter state (state.proceed engine config filter) := by
  cases point : state.point with
  | idle =>
      have free : state.point.heldRow = none := by rw [point]; rfl
      have unmoved : state.proceed engine config filter = { state with point := state.point } := by
        simp only [proceed, point]
      rw [unmoved]
      exact .pass state.point free free (by simp only [nextAction, point])
        (by simp only [nextRow, point])
  | flushing actions limit =>
      have free : state.point.heldRow = none := by rw [point]; rfl
      have noRow : state.nextRow = none := by simp only [nextRow, point]
      cases actions with
      | zero =>
          simp only [proceed, point]
          exact .pass _ free rfl (by simp only [nextAction, point]) noRow
      | succ actions =>
          cases deferred : state.world.inject.deferred.items with
          | nil =>
              simp only [proceed, point, deferred]
              exact .pass _ free rfl (by simp only [nextAction, point, deferred, List.head?_nil])
                noRow
          | cons action rest =>
              simp only [proceed, point, deferred]
              exact .act action actions limit point
                (by simp only [nextAction, point, deferred, List.head?_cons]) noRow
  | looping remaining =>
      have free : state.point.heldRow = none := by rw [point]; rfl
      have noAction : state.nextAction = none := by simp only [nextAction, point]
      cases remaining with
      | zero =>
          simp only [proceed, point]
          exact .pass _ free rfl noAction (by simp only [nextRow, point])
      | succ remaining =>
          cases popped : state.world.inbound.tryPop.1 with
          | none =>
              simp only [proceed, point, popped]
              exact .pass _ free rfl noAction (by simp only [nextRow, point, popped])
          | some item =>
              simp only [proceed, point, popped]
              exact .attempt item remaining point noAction
                (by simp only [nextRow, point, popped])
  | holding item =>
      simp only [proceed, point]
      exact .putBack item point (by simp only [nextAction, point]) (by simp only [nextRow, point])

theorem tryPop_of_nextRow {state : DrainWorld} {item : InboundMessage}
    (next : state.nextRow = some item) : state.world.inbound.tryPop.1 = some item := by
  unfold nextRow at next
  split at next
  · exact next
  · cases next

/-- What the beginning of a tick does. -/
theorem beginDrain_move (maxPerTick : Int) (state : DrainWorld) :
    state.beginDrain engine maxPerTick = state ∨
      ∃ point, state.point = .idle ∧ point.heldRow = none ∧
        state.beginDrain engine maxPerTick =
          { state with
            world := ((ChatInject.canInjectNow engine maxPerTick).run state.world).2
            point } := by
  unfold beginDrain
  split
  · rename_i idle
    right
    dsimp only
    cases ((ChatInject.canInjectNow engine maxPerTick).run state.world).1 with
    | none => exact ⟨.idle, idle, rfl, rfl⟩
    | some limit => exact ⟨.flushing _ limit, idle, rfl, rfl⟩
  · exact .inl rfl

theorem attemptRow_frame (item : InboundMessage) :
    Respects BroadcastFrame (attemptRow engine config filter item) :=
  .bind ((ChatInject.frameRules engine).broadcastOne config filter item) fun _ =>
    .bind (ChatInject.updateInject_frame _) fun _ => .pure _

theorem attempt_frame (state : DrainWorld) (item : InboundMessage) (remaining : Nat) :
    BroadcastFrame (takeRow state.world item state.world.inbound.tryPop.2)
      (state.attempt engine config filter item remaining).world :=
  attemptRow_frame engine config filter item _

theorem performAction_frame (action : DeferredAction) :
    Respects BroadcastFrame (performAction engine config action) :=
  .bind (ChatInject.updateInject_frame _) fun _ =>
    (ChatInject.frameRules engine).runAction config action

/-- What a step does to the inbound rows: most steps do nothing to them. -/
inductive DrainMove (state : DrainWorld) : DrainInput → DrainWorld → Prop
  | pushed (msg : InboundMessage) :
      DrainMove state (.inboundPushed msg)
        { state with
          world := { state.world with inbound := state.world.inbound.push msg }
          pushed := state.pushed ++ [msg]
          evicted := state.evicted ++ state.world.inbound.deque.evicted.toList }
  | other {input : DrainInput} (pushes : pushedRows [input] = [])
      (world : InjectWorld) (point : DrainPoint) (frame : BroadcastFrame state.world world)
      (held : point.heldRow = state.point.heldRow) :
      DrainMove state input { state with world, point }
  | attempt (filter : WordFilter) (item : InboundMessage) (remaining : Nat)
      (free : state.point.heldRow = none) (next : state.nextRow = some item) :
      DrainMove state (.proceed filter) (state.attempt engine config filter item remaining)
  | putBack (filter : WordFilter) (item : InboundMessage)
      (holding : state.point = .holding item) :
      DrainMove state (.proceed filter) (state.putBack item)

theorem step_move (state : DrainWorld) (input : DrainInput) :
    DrainMove engine config state input (state.step engine config input) := by
  have unmoved : BroadcastFrame state.world state.world := refl_of BroadcastFrame state.world
  cases input with
  | inboundPushed msg => exact .pushed msg
  | enqueue call => exact .other rfl _ state.point ⟨.refl state.world.audience, rfl⟩ rfl
  | roster operation =>
      exact .other rfl _ state.point ⟨.call state.world.audience operation, rfl⟩ rfl
  | elapse calls => exact .other rfl _ state.point ⟨.refl state.world.audience, rfl⟩ rfl
  | drain maxPerTick =>
      rw [step]
      rcases beginDrain_move engine maxPerTick state with same | ⟨point, idle, free, moved⟩
      · rw [same]
        exact .other rfl state.world state.point unmoved rfl
      · rw [moved]
        apply DrainMove.other rfl
        · exact ChatInject.canInjectNow_frame engine maxPerTick state.world
        · rw [free, idle]
          rfl
  | proceed filter =>
      rw [step]
      have move := proceed_move engine config filter state
      generalize state.proceed engine config filter = after at move
      cases move with
      | pass point before after noAction noRow =>
          exact .other rfl state.world point unmoved (after.trans before.symm)
      | act action actions limit flushing next noRow =>
          apply DrainMove.other rfl
          · exact performAction_frame engine config action state.world
          · rw [flushing]
            rfl
      | attempt item remaining looping noAction next =>
          exact .attempt filter item remaining (by rw [looping]; rfl) next
      | putBack item holding noAction noRow => exact .putBack filter item holding

/-- The roster keeps its invariant. -/
theorem wellFormed_step {state : DrainWorld} (wellFormed : state.world.audience.WellFormed)
    (input : DrainInput) : (state.step engine config input).world.audience.WellFormed := by
  have move := step_move engine config state input
  generalize state.step engine config input = after at move
  cases move with
  | pushed msg => exact wellFormed
  | other pushes world point frame held => exact frame.roster.wellFormed wellFormed
  | putBack filter item holding => exact wellFormed
  | attempt filter item remaining free next =>
      exact (attempt_frame engine config filter state item remaining).roster.wellFormed wellFormed

theorem wellFormed_run (inputs : List DrainInput) :
    (run engine config inputs).world.audience.WellFormed :=
  Execution.run_invariant (fun state : DrainWorld => state.world.audience.WellFormed)
    (fun _ input wellFormed => wellFormed_step engine config wellFormed input)
    AudienceTracker.wellFormed_empty inputs

end Moves

/-! ## The steps make up `Drain` -/

section Refinement

variable (engine : Engine) (config : Config) (filter : WordFilter)

/-- `Drain` alone gets from one state to another. -/
def Proceeds (state after : DrainWorld) : Prop :=
  ∃ count, after = Execution.run (step engine config) state
    (List.replicate count (.proceed filter))

theorem Proceeds.next {state after : DrainWorld}
    (rest : Proceeds engine config filter (state.proceed engine config filter) after) :
    Proceeds engine config filter state after := by
  rcases rest with ⟨count, rfl⟩
  exact ⟨count + 1, rfl⟩

theorem Proceeds.trans {first second third : DrainWorld}
    (left : Proceeds engine config filter first second)
    (right : Proceeds engine config filter second third) :
    Proceeds engine config filter first third := by
  rcases left with ⟨leftCount, rfl⟩
  rcases right with ⟨rightCount, rfl⟩
  refine ⟨leftCount + rightCount, ?_⟩
  rw [List.replicate_add, Execution.run_append]

theorem Proceeds.refl (state : DrainWorld) : Proceeds engine config filter state state :=
  ⟨0, rfl⟩

theorem flushDeferred_proceeds (actions limit : Nat) (state : DrainWorld)
    (point : state.point = .flushing actions limit) :
    ∃ after, Proceeds engine config filter state after ∧ after.point = .looping limit ∧
      after.world = ((ChatInject.flushDeferred engine config actions).run state.world).2 := by
  induction actions generalizing state with
  | zero =>
      have moved : state.proceed engine config filter = { state with point := .looping limit } := by
        simp only [proceed, point]
      refine ⟨_, .next engine config filter (.refl engine config filter _), ?_, ?_⟩
      · rw [moved]
      · rw [moved]
        rfl
  | succ actions induction =>
      cases deferred : state.world.inject.deferred.items with
      | nil =>
          have moved : state.proceed engine config filter =
              { state with point := .looping limit } := by
            simp only [proceed, point, deferred]
          refine ⟨_, .next engine config filter (.refl engine config filter _), ?_, ?_⟩
          · rw [moved]
          · rw [moved, ChatInject.flushDeferred, run_get_bind, deferred]
            rfl
      | cons action rest =>
          have moved : state.proceed engine config filter =
              { state with
                world := ((performAction engine config action).run state.world).2
                point := .flushing actions limit } := by
            simp only [proceed, point, deferred]
          rcases induction (state.proceed engine config filter) (by rw [moved]) with
            ⟨after, proceeds, reached, world⟩
          refine ⟨after, .next engine config filter proceeds, reached, ?_⟩
          rw [world, moved, ChatInject.flushDeferred, run_get_bind, deferred]
          rfl

theorem drainInbound_proceeds (remaining : Nat) (state : DrainWorld)
    (point : state.point = .looping remaining) :
    ∃ after, Proceeds engine config filter state after ∧ after.point = .idle ∧
      after.world =
        ((ChatInject.drainInbound engine config filter remaining).run state.world).2 := by
  induction remaining generalizing state with
  | zero =>
      have moved : state.proceed engine config filter = { state with point := .idle } := by
        simp only [proceed, point]
      refine ⟨_, .next engine config filter (.refl engine config filter _), ?_, ?_⟩
      · rw [moved]
      · rw [moved]
        rfl
  | succ remaining induction =>
      rw [ChatInject.drainInbound, run_get_bind]
      rcases popped : state.world.inbound.tryPop with ⟨item, inbound⟩
      cases item with
      | none =>
          have moved : state.proceed engine config filter = { state with point := .idle } := by
            simp only [proceed, point, popped]
          refine ⟨_, .next engine config filter (.refl engine config filter _), ?_, ?_⟩
          · rw [moved]
          · rw [moved]
            rfl
      | some item =>
          have moved : state.proceed engine config filter =
              state.attempt engine config filter item remaining := by
            simp only [proceed, point, popped]
          have inboundLeft : state.world.inbound.tryPop.2 = inbound := by rw [popped]
          change ∃ after, Proceeds engine config filter state after ∧ after.point = .idle ∧
            after.world = ((if ((attemptRow engine config filter item).run
                (takeRow state.world item inbound)).1 then
              ChatInject.drainInbound engine config filter remaining
              else modify fun world => { world with inbound := world.inbound.push item } :
              InjectProgram Unit).run ((attemptRow engine config filter item).run
                (takeRow state.world item inbound)).2).2
          cases sent : ((attemptRow engine config filter item).run
              (takeRow state.world item inbound)).1 with
          | true =>
              rcases induction (state.proceed engine config filter) (by
                  rw [moved, attempt, inboundLeft, sent]
                  rfl) with ⟨after, proceeds, reached, world⟩
              refine ⟨after, .next engine config filter proceeds, reached, ?_⟩
              rw [world, moved, attempt, inboundLeft]
              rfl
          | false =>
              have held : (state.proceed engine config filter).point = .holding item := by
                rw [moved, attempt, inboundLeft, sent]
                rfl
              have returned : (state.proceed engine config filter).proceed engine config filter =
                  (state.proceed engine config filter).putBack item := by
                rw [proceed, held]
              refine ⟨_, .next engine config filter (.next engine config filter
                (.refl engine config filter _)), ?_, ?_⟩
              · rw [returned]
                rfl
              · rw [returned, moved, attempt, inboundLeft]
                rfl

/-- A tick without anything in between is a run of small steps. -/
theorem drain_proceeds (maxPerTick : Int) (state : DrainWorld) (idle : state.point = .idle) :
    ∃ after, Proceeds engine config filter (state.step engine config (.drain maxPerTick)) after ∧
      after.point = .idle ∧
      after.world =
        ((ChatInject.drain engine config filter maxPerTick).run state.world).2 := by
  rcases allowed : (ChatInject.canInjectNow engine maxPerTick).run state.world with ⟨limit, world⟩
  cases limit with
  | none =>
      have begun : state.step engine config (.drain maxPerTick) =
          { state with world, point := .idle } := by
        simp only [step, beginDrain, idle, allowed]
      refine ⟨_, .refl engine config filter _, ?_, ?_⟩
      · rw [begun]
      · rw [begun, ChatInject.drain, run_bind, allowed]
        rfl
  | some limit =>
      have begun : state.step engine config (.drain maxPerTick) =
          { state with
            world
            point := .flushing (if 0 < limit then limit else 1) limit } := by
        simp only [step, beginDrain, idle, allowed]
      rcases flushDeferred_proceeds engine config filter (if 0 < limit then limit else 1) limit
        (state.step engine config (.drain maxPerTick)) (by rw [begun]) with
        ⟨flushed, flushes, looping, flushedWorld⟩
      rcases drainInbound_proceeds engine config filter limit flushed looping with
        ⟨drained, drains, reached, drainedWorld⟩
      refine ⟨drained, .trans engine config filter flushes drains, reached, ?_⟩
      rw [drainedWorld, flushedWorld, begun, ChatInject.drain, run_bind, allowed]
      rfl

end Refinement

/-! ## A server to look at -/

/-- The server of `quietEngine` without a GameState for two calls. -/
def flickeringEngine (gone : Nat) : Engine :=
  { quietEngine with
    weakGet := fun moment object => if moment = gone ∧ object = 0 then .dead else .live
    findGameState := fun moment => if moment = gone + 1 then .missing else .found 0 }

def plainFilter : WordFilter := .ofConfig (fun _ => none) plainConfig

def remoteRow (id : Nat) (message : Bytes) : InboundMessage where
  id
  origin := Bytes.ascii "pal-eu"
  senderName := Bytes.ascii "Ann"
  senderId := []
  guildName := []
  message

def wholeTick : List DrainInput := .drain 5 :: List.replicate 9 (.proceed plainFilter)

def warmedUp : List DrainInput :=
  [.roster (.upsert { a := 1 } [] 7)] ++ wholeTick ++ [.elapse 100]

end DrainWorld

end PalCrosschat
