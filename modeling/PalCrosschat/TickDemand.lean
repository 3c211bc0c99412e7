import PalCrosschat.InjectFrame
import PalCrosschat.IssuedChats

/-! # How many messages a tick may need

Each deferred action and each inbound row needs up to two `BroadcastChatMessage`s,
which depends on the text of the line and on the roster. No engine makes a tick
issue more than its actions and rows need. -/

namespace PalCrosschat

def totalNeed {α : Type} (need : α → Nat) : List α → Nat
  | [] => 0
  | item :: rest => need item + totalNeed need rest

/-- The players who may be online: those with a `PlayerState`. -/
def AudienceTracker.present (audience : AudienceTracker) : AudienceTracker :=
  (audience.snapshot fun _ => true).1

namespace ChatInject

/-! ## The demand -/

/-- The messages of a line: one for the players who are not on Xbox, one for the
Xbox players when the sender is online. -/
def lineNeed (audience : AudienceTracker) (senderPlayerUid : Option Guid) : Nat :=
  (if audience.others.isEmpty then 0 else 1) +
    (if audience.xbox.isEmpty ||
        (senderPlayerUid.filter audience.isOnlinePlayerUid).isNone then 0
      else 1)

/-- The messages a line may need. Before the bootstrap anybody may turn out to be
online. -/
def dualDemand (audience : AudienceTracker) (senderPlayerUid : Option Guid) : Nat :=
  if audience.bootstrapped then lineNeed audience.present senderPlayerUid
  else 1 + (if (senderPlayerUid.filter fun uid => uid ≠ .nil).isNone then 0 else 1)

section Demand

variable (config : Config) (filter : WordFilter) (audience : AudienceTracker)

def actionDemand (action : DeferredAction) : Nat :=
  match action.kind with
  | .localTagged =>
      (taggedDual config action).elim 0 fun dual => dualDemand audience dual.senderPlayerUid
  | .privateChat => if action.receivers.isEmpty then 0 else 1
  | .serverNotice | .screenLog => 0

def rowDemand (msg : InboundMessage) : Nat :=
  (rowDual config filter msg).elim 0 fun dual => dualDemand audience dual.senderPlayerUid

end Demand

def tickDemand (config : Config) (filter : WordFilter) (world : InjectWorld)
    (limit : Nat) : Nat :=
  totalNeed (actionDemand config world.audience) (world.inject.deferred.items.take limit) +
    totalNeed (rowDemand config filter world.audience) (world.inbound.items.take limit)

/-! ## The roster during a tick -/

structure RosterShrinks (start world : InjectWorld) : Prop where
  wellFormed : start.audience.WellFormed → world.audience.WellFormed
  bootstrapped : start.audience.bootstrapped = true → world.audience.bootstrapped = true
  kept : start.audience.bootstrapped = true → ∀ key entry,
    world.audience.roster.lookup key = some entry → start.audience.roster.lookup key = some entry

instance : IsPreorder InjectWorld RosterShrinks where
  refl _ := ⟨id, id, fun _ _ _ found => found⟩
  trans _ _ _ left right := by
    refine ⟨fun holds => right.wellFormed (left.wellFormed holds),
      fun holds => right.bootstrapped (left.bootstrapped holds), ?_⟩
    intro holds key entry found
    exact left.kept holds key entry (right.kept (left.bootstrapped holds) key entry found)

theorem RosterShrinks.of_audience {start world : InjectWorld}
    (same : world.audience = start.audience) : RosterShrinks start world := by
  refine ⟨?_, ?_, ?_⟩ <;> rw [same]
  · exact id
  · exact id
  · exact fun _ _ _ found => found

section Engine

variable (engine : Engine) (config : Config) (filter : WordFilter)

theorem shrinkRules : FieldRules engine RosterShrinks where
  ask _ _ := .of_audience rfl
  update _ _ := .of_audience rfl
  bootstrap := by
    refine .bind (fun _ => .of_audience rfl) fun findAll => ?_
    refine .bind (fun _ => .of_audience rfl) fun joinReading world => ?_
    refine ⟨?_, ?_, ?_⟩
    · exact (AudienceTracker.tryBootstrapOnce_entered _ _ _).wellFormed
    · intro done
      change (world.audience.tryBootstrapOnce findAll joinReading).bootstrapped = true
      rw [AudienceTracker.tryBootstrapOnce, if_pos done]
      exact done
    · intro done key entry found
      change (world.audience.tryBootstrapOnce findAll joinReading).roster.lookup key = _ at found
      rwa [AudienceTracker.tryBootstrapOnce, if_pos done] at found
  snapshot := by
    refine .bind (fun _ => .of_audience rfl) fun alive world => ?_
    refine ⟨fun holds => holds.snapshot alive, ?_, ?_⟩
    · intro done
      change (world.audience.snapshot alive).1.bootstrapped = true
      simp only [AudienceTracker.snapshot]
      split <;> exact done
    · intro _ key entry found
      change (world.audience.snapshot alive).1.roster.lookup key = some entry at found
      rw [AudienceTracker.snapshot_roster] at found
      exact AudienceTracker.pruneDead_lookup _ alive found
  forget receivers world := by
    refine ⟨fun holds => holds.forgetMany receivers, ?_, ?_⟩
    · intro done
      change (world.audience.forgetMany receivers).bootstrapped = true
      simp only [AudienceTracker.forgetMany]
      split <;> exact done
    · intro _ key entry found
      exact AudienceTracker.forgetMany_lookup _ receivers found

/-! ## One line -/

theorem mem_present {audience : AudienceTracker} (wellFormed : audience.WellFormed)
    (key : Bytes) :
    audience.present.roster.lookup key =
      (audience.roster.lookup key).filter fun entry => entry.playerState.any fun _ => true :=
  (wellFormed.holdsLive _ (wellFormed.snapshot _)
    (AudienceTracker.snapshot_roster audience _)).roster key

section Line

variable {engine} {start world : InjectWorld}

theorem length_dualCalls (xboxSender xboxMessage formattedSender formattedMessage : Bytes)
    (xbox others : List Guid) (xboxUid : Option Guid) :
    (dualCalls xboxSender xboxMessage formattedSender formattedMessage xbox others
      xboxUid).length =
      (if others.isEmpty then 0 else 1) + (if xbox.isEmpty || xboxUid.isNone then 0 else 1) := by
  unfold dualCalls
  rw [List.length_append]
  split <;> split <;> rfl

/-- Whoever a line finds online was already on the roster. -/
theorem present_of_live (wellFormed : start.audience.WellFormed)
    (bootstrapped : start.audience.bootstrapped = true) (shrinks : RosterShrinks start world)
    {onXbox : Bool} {uid : Guid} (live : LivePlayer engine world onXbox uid) :
    ∃ entry, start.audience.present.roster.lookup (formatGuid uid) = some entry ∧
      isXboxPlatform entry.platform = onXbox := by
  rcases live with ⟨entry, found, alive, platform⟩
  have done := shrinks.bootstrapped bootstrapped
  rw [seededRoster, AudienceTracker.tryBootstrapOnce, if_pos done] at found
  refine ⟨entry, ?_, platform⟩
  rw [mem_present wellFormed, Option.filter_eq_some_iff]
  refine ⟨shrinks.kept bootstrapped _ entry found, ?_⟩
  cases state : entry.playerState with
  | none =>
      rw [state] at alive
      cases alive
  | some object => rfl

theorem online_of_onlineSender (wellFormed : start.audience.WellFormed)
    (bootstrapped : start.audience.bootstrapped = true) (shrinks : RosterShrinks start world)
    {senderPlayerUid : Option Guid} {sender : Guid}
    (online : onlineSender engine senderPlayerUid world = some sender) :
    senderPlayerUid.filter start.audience.present.isOnlinePlayerUid = some sender := by
  rcases onlineSender_eq_some.mp online with ⟨given, nonNil, onRoster⟩
  have stays : (prunedRoster engine world).WellFormed :=
    wellFormed_prunedRoster (shrinks.wellFormed wellFormed)
  rcases Option.isSome_iff_exists.mp (AList.lookup_isSome.mpr onRoster) with ⟨entry, found⟩
  have live : LivePlayer engine world (isXboxPlatform entry.platform) sender :=
    (livePlayer_iff (shrinks.wellFormed wellFormed) _ sender).mp ⟨entry, found, rfl⟩
  rcases present_of_live wellFormed bootstrapped shrinks live with ⟨held, stored, -⟩
  rw [given, Option.filter_eq_some_iff]
  refine ⟨rfl, ?_⟩
  have inRoster : formatGuid sender ∈ start.audience.present.roster :=
    AList.lookup_isSome.mp (by rw [stored]; rfl)
  simp [AudienceTracker.isOnlinePlayerUid, nonNil, inRoster]

/-- A line makes no more calls than it needs. -/
theorem length_callsFrom_le (wellFormed : start.audience.WellFormed)
    (shrinks : RosterShrinks start world)
    (xboxSender xboxMessage formattedSender formattedMessage : Bytes)
    (senderPlayerUid : Option Guid) :
    (callsFrom engine xboxSender xboxMessage formattedSender formattedMessage senderPlayerUid
      world).length ≤ dualDemand start.audience senderPlayerUid := by
  have wellFormedHere := shrinks.wellFormed wellFormed
  rw [callsFrom, length_dualCalls, dualDemand]
  cases bootstrapped : start.audience.bootstrapped with
  | true =>
      have wellFormedPresent : start.audience.present.WellFormed := wellFormed.snapshot _
      rw [if_pos rfl, lineNeed]
      apply Nat.add_le_add
      · split
        · exact Nat.zero_le _
        · rename_i someOthers
          rcases (others_ne_nil_iff wellFormedHere).mp (by simpa using someOthers) with
            ⟨uid, live⟩
          have listed : uid ∈ start.audience.present.others :=
            wellFormedPresent.mem_others.mpr
              (present_of_live wellFormed bootstrapped shrinks live)
          rw [List.isEmpty_eq_false_iff.mpr (List.ne_nil_of_mem listed)]
          exact Nat.le_refl 1
      · split
        · exact Nat.zero_le _
        · rename_i made
          rw [Bool.not_eq_true, Bool.or_eq_false_iff] at made
          rcases (xbox_ne_nil_iff wellFormedHere).mp (by simpa using made.1) with ⟨uid, live⟩
          have listed : uid ∈ start.audience.present.xbox :=
            wellFormedPresent.mem_xbox.mpr
              (present_of_live wellFormed bootstrapped shrinks live)
          rcases Option.isSome_iff_exists.mp (by simpa using made.2) with ⟨sender, online⟩
          rw [List.isEmpty_eq_false_iff.mpr (List.ne_nil_of_mem listed),
            online_of_onlineSender wellFormed bootstrapped shrinks online]
          exact Nat.le_refl 1
  | false =>
      rw [if_neg Bool.false_ne_true]
      apply Nat.add_le_add
      · split <;> omega
      · split
        · exact Nat.zero_le _
        · rename_i made
          rw [Bool.not_eq_true, Bool.or_eq_false_iff] at made
          rcases Option.isSome_iff_exists.mp (by simpa using made.2) with ⟨sender, online⟩
          rcases onlineSender_eq_some.mp online with ⟨given, nonNil, -⟩
          have kept : (some sender).filter (fun uid => decide (uid ≠ .nil)) = some sender :=
            Option.filter_eq_some_iff.mpr ⟨rfl, decide_eq_true nonNil⟩
          rw [given, kept]
          exact Nat.le_refl 1

end Line

/-! ## Actions and rows -/

theorem length_chatsOf_le (category : Category) (made : List (DisplayCall × InjectWorld)) :
    (chatsOf engine category made).length ≤ made.length := by
  induction made with
  | nil => exact Nat.le_refl 0
  | cons entry rest induction =>
      have one : (issuedChats engine category entry.1 entry.2).length ≤ 1 := by
        unfold issuedChats
        split <;> simp
      rw [chatsOf, List.flatMap_cons, List.length_append, List.length_cons, ← chatsOf]
      omega

theorem length_made (category : Category) (dual : DualCall) (world : InjectWorld) :
    (dual.made engine category world).length =
      (callsFrom engine dual.xboxSender dual.xboxMessage dual.formattedSender
        dual.formattedMessage dual.senderPlayerUid world).length := by
  rw [DualCall.made, ← List.length_map Prod.fst, madeCalls_map]

section Bounds

variable {start world : InjectWorld} (wellFormed : start.audience.WellFormed)
  (shrinks : RosterShrinks start world)
include wellFormed shrinks

theorem length_actionCalls_le (action : DeferredAction) :
    (actionCalls engine config action world).length ≤
      actionDemand config start.audience action := by
  unfold actionCalls actionDemand
  cases action.kind with
  | localTagged =>
      cases taggedDual config action with
      | none => exact Nat.zero_le _
      | some dual =>
          change (dual.made engine action.category world).length ≤ _
          rw [length_made]
          exact length_callsFrom_le wellFormed shrinks _ _ _ _ _
  | privateChat =>
      dsimp only
      split
      · exact Nat.zero_le _
      · exact Nat.le_refl 1
  | serverNotice => exact Nat.zero_le _
  | screenLog => exact Nat.zero_le _

theorem length_rowCalls_le (msg : InboundMessage) :
    (rowCalls engine config filter msg world).length ≤
      rowDemand config filter start.audience msg := by
  unfold rowCalls rowDemand
  cases rowDual config filter msg with
  | none => exact Nat.zero_le _
  | some dual =>
      change (dual.made engine config.injectCategory world).length ≤ _
      rw [length_made]
      exact length_callsFrom_le wellFormed shrinks _ _ _ _ _

/-! ## The two loops -/

theorem flushDeferred_chats_le (limit : Nat) :
    ((flushDeferred engine config limit).run world).2.chats.length ≤
      world.chats.length +
        totalNeed (actionDemand config start.audience)
          (world.inject.deferred.items.take limit) := by
  induction limit generalizing world with
  | zero => exact Nat.le_add_right _ _
  | succ remaining induction =>
      rw [flushDeferred, run_get_bind]
      cases stored : world.inject.deferred.items with
      | nil => exact Nat.le_add_right _ _
      | cons action rest =>
          have poppedShrinks : RosterShrinks start ((popDeferred action).run world).2 :=
            trans_of RosterShrinks shrinks ((shrinkRules engine).update _ world)
          have poppedChats : ((popDeferred action).run world).2.chats = world.chats :=
            note_sameChats rfl
              { world with inject := { world.inject with deferred := world.inject.deferred.pop } }
          have poppedRest : ((popDeferred action).run world).2.inject.deferred.items = rest :=
            congrArg List.tail stored
          rw [run_bind, run_bind]
          generalize ((popDeferred action).run world).2 = popped at *
          have issued := runAction_chats engine config action popped
          have bound := length_actionCalls_le engine config wellFormed poppedShrinks action
          have few := length_chatsOf_le engine action.category
            (actionCalls engine config action popped)
          have deferred : ((runAction engine config action).run popped).2.inject.deferred =
              popped.inject.deferred :=
            ((emitsRules engine).actionRules.runAction config action popped).deferred
          have ranShrinks := trans_of RosterShrinks poppedShrinks
            ((shrinkRules engine).actionRules.runAction config action popped)
          have later := induction ranShrinks
          rw [deferred, poppedRest] at later
          have lengths := congrArg List.length issued
          rw [List.length_append, poppedChats] at lengths
          rw [List.take_succ_cons, totalNeed]
          omega

theorem drainInbound_chats_le (limit : Nat) :
    ((drainInbound engine config filter limit).run world).2.chats.length ≤
      world.chats.length +
        totalNeed (rowDemand config filter start.audience) (world.inbound.items.take limit) := by
  induction limit generalizing world with
  | zero => exact Nat.le_add_right _ _
  | succ remaining induction =>
      rw [drainInbound, run_get_bind]
      cases popped : world.inbound.tryPop with
      | mk item inbound =>
      cases item with
      | none => exact Nat.le_add_right _ _
      | some item =>
          rcases BoundedQueue.tryPop_some (congrArg Prod.fst popped) with ⟨rest, stored, -⟩
          have restStored : inbound.items = rest := by
            have tail := BoundedQueue.items_tryPop world.inbound
            rw [popped] at tail
            rw [tail, BoundedQueue.items, stored, List.tail_cons]
          let taken : InjectWorld :=
            { world with inbound, inject := world.inject.note (.injecting item) }
          have takenShrinks : RosterShrinks start taken :=
            ⟨shrinks.wellFormed, shrinks.bootstrapped, shrinks.kept⟩
          have takenChats : taken.chats = world.chats := note_sameChats rfl { world with inbound }
          let ended := (broadcastOne engine config filter item).run taken
          have issued : ended.2.chats = taken.chats ++ chatsOf engine config.injectCategory
              (rowCalls engine config filter item taken) :=
            (broadcastOne_endsWith engine config filter item taken).2
          have bound := length_rowCalls_le engine config filter wellFormed takenShrinks item
          have few := length_chatsOf_le engine config.injectCategory
            (rowCalls engine config filter item taken)
          have queue : ended.2.inbound = inbound :=
            ((frameRules engine).broadcastOne config filter item taken).inbound
          have endedShrinks : RosterShrinks start ended.2 := trans_of RosterShrinks takenShrinks
            ((shrinkRules engine).actionRules.broadcastOne config filter item taken)
          let noted : InjectWorld :=
            { ended.2 with inject := ended.2.inject.note (.injected item ended.1) }
          have notedChats : noted.chats = ended.2.chats := note_sameChats rfl ended.2
          have notedShrinks : RosterShrinks start noted :=
            ⟨endedShrinks.wellFormed, endedShrinks.bootstrapped, endedShrinks.kept⟩
          have lengths := congrArg List.length issued
          rw [List.length_append, takenChats] at lengths
          rw [BoundedQueue.items, stored, List.take_succ_cons, totalNeed]
          change ((if ended.1 = true then drainInbound engine config filter remaining
            else modify fun world => { world with inbound := world.inbound.push item }).run
              noted).2.chats.length ≤ _
          cases sent : ended.1 with
          | false =>
              rw [if_neg Bool.false_ne_true]
              change noted.chats.length ≤ _
              rw [notedChats]
              omega
          | true =>
              have later := induction notedShrinks
              have notedQueue : noted.inbound.items = rest := by
                change ended.2.inbound.items = rest
                rw [queue, restStored]
              rw [notedQueue, notedChats] at later
              rw [if_pos rfl]
              omega

end Bounds

end Engine

end ChatInject

end PalCrosschat
