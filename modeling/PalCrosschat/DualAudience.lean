import PalCrosschat.BroadcastCalls

/-! # Who a broadcast is for

The lists of a `BroadcastDual` in terms of the roster it finds: the entries whose
`PlayerState` is alive, split by platform. -/

namespace PalCrosschat

namespace ChatInject

section LookAround

variable (engine : Engine) (world : InjectWorld)

def seededRoster : AudienceTracker :=
  world.audience.tryBootstrapOnce (engine.findAllPlayerStates world.moment)
    (engine.joinReading (world.moment + 1))

def aliveAtSnapshot (object : ObjectRef) : Bool :=
  decide (engine.weakGet (world.moment + 2) object = .live)

def prunedRoster : AudienceTracker :=
  ((seededRoster engine world).snapshot (aliveAtSnapshot engine world)).1

theorem lookAround_eq :
    lookAround engine world =
      (((prunedRoster engine world).xbox, (prunedRoster engine world).others),
        { world with
          audience := prunedRoster engine world
          moment := world.moment + 3 }) := rfl

/-- A roster player whose `PlayerState` is alive, on Xbox or not. -/
def LivePlayer (onXbox : Bool) (uid : Guid) : Prop :=
  ∃ entry, (seededRoster engine world).roster.lookup (formatGuid uid) = some entry ∧
    entry.playerState.any (aliveAtSnapshot engine world) = true ∧
    isXboxPlatform entry.platform = onXbox

variable {engine world}

theorem wellFormed_seededRoster (wellFormed : world.audience.WellFormed) :
    (seededRoster engine world).WellFormed :=
  (AudienceTracker.tryBootstrapOnce_entered _ _ _).wellFormed wellFormed

theorem wellFormed_prunedRoster (wellFormed : world.audience.WellFormed) :
    (prunedRoster engine world).WellFormed :=
  (wellFormed_seededRoster wellFormed).snapshot _

theorem livePlayer_iff (wellFormed : world.audience.WellFormed) (onXbox : Bool) (uid : Guid) :
    (∃ entry, (prunedRoster engine world).roster.lookup (formatGuid uid) = some entry ∧
      isXboxPlatform entry.platform = onXbox) ↔ LivePlayer engine world onXbox uid := by
  have seeded : (seededRoster engine world).WellFormed := wellFormed_seededRoster wellFormed
  have live := seeded.holdsLive (aliveAtSnapshot engine world)
    (wellFormed_prunedRoster wellFormed) (AudienceTracker.snapshot_roster _ _)
  rw [live.roster]
  constructor
  · intro held
    rcases held with ⟨entry, found, platform⟩
    rcases Option.filter_eq_some_iff.mp found with ⟨stored, alive⟩
    exact ⟨entry, stored, alive, platform⟩
  · intro held
    rcases held with ⟨entry, stored, alive, platform⟩
    exact ⟨entry, Option.filter_eq_some_iff.mpr ⟨stored, alive⟩, platform⟩

theorem mem_xbox_iff (wellFormed : world.audience.WellFormed) (uid : Guid) :
    uid ∈ (lookAround engine world).1.1 ↔ LivePlayer engine world true uid := by
  rw [lookAround_eq, ← livePlayer_iff wellFormed]
  exact (wellFormed_prunedRoster wellFormed).mem_xbox

theorem mem_others_iff (wellFormed : world.audience.WellFormed) (uid : Guid) :
    uid ∈ (lookAround engine world).1.2 ↔ LivePlayer engine world false uid := by
  rw [lookAround_eq, ← livePlayer_iff wellFormed]
  exact (wellFormed_prunedRoster wellFormed).mem_others

theorem nodup_lookAround (wellFormed : world.audience.WellFormed) :
    ((lookAround engine world).1.2 ++ (lookAround engine world).1.1).Nodup :=
  List.nodup_append_comm.mp (wellFormed_prunedRoster wellFormed).nodup_lists

end LookAround

/-! ## The split -/

/-- The calls of one `BroadcastDual`, by what they are made of and for whom. -/
structure DualSplit (engine : Engine) (world : InjectWorld)
    (xboxSender xboxMessage formattedSender formattedMessage : Bytes)
    (senderPlayerUid : Option Guid) (calls : List DisplayCall) : Prop where
  /-- A call without a sender uid is the formatted line, for all live players who are
  not on Xbox. -/
  formatted : ∀ call ∈ calls, call.senderPlayerUid = none →
    call.displaySender = formattedSender ∧ call.message = formattedMessage ∧
      ∀ uid, uid ∈ call.receivers ↔ LivePlayer engine world false uid
  formattedMade : (∃ call ∈ calls, call.senderPlayerUid = none) ↔
    ∃ uid, LivePlayer engine world false uid
  /-- A call with a sender uid is the plain line of a sender on the pruned roster, for all
  live Xbox players. -/
  plain : ∀ call ∈ calls, ∀ sender, call.senderPlayerUid = some sender →
    call.displaySender = xboxSender ∧ call.message = xboxMessage ∧
      senderPlayerUid = some sender ∧ sender ≠ .nil ∧
      formatGuid sender ∈ (prunedRoster engine world).roster ∧
      ∀ uid, uid ∈ call.receivers ↔ LivePlayer engine world true uid
  plainMade : (∃ call ∈ calls, call.senderPlayerUid.isSome = true) ↔
    (∃ uid, LivePlayer engine world true uid) ∧
      ∃ sender, senderPlayerUid = some sender ∧ sender ≠ .nil ∧
        formatGuid sender ∈ (prunedRoster engine world).roster
  /-- Nobody is in two lists, or twice in one. -/
  once : (calls.flatMap DisplayCall.receivers).Nodup
  noXboxWithoutSender : ∀ call ∈ calls, call.senderPlayerUid = none →
    ∀ uid, LivePlayer engine world true uid → uid ∉ call.receivers
  nobody : (prunedRoster engine world).roster.keys = [] → calls = []

section Dual

variable {engine : Engine} {world : InjectWorld}
  {xboxSender xboxMessage formattedSender formattedMessage : Bytes}
  {senderPlayerUid : Option Guid}

/-- The two calls there can be. -/
theorem mem_callsFrom {call : DisplayCall} :
    call ∈ callsFrom engine xboxSender xboxMessage formattedSender formattedMessage
        senderPlayerUid world ↔
      (lookAround engine world).1.2 ≠ [] ∧
        call = ⟨formattedSender, formattedMessage, (lookAround engine world).1.2, none⟩ ∨
      ((lookAround engine world).1.1 ≠ [] ∧
        (onlineSender engine senderPlayerUid world).isSome = true) ∧
        call = ⟨xboxSender, xboxMessage, (lookAround engine world).1.1,
          onlineSender engine senderPlayerUid world⟩ := by
  unfold callsFrom dualCalls
  rw [List.mem_append]
  apply or_congr
  · cases (lookAround engine world).1.2 <;> simp
  · cases (lookAround engine world).1.1 <;>
      cases onlineSender engine senderPlayerUid world <;> simp

theorem onlineSender_eq_some {sender : Guid} :
    onlineSender engine senderPlayerUid world = some sender ↔
      senderPlayerUid = some sender ∧ sender ≠ .nil ∧
        formatGuid sender ∈ (prunedRoster engine world).roster := by
  unfold onlineSender
  rw [Option.filter_eq_some_iff, lookAround_eq]
  simp [AudienceTracker.isOnlinePlayerUid]

theorem ne_nil_iff_exists {uids : List Guid} {Listed : Guid → Prop}
    (members : ∀ uid, uid ∈ uids ↔ Listed uid) : uids ≠ [] ↔ ∃ uid, Listed uid := by
  constructor
  · intro nonempty
    rcases List.exists_mem_of_ne_nil _ nonempty with ⟨uid, listed⟩
    exact ⟨uid, (members uid).mp listed⟩
  · intro somebody
    rcases somebody with ⟨uid, listed⟩
    exact List.ne_nil_of_mem ((members uid).mpr listed)

theorem others_ne_nil_iff (wellFormed : world.audience.WellFormed) :
    (lookAround engine world).1.2 ≠ [] ↔ ∃ uid, LivePlayer engine world false uid :=
  ne_nil_iff_exists (mem_others_iff wellFormed)

theorem xbox_ne_nil_iff (wellFormed : world.audience.WellFormed) :
    (lookAround engine world).1.1 ≠ [] ↔ ∃ uid, LivePlayer engine world true uid :=
  ne_nil_iff_exists (mem_xbox_iff wellFormed)

theorem lists_of_no_keys (wellFormed : world.audience.WellFormed)
    (nobody : (prunedRoster engine world).roster.keys = []) (onXbox : Bool) (uid : Guid) :
    ¬LivePlayer engine world onXbox uid := by
  intro live
  rcases (livePlayer_iff wellFormed onXbox uid).mpr live with ⟨entry, found, -⟩
  have stored : formatGuid uid ∈ (prunedRoster engine world).roster.keys :=
    AList.mem_keys.mp (AList.lookup_isSome.mp (by rw [found]; rfl))
  rw [nobody] at stored
  exact List.not_mem_nil stored

theorem callsFrom_receivers :
    (callsFrom engine xboxSender xboxMessage formattedSender formattedMessage senderPlayerUid
      world).flatMap DisplayCall.receivers =
    (lookAround engine world).1.2 ++
      if (onlineSender engine senderPlayerUid world).isSome = true then
        (lookAround engine world).1.1
      else [] := by
  unfold callsFrom dualCalls
  rw [List.flatMap_append]
  congr 1
  · cases (lookAround engine world).1.2 <;> simp
  · cases (lookAround engine world).1.1 <;>
      cases onlineSender engine senderPlayerUid world <;> simp

theorem dualSplit_callsFrom (wellFormed : world.audience.WellFormed) :
    DualSplit engine world xboxSender xboxMessage formattedSender formattedMessage
      senderPlayerUid (callsFrom engine xboxSender xboxMessage formattedSender
        formattedMessage senderPlayerUid world) where
  formatted := by
    intro call member noSender
    rcases mem_callsFrom.mp member with ⟨-, rfl⟩ | ⟨⟨-, online⟩, rfl⟩
    · exact ⟨rfl, rfl, mem_others_iff wellFormed⟩
    · exact absurd noSender (Option.isSome_iff_ne_none.mp online)
  formattedMade := by
    rw [← others_ne_nil_iff wellFormed]
    constructor
    · intro made
      rcases made with ⟨call, member, noSender⟩
      rcases mem_callsFrom.mp member with ⟨someOthers, -⟩ | ⟨⟨-, online⟩, rfl⟩
      · exact someOthers
      · exact absurd noSender (Option.isSome_iff_ne_none.mp online)
    · intro someOthers
      exact ⟨_, mem_callsFrom.mpr (.inl ⟨someOthers, rfl⟩), rfl⟩
  plain := by
    intro call member sender hasSender
    rcases mem_callsFrom.mp member with ⟨-, rfl⟩ | ⟨⟨-, online⟩, rfl⟩
    · cases hasSender
    · rcases onlineSender_eq_some.mp hasSender with ⟨given, nonNil, onRoster⟩
      exact ⟨rfl, rfl, given, nonNil, onRoster, mem_xbox_iff wellFormed⟩
  plainMade := by
    rw [← xbox_ne_nil_iff wellFormed]
    constructor
    · intro made
      rcases made with ⟨call, member, hasSender⟩
      rcases mem_callsFrom.mp member with ⟨-, rfl⟩ | ⟨⟨someXbox, online⟩, -⟩
      · cases hasSender
      · rcases Option.isSome_iff_exists.mp online with ⟨sender, found⟩
        exact ⟨someXbox, sender, onlineSender_eq_some.mp found⟩
    · intro due
      rcases due with ⟨someXbox, sender, given⟩
      have online : (onlineSender engine senderPlayerUid world).isSome = true :=
        Option.isSome_iff_exists.mpr ⟨sender, onlineSender_eq_some.mpr given⟩
      exact ⟨_, mem_callsFrom.mpr (.inr ⟨⟨someXbox, online⟩, rfl⟩), online⟩
  once := by
    have distinct : ((lookAround engine world).1.2 ++ (lookAround engine world).1.1).Nodup :=
      nodup_lookAround wellFormed
    rw [callsFrom_receivers]
    split
    · exact distinct
    · rw [List.append_nil]
      exact distinct.of_append_left
  noXboxWithoutSender := by
    intro call member noSender uid onXbox listed
    rcases mem_callsFrom.mp member with ⟨-, rfl⟩ | ⟨⟨-, online⟩, rfl⟩
    · rcases (mem_others_iff wellFormed uid).mp listed with ⟨entry, found, -, platform⟩
      rcases onXbox with ⟨other, foundOther, -, otherPlatform⟩
      rw [found] at foundOther
      cases foundOther
      rw [platform] at otherPlatform
      cases otherPlatform
    · exact absurd noSender (Option.isSome_iff_ne_none.mp online)
  nobody := by
    intro noKeys
    have nobody := lists_of_no_keys wellFormed noKeys
    apply List.eq_nil_iff_forall_not_mem.mpr
    intro call member
    rcases mem_callsFrom.mp member with ⟨someOthers, -⟩ | ⟨⟨someXbox, -⟩, -⟩
    · rcases (others_ne_nil_iff wellFormed).mp someOthers with ⟨uid, live⟩
      exact nobody false uid live
    · rcases (xbox_ne_nil_iff wellFormed).mp someXbox with ⟨uid, live⟩
      exact nobody true uid live

/-- From every roster the tracker can have, a `BroadcastDual` performs a list of calls
that splits the live players by platform. -/
theorem broadcastDual_split (engine : Engine) (operations : List AudienceTracker.Operation)
    (start : InjectWorld)
    (xboxSender xboxMessage formattedSender formattedMessage : Bytes) (category : Category)
    (senderPlayerUid : Option Guid) :
    let world := { start with audience := AudienceTracker.run operations }
    let calls := callsFrom engine xboxSender xboxMessage formattedSender formattedMessage
      senderPlayerUid world
    (broadcastDual engine xboxSender xboxMessage formattedSender formattedMessage category
      senderPlayerUid).run world =
        (performCalls engine category calls).run (beforeCalls engine world) ∧
      DualSplit engine world xboxSender xboxMessage formattedSender formattedMessage
        senderPlayerUid calls :=
  ⟨broadcastDual_run engine _ _ _ _ _ _ _,
    dualSplit_callsFrom (AudienceTracker.wellFormed_run operations)⟩

end Dual

end ChatInject

end PalCrosschat
