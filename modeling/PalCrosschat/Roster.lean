import PalCrosschat.Audience
import PalCrosschat.Foundation.Execution
import PalCrosschat.Foundation.KeyedTable

/-! # The roster and its lists

`AudienceTracker` as a machine whose inputs are the calls the mod makes. The
Xbox list and the list of the others are caches of the roster: six functions
have to rebuild them, three of these only when something changed. -/

namespace PalCrosschat

namespace AudienceTracker

/-- A call of the mod. A player enters with the `PlayerState` the uid was read
from. Weak pointers may die between two calls. -/
inductive Operation
  | upsert (playerUid : Guid) (platformUserId : Bytes) (playerState : ObjectRef)
  | forget (playerUid : Guid)
  | forgetMany (playerUids : List Guid)
  | enqueueJoin (weakGet : ObjectRef → WeakAnswer) (playerState : Option ObjectRef)
  | tryBootstrapOnce (findAll : Option (List ObjectRef))
      (joinReading : ObjectRef → Option JoinReading)
  | tick (alive : ObjectRef → Bool) (joinReading : ObjectRef → Option JoinReading)
  | snapshot (alive : ObjectRef → Bool)

def step (audience : AudienceTracker) : Operation → AudienceTracker
  | .upsert playerUid platformUserId playerState =>
      audience.upsert playerUid platformUserId (some playerState)
  | .forget playerUid => audience.forget playerUid
  | .forgetMany playerUids => audience.forgetMany playerUids
  | .enqueueJoin weakGet playerState => audience.enqueueJoin weakGet playerState
  | .tryBootstrapOnce findAll joinReading => audience.tryBootstrapOnce findAll joinReading
  | .tick alive joinReading => audience.tick alive joinReading
  | .snapshot alive => (audience.snapshot alive).1

abbrev run (operations : List Operation) : AudienceTracker :=
  Execution.run step {} operations

/-! ## The invariant -/

/-- The lists are what `RebuildListsUnlocked` would make of the roster. -/
structure FreshLists (audience : AudienceTracker) : Prop where
  xbox : audience.xbox = audience.rebuildLists.xbox
  others : audience.others = audience.rebuildLists.others

structure WellFormed (audience : AudienceTracker) : Prop where
  keyed : KeyedTable.Keyed formatGuid RosterEntry.uid audience.roster
  known : ∀ key entry, audience.roster.lookup key = some entry →
    entry.uid ≠ .nil ∧ entry.hasWeak = true
  lists : FreshLists audience

theorem freshLists_rebuildLists (audience : AudienceTracker) :
    FreshLists audience.rebuildLists :=
  ⟨rfl, rfl⟩

theorem FreshLists.of_eq {before after : AudienceTracker} (fresh : FreshLists before)
    (roster : after.roster = before.roster) (xbox : after.xbox = before.xbox)
    (others : after.others = before.others) : FreshLists after := by
  constructor
  · rw [xbox, fresh.xbox, rebuildLists, rebuildLists, roster]
  · rw [others, fresh.others, rebuildLists, rebuildLists, roster]

section WellFormed

variable {audience : AudienceTracker}

theorem WellFormed.shrink (wellFormed : audience.WellFormed) {after : AudienceTracker}
    (kept : ∀ key entry, after.roster.lookup key = some entry →
      audience.roster.lookup key = some entry)
    (lists : FreshLists after) : after.WellFormed where
  keyed := wellFormed.keyed.shrink kept
  known key entry found := wellFormed.known key entry (kept key entry found)
  lists := lists

theorem WellFormed.of_eq (wellFormed : audience.WellFormed) {after : AudienceTracker}
    (roster : after.roster = audience.roster) (xbox : after.xbox = audience.xbox)
    (others : after.others = audience.others) : after.WellFormed := by
  apply wellFormed.shrink
  · intro key entry found
    rwa [roster] at found
  · exact wellFormed.lists.of_eq roster xbox others

theorem WellFormed.mem_xbox (wellFormed : audience.WellFormed) {uid : Guid} :
    uid ∈ audience.xbox ↔ ∃ entry, audience.roster.lookup (formatGuid uid) = some entry ∧
      isXboxPlatform entry.platform = true := by
  rw [wellFormed.lists.xbox]
  exact wellFormed.keyed.mem_select_iff formatGuid_injective _ uid

theorem WellFormed.mem_others (wellFormed : audience.WellFormed) {uid : Guid} :
    uid ∈ audience.others ↔ ∃ entry, audience.roster.lookup (formatGuid uid) = some entry ∧
      isXboxPlatform entry.platform = false := by
  rw [wellFormed.lists.others]
  have listed := wellFormed.keyed.mem_select_iff formatGuid_injective
    (fun entry => !isXboxPlatform entry.platform) uid
  simp only [Bool.not_eq_true'] at listed
  exact listed

theorem WellFormed.nodup_lists (wellFormed : audience.WellFormed) :
    (audience.xbox ++ audience.others).Nodup := by
  rw [wellFormed.lists.xbox, wellFormed.lists.others]
  exact wellFormed.keyed.nodup_split fun entry => isXboxPlatform entry.platform

end WellFormed

/-! ## Entering -/

def Grows (before after : AudienceTracker) : Prop :=
  ∀ key entry, before.roster.lookup key = some entry →
    ∃ refreshed, after.roster.lookup key = some refreshed ∧
      (entry.platform ≠ [] → refreshed.platform ≠ [])

theorem Grows.refl (audience : AudienceTracker) : Grows audience audience :=
  fun _ entry found => ⟨entry, found, id⟩

theorem Grows.trans {first second third : AudienceTracker} (left : Grows first second)
    (right : Grows second third) : Grows first third := by
  intro key entry found
  rcases left key entry found with ⟨middle, foundMiddle, keptMiddle⟩
  rcases right key middle foundMiddle with ⟨last, foundLast, keptLast⟩
  exact ⟨last, foundLast, fun known => keptLast (keptMiddle known)⟩

structure Entered (before after : AudienceTracker) : Prop where
  wellFormed : before.WellFormed → after.WellFormed
  grows : Grows before after

theorem Entered.refl (audience : AudienceTracker) : Entered audience audience :=
  ⟨id, .refl audience⟩

theorem Entered.trans {first second third : AudienceTracker} (left : Entered first second)
    (right : Entered second third) : Entered first third :=
  ⟨fun wellFormed => right.wellFormed (left.wellFormed wellFormed),
    left.grows.trans right.grows⟩

theorem Entered.of_eq {before after : AudienceTracker} (roster : after.roster = before.roster)
    (xbox : after.xbox = before.xbox) (others : after.others = before.others) :
    Entered before after where
  wellFormed wellFormed := wellFormed.of_eq roster xbox others
  grows key entry found := ⟨entry, by rw [roster, found], id⟩

section Upsert

variable (audience : AudienceTracker) (playerUid : Guid) (platformUserId : Bytes)

/-- The entry an `Upsert` leaves. -/
def upserted (playerState : Option ObjectRef) : RosterEntry :=
  let entry := (audience.roster.lookup (formatGuid playerUid)).getD {}
  let platform := normalizePlatformUserId platformUserId
  { entry with
    uid := playerUid
    platform := if platform.isEmpty then entry.platform else platform
    playerState := playerState <|> entry.playerState
    hasWeak := entry.hasWeak || playerState.isSome }

theorem upsert_roster {playerUid : Guid} (nonNil : playerUid ≠ .nil)
    (playerState : Option ObjectRef) :
    (audience.upsert playerUid platformUserId playerState).roster =
      audience.roster.insert (formatGuid playerUid)
        (audience.upserted playerUid platformUserId playerState) := by
  rw [upsert, if_neg nonNil]
  rfl

theorem upsert_entered (playerState : ObjectRef) :
    Entered audience (audience.upsert playerUid platformUserId (some playerState)) := by
  by_cases isNil : playerUid = .nil
  · rw [upsert, if_pos isNil]
    exact .refl audience
  have roster := upsert_roster audience platformUserId isNil (some playerState)
  constructor
  · intro wellFormed
    constructor
    · rw [roster]
      exact wellFormed.keyed.insert (audience.upserted playerUid platformUserId _)
    · intro key entry found
      rw [roster, KeyedTable.lookup_insert_eq] at found
      split at found
      · cases found
        exact ⟨isNil, by simp [upserted]⟩
      · exact wellFormed.known key entry found
    · rw [upsert, if_neg isNil]
      exact freshLists_rebuildLists _
  · intro key entry found
    by_cases same : key = formatGuid playerUid
    · refine ⟨audience.upserted playerUid platformUserId (some playerState), ?_, ?_⟩
      · rw [roster, same, AList.lookup_insert]
      · intro known
        rw [same] at found
        simp only [upserted, found, Option.getD_some]
        split
        · exact known
        · rename_i given
          exact fun unknown => given (List.isEmpty_iff.mpr unknown)
    · exact ⟨entry, by rw [roster, AList.lookup_insert_ne same, found], id⟩

end Upsert

theorem processPendingJoin_entered (alive : ObjectRef → Bool)
    (joinReading : ObjectRef → Option JoinReading) (audience : AudienceTracker)
    (item : PendingJoin) :
    Entered audience (processPendingJoin alive joinReading audience item).2 := by
  unfold processPendingJoin
  dsimp only
  split
  · exact .refl audience
  · split
    · split
      · exact upsert_entered audience _ _ _
      · exact .refl audience
    · exact .refl audience

theorem processPendingJoinsLoop_entered (alive : ObjectRef → Bool)
    (joinReading : ObjectRef → Option JoinReading) (items : List PendingJoin)
    (audience : AudienceTracker) :
    Entered audience (processPendingJoinsLoop alive joinReading items audience).2 := by
  induction items generalizing audience with
  | nil => exact .refl audience
  | cons item rest induction =>
      exact (processPendingJoin_entered alive joinReading audience item).trans (induction _)

theorem processPendingJoins_entered (audience : AudienceTracker) (alive : ObjectRef → Bool)
    (joinReading : ObjectRef → Option JoinReading) :
    Entered audience (audience.processPendingJoins alive joinReading) := by
  have swapped : Entered audience { audience with pendingJoins := [] } := .of_eq rfl rfl rfl
  have looped := processPendingJoinsLoop_entered alive joinReading audience.pendingJoins
    { audience with pendingJoins := [] }
  exact (swapped.trans looped).trans (.of_eq rfl rfl rfl)

theorem enqueueJoin_entered (audience : AudienceTracker) (weakGet : ObjectRef → WeakAnswer)
    (playerState : Option ObjectRef) :
    Entered audience (audience.enqueueJoin weakGet playerState) := by
  cases playerState with
  | none => exact .refl audience
  | some object => exact .of_eq rfl rfl rfl

theorem foldl_entered {change : AudienceTracker → ObjectRef → AudienceTracker}
    (enters : ∀ audience state, Entered audience (change audience state))
    (states : List ObjectRef) (audience : AudienceTracker) :
    Entered audience (states.foldl change audience) := by
  induction states generalizing audience with
  | nil => exact .refl audience
  | cons state rest induction => exact (enters audience state).trans (induction _)

theorem tryBootstrapOnce_entered (audience : AudienceTracker)
    (findAll : Option (List ObjectRef)) (joinReading : ObjectRef → Option JoinReading) :
    Entered audience (audience.tryBootstrapOnce findAll joinReading) := by
  unfold tryBootstrapOnce
  split
  · exact .refl audience
  · have marked : Entered audience { audience with bootstrapped := true } := .of_eq rfl rfl rfl
    cases findAll with
    | none => exact marked
    | some states =>
        refine marked.trans (foldl_entered ?_ states _)
        intro audience state
        cases tryReadJoinIdentity (joinReading state) with
        | none => exact .refl audience
        | some identity => exact upsert_entered audience _ _ _

/-! ## Leaving -/

section Leaving

variable (audience : AudienceTracker)

theorem lookup_pruneDead (alive : ObjectRef → Bool) (key : Bytes) :
    (audience.pruneDead alive).roster.lookup key =
      (audience.roster.lookup key).filter fun entry =>
        !entry.hasWeak || entry.playerState.any alive := by
  have dead : ∀ entry, audience.roster.lookup key = some entry →
      (key ∈ audience.deadKeys alive ↔
        (!entry.hasWeak || entry.playerState.any alive) = false) := by
    intro entry found
    unfold deadKeys
    constructor
    · intro member
      rcases List.mem_map.mp member with ⟨⟨other, held⟩, selected, rfl⟩
      rcases List.mem_filter.mp selected with ⟨position, gone⟩
      have same : audience.roster.lookup other = some held := AList.mem_lookup_iff.mpr position
      rw [found] at same
      cases same
      simpa using gone
    · intro gone
      exact List.mem_map.mpr ⟨⟨key, entry⟩,
        List.mem_filter.mpr ⟨AList.mem_lookup_iff.mp found, by simpa using gone⟩, rfl⟩
  change ((audience.deadKeys alive).foldl _ audience.roster).lookup key = _
  rw [KeyedTable.lookup_foldl_erase]
  cases found : audience.roster.lookup key with
  | none => simp
  | some entry =>
      have gone := dead entry found
      by_cases member : key ∈ audience.deadKeys alive
      · rw [if_pos member, Option.filter_some, if_neg (by simp [gone.mp member])]
      · have stays : (!entry.hasWeak || entry.playerState.any alive) = true := by
          rw [← Bool.not_eq_false]
          exact fun absent => member (gone.mpr absent)
        rw [if_neg member, Option.filter_some, if_pos stays]

theorem snapshot_roster (alive : ObjectRef → Bool) :
    (audience.snapshot alive).1.roster = (audience.pruneDead alive).roster := by
  simp only [snapshot]
  split <;> rfl

theorem freshLists_snapshot (alive : ObjectRef → Bool) (fresh : FreshLists audience) :
    FreshLists (audience.snapshot alive).1 := by
  simp only [snapshot]
  split
  · rename_i nobody
    refine fresh.of_eq ?_ rfl rfl
    rw [pruneDead, List.isEmpty_iff.mp nobody]
    rfl
  · exact freshLists_rebuildLists _

theorem forget_lookup (playerUid : Guid) {key : Bytes} {entry : RosterEntry}
    (found : (audience.forget playerUid).roster.lookup key = some entry) :
    audience.roster.lookup key = some entry := by
  simp only [forget] at found
  split at found
  · exact found
  · split at found
    · change (audience.roster.erase (formatGuid playerUid)).lookup key = some entry at found
      rw [KeyedTable.lookup_erase_eq] at found
      split at found
      · cases found
      · exact found
    · exact found

theorem forgetMany_lookup (playerUids : List Guid) {key : Bytes} {entry : RosterEntry}
    (found : (audience.forgetMany playerUids).roster.lookup key = some entry) :
    audience.roster.lookup key = some entry := by
  simp only [forgetMany] at found
  split at found
  · change (List.foldl _ audience.roster _).lookup key = some entry at found
    rw [KeyedTable.lookup_foldl_erase] at found
    split at found
    · cases found
    · exact found
  · exact found

theorem pruneDead_lookup (alive : ObjectRef → Bool) {key : Bytes} {entry : RosterEntry}
    (found : (audience.pruneDead alive).roster.lookup key = some entry) :
    audience.roster.lookup key = some entry := by
  rw [lookup_pruneDead] at found
  exact (Option.filter_eq_some_iff.mp found).1

end Leaving

/-! ## Every call -/

section Step

variable {audience : AudienceTracker}

theorem WellFormed.pruned (wellFormed : audience.WellFormed) (alive : ObjectRef → Bool)
    {after : AudienceTracker} (roster : after.roster = (audience.pruneDead alive).roster)
    (lists : FreshLists after) : after.WellFormed := by
  apply wellFormed.shrink
  · intro key entry found
    rw [roster] at found
    exact pruneDead_lookup audience alive found
  · exact lists

theorem WellFormed.forget (wellFormed : audience.WellFormed) (playerUid : Guid) :
    (audience.forget playerUid).WellFormed := by
  apply wellFormed.shrink
  · intro key entry
    exact forget_lookup audience playerUid
  · simp only [AudienceTracker.forget]
    split
    · exact wellFormed.lists
    · split
      · exact freshLists_rebuildLists _
      · exact wellFormed.lists

theorem WellFormed.forgetMany (wellFormed : audience.WellFormed) (playerUids : List Guid) :
    (audience.forgetMany playerUids).WellFormed := by
  apply wellFormed.shrink
  · intro key entry
    exact forgetMany_lookup audience playerUids
  · simp only [AudienceTracker.forgetMany]
    split
    · exact freshLists_rebuildLists _
    · exact wellFormed.lists

theorem WellFormed.snapshot (wellFormed : audience.WellFormed) (alive : ObjectRef → Bool) :
    (audience.snapshot alive).1.WellFormed :=
  wellFormed.pruned alive (snapshot_roster audience alive)
    (freshLists_snapshot audience alive wellFormed.lists)

theorem WellFormed.tick (wellFormed : audience.WellFormed) (alive : ObjectRef → Bool)
    (joinReading : ObjectRef → Option JoinReading) :
    (audience.tick alive joinReading).WellFormed :=
  ((processPendingJoins_entered audience alive joinReading).wellFormed wellFormed).pruned
    alive rfl (freshLists_rebuildLists _)

theorem WellFormed.step (wellFormed : audience.WellFormed) (operation : Operation) :
    (audience.step operation).WellFormed := by
  cases operation with
  | upsert playerUid platformUserId playerState =>
      exact (upsert_entered audience playerUid platformUserId playerState).wellFormed wellFormed
  | forget playerUid => exact wellFormed.forget playerUid
  | forgetMany playerUids => exact wellFormed.forgetMany playerUids
  | enqueueJoin weakGet playerState =>
      exact (enqueueJoin_entered audience weakGet playerState).wellFormed wellFormed
  | tryBootstrapOnce findAll joinReading =>
      exact (tryBootstrapOnce_entered audience findAll joinReading).wellFormed wellFormed
  | tick alive joinReading => exact wellFormed.tick alive joinReading
  | snapshot alive => exact wellFormed.snapshot alive

theorem wellFormed_empty : WellFormed {} where
  keyed := nofun
  known := nofun
  lists := ⟨rfl, rfl⟩

/-- The tracker is well-formed after every sequence of calls. -/
theorem wellFormed_run (operations : List Operation) : (run operations).WellFormed :=
  Execution.run_invariant WellFormed (fun _ operation holds => holds.step operation)
    wellFormed_empty operations

theorem step_lookup (operation : Operation) {key : Bytes} {after : RosterEntry}
    (found : (audience.step operation).roster.lookup key = some after)
    {entry : RosterEntry} (before : audience.roster.lookup key = some entry)
    (known : entry.platform ≠ []) : after.platform ≠ [] := by
  have entering : ∀ {grown : AudienceTracker}, Grows audience grown →
      grown.roster.lookup key = some after → after.platform ≠ [] := by
    intro grown grows held
    rcases grows key entry before with ⟨refreshed, looked, kept⟩
    rw [held] at looked
    cases looked
    exact kept known
  cases operation with
  | upsert playerUid platformUserId playerState =>
      exact entering (upsert_entered audience playerUid platformUserId playerState).grows found
  | forget playerUid =>
      exact entering (.refl audience) (forget_lookup audience playerUid found)
  | forgetMany playerUids =>
      exact entering (.refl audience) (forgetMany_lookup audience playerUids found)
  | enqueueJoin weakGet playerState =>
      exact entering (enqueueJoin_entered audience weakGet playerState).grows found
  | tryBootstrapOnce findAll joinReading =>
      exact entering (tryBootstrapOnce_entered audience findAll joinReading).grows found
  | tick alive joinReading =>
      exact entering (processPendingJoins_entered audience alive joinReading).grows
        (pruneDead_lookup _ alive found)
  | snapshot alive =>
      apply entering (.refl audience)
      rw [step, snapshot_roster] at found
      exact pruneDead_lookup audience alive found

end Step

/-! ## Main result -/

/-- The roster and both lists hold exactly the entries of an earlier roster whose
`PlayerState` is alive. -/
structure HoldsLive (alive : ObjectRef → Bool) (before after : AudienceTracker) : Prop where
  roster : ∀ key, after.roster.lookup key =
    (before.roster.lookup key).filter fun entry => entry.playerState.any alive
  lists : ∀ uid, uid ∈ after.xbox ++ after.others ↔
    ∃ entry, before.roster.lookup (formatGuid uid) = some entry ∧
      entry.playerState.any alive = true

theorem WellFormed.holdsLive {before after : AudienceTracker} (wellFormed : before.WellFormed)
    (alive : ObjectRef → Bool) (wellFormedAfter : after.WellFormed)
    (roster : after.roster = (before.pruneDead alive).roster) :
    HoldsLive alive before after := by
  have looked : ∀ key, after.roster.lookup key =
      (before.roster.lookup key).filter fun entry => entry.playerState.any alive := by
    intro key
    rw [roster, lookup_pruneDead]
    cases found : before.roster.lookup key with
    | none => rfl
    | some entry => simp [Option.filter_some, (wellFormed.known key entry found).2]
  refine ⟨looked, ?_⟩
  intro uid
  rw [List.mem_append, wellFormedAfter.mem_xbox, wellFormedAfter.mem_others, looked]
  constructor
  · intro listed
    rcases listed with ⟨entry, found, -⟩ | ⟨entry, found, -⟩
    · exact ⟨entry, Option.filter_eq_some_iff.mp found⟩
    · exact ⟨entry, Option.filter_eq_some_iff.mp found⟩
  · intro held
    rcases held with ⟨entry, found, live⟩
    have kept : (before.roster.lookup (formatGuid uid)).filter
        (fun entry => entry.playerState.any alive) = some entry :=
      Option.filter_eq_some_iff.mpr ⟨found, live⟩
    cases platform : isXboxPlatform entry.platform with
    | true => exact .inl ⟨entry, kept, platform⟩
    | false => exact .inr ⟨entry, kept, platform⟩

/-- What holds of the roster and its lists after every sequence of calls, and of the
call that comes next. -/
theorem roster_represented (operations : List Operation) :
    let audience := run operations
    (∀ key entry, audience.roster.lookup key = some entry →
      key = formatGuid entry.uid ∧ entry.uid ≠ .nil ∧ entry.hasWeak = true) ∧
    (audience.xbox ++ audience.others).Nodup ∧
    (∀ uid, uid ∈ audience.xbox ↔ ∃ key entry, audience.roster.lookup key = some entry ∧
      entry.uid = uid ∧ isXboxPlatform entry.platform = true) ∧
    (∀ uid, uid ∈ audience.others ↔ ∃ key entry, audience.roster.lookup key = some entry ∧
      entry.uid = uid ∧ isXboxPlatform entry.platform = false) ∧
    (∀ operation key entry after, audience.roster.lookup key = some entry →
      (audience.step operation).roster.lookup key = some after →
      entry.platform ≠ [] → after.platform ≠ []) ∧
    (∀ alive, HoldsLive alive audience (audience.step (.snapshot alive))) ∧
    (∀ alive joinReading, HoldsLive alive (audience.processPendingJoins alive joinReading)
      (audience.step (.tick alive joinReading))) := by
  have wellFormed := wellFormed_run operations
  generalize run operations = audience at wellFormed ⊢
  refine ⟨?_, wellFormed.nodup_lists, ?_, ?_, ?_, ?_, ?_⟩
  · intro key entry found
    exact ⟨wellFormed.keyed key entry found, wellFormed.known key entry found⟩
  · intro uid
    rw [wellFormed.lists.xbox]
    exact KeyedTable.mem_select _ _ _ uid
  · intro uid
    rw [wellFormed.lists.others]
    have listed := KeyedTable.mem_select RosterEntry.uid
      (fun entry => !isXboxPlatform entry.platform) audience.roster uid
    simp only [Bool.not_eq_true'] at listed
    exact listed
  · intro operation key entry after before found known
    exact step_lookup operation found before known
  · intro alive
    exact wellFormed.holdsLive alive (wellFormed.snapshot alive)
      (snapshot_roster audience alive)
  · intro alive joinReading
    have joined := (processPendingJoins_entered audience alive joinReading).wellFormed wellFormed
    exact joined.holdsLive alive (wellFormed.tick alive joinReading) rfl

end AudienceTracker

end PalCrosschat
