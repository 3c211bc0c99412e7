import PalCrosschat.Roster

/-! # Pending joins

A `PlayerState` that comes through the join hook waits until a tick can read its
identity. Here every entry of `m_pending_joins` has a record beside it: which call
pushed it, and what each tick since then has seen of it. The records of the entries
that left stay in the history. -/

namespace PalCrosschat

namespace AudienceTracker

inductive JoinSight
  | dead
  | unreadable
  | readable (uid : Guid) (platform : Bytes)
deriving DecidableEq, Repr

inductive JoinVerdict
  | stays
  | upserted (uid : Guid) (platform : Bytes)
  | dropped
deriving DecidableEq, Repr

/-- The verdict of the `age`-th tick. -/
def joinVerdict (age : Nat) : JoinSight → JoinVerdict
  | .dead => .dropped
  | .unreadable => if kJoinMaxWaitFrames ≤ age then .dropped else .stays
  | .readable uid platform =>
      if kJoinSoftReadyFrames ≤ age ∨ kJoinMaxWaitFrames ≤ age then .upserted uid platform
      else .stays

/-- The arguments of a call of `Upsert`. -/
structure UpsertCall where
  uid : Guid
  platform : Bytes
  playerState : Option ObjectRef
deriving DecidableEq, Repr

def upsertAll (audience : AudienceTracker) (calls : List UpsertCall) : AudienceTracker :=
  calls.foldl (fun audience call => audience.upsert call.uid call.platform call.playerState)
    audience

section Sight

variable (alive : ObjectRef → Bool) (joinReading : ObjectRef → Option JoinReading)

def sight (playerState : Option ObjectRef) : JoinSight :=
  match playerState.filter alive with
  | none => .dead
  | some state =>
      match tryReadJoinIdentity (joinReading state) with
      | none => .unreadable
      | some (uid, platform) => .readable uid platform

def verdict (item : PendingJoin) : JoinVerdict :=
  joinVerdict (item.frames + 1) (sight alive joinReading item.playerState)

def survivor (item : PendingJoin) : Option PendingJoin :=
  if verdict alive joinReading item = .stays then some { item with frames := item.frames + 1 }
  else none

/-- The call of `Upsert` for an entry. -/
def upsertCall (item : PendingJoin) : Option UpsertCall :=
  match verdict alive joinReading item with
  | .upserted uid platform => some { uid, platform, playerState := item.playerState }
  | _ => none

variable {alive joinReading}

theorem sight_dead {playerState : Option ObjectRef} (gone : playerState.filter alive = none) :
    sight alive joinReading playerState = .dead := by
  rw [sight, gone]

theorem sight_unreadable {state : ObjectRef} (living : alive state = true)
    (unread : tryReadJoinIdentity (joinReading state) = none) :
    sight alive joinReading (some state) = .unreadable := by
  simp [sight, Option.filter_some, living, unread]

theorem sight_readable {state : ObjectRef} (living : alive state = true) {uid : Guid}
    {platform : Bytes} (read : tryReadJoinIdentity (joinReading state) = some (uid, platform)) :
    sight alive joinReading (some state) = .readable uid platform := by
  simp [sight, Option.filter_some, living, read]

theorem processPendingJoin_eq (audience : AudienceTracker) (item : PendingJoin) :
    processPendingJoin alive joinReading audience item =
      (survivor alive joinReading item,
        audience.upsertAll (upsertCall alive joinReading item).toList) := by
  unfold processPendingJoin survivor upsertCall verdict
  dsimp only
  cases found : item.playerState.filter alive with
  | none =>
      rw [sight_dead found]
      rfl
  | some state =>
      rcases Option.filter_eq_some_iff.mp found with ⟨held, living⟩
      rw [held]
      rcases read : tryReadJoinIdentity (joinReading state) with _ | ⟨uid, platform⟩
      · rw [sight_unreadable living read]
        by_cases timedOut : kJoinMaxWaitFrames ≤ item.frames + 1
        · simp [read, joinVerdict, timedOut, upsertAll]
        · simp [read, joinVerdict, timedOut, upsertAll]
      · rw [sight_readable living read]
        by_cases ready : kJoinSoftReadyFrames ≤ item.frames + 1 ∨
          kJoinMaxWaitFrames ≤ item.frames + 1
        · simp [read, joinVerdict, ready, upsertAll]
        · simp [read, joinVerdict, ready, upsertAll]

theorem processPendingJoinsLoop_eq (items : List PendingJoin) (audience : AudienceTracker) :
    processPendingJoinsLoop alive joinReading items audience =
      (items.filterMap (survivor alive joinReading),
        audience.upsertAll (items.filterMap (upsertCall alive joinReading))) := by
  induction items generalizing audience with
  | nil => rfl
  | cons item rest induction =>
      rw [processPendingJoinsLoop, processPendingJoin_eq]
      dsimp only
      rw [induction, List.filterMap_cons, List.filterMap_cons]
      cases upsertCall alive joinReading item <;> cases survivor alive joinReading item <;> rfl

omit alive joinReading in
theorem upsert_pendingJoins (audience : AudienceTracker) (uid : Guid) (platform : Bytes)
    (playerState : Option ObjectRef) :
    (audience.upsert uid platform playerState).pendingJoins = audience.pendingJoins := by
  unfold upsert
  split <;> rfl

omit alive joinReading in
theorem upsertAll_pendingJoins (audience : AudienceTracker) (calls : List UpsertCall) :
    (audience.upsertAll calls).pendingJoins = audience.pendingJoins := by
  induction calls generalizing audience with
  | nil => rfl
  | cons call calls induction => exact (induction _).trans (upsert_pendingJoins _ _ _ _)

/-- `ProcessPendingJoins` makes the calls of its verdicts, in the order of the entries. -/
theorem processPendingJoins_eq (audience : AudienceTracker) :
    audience.processPendingJoins alive joinReading =
      { ({ audience with pendingJoins := [] } : AudienceTracker).upsertAll
          (audience.pendingJoins.filterMap (upsertCall alive joinReading)) with
        pendingJoins := audience.pendingJoins.filterMap (survivor alive joinReading) } := by
  rw [processPendingJoins, processPendingJoinsLoop_eq]
  dsimp only
  rw [upsertAll_pendingJoins, List.nil_append]

theorem tick_pendingJoins (audience : AudienceTracker) :
    (audience.tick alive joinReading).pendingJoins =
      audience.pendingJoins.filterMap (survivor alive joinReading) := by
  rw [tick, processPendingJoins_eq]
  rfl

end Sight

def Operation.aside : Operation → Bool
  | .enqueueJoin _ _ | .tick _ _ => false
  | _ => true

theorem aside_pendingJoins {operation : Operation} (aside : operation.aside = true)
    (audience : AudienceTracker) :
    (audience.step operation).pendingJoins = audience.pendingJoins := by
  cases operation with
  | upsert playerUid platformUserId playerState => exact upsert_pendingJoins _ _ _ _
  | forget playerUid =>
      simp only [step, forget]
      split
      · rfl
      · split <;> rfl
  | forgetMany playerUids =>
      simp only [step, forgetMany]
      split <;> rfl
  | enqueueJoin weakGet playerState => cases aside
  | tryBootstrapOnce findAll joinReading =>
      simp only [step, tryBootstrapOnce]
      split
      · rfl
      · split
        · rfl
        · rename_i states
          have seeded : ∀ (states : List ObjectRef) (audience : AudienceTracker),
              (states.foldl (fun audience state =>
                match tryReadJoinIdentity (joinReading state) with
                | none => audience
                | some (uid, platform) => audience.upsert uid platform (some state))
                audience).pendingJoins = audience.pendingJoins := by
            intro states
            induction states with
            | nil => exact fun _ => rfl
            | cons state states induction =>
                intro audience
                refine (induction _).trans ?_
                dsimp only
                split
                · rfl
                · exact upsert_pendingJoins _ _ _ _
          exact seeded states _
  | tick alive joinReading => cases aside
  | snapshot alive =>
      simp only [step, snapshot]
      split <;> rfl

end AudienceTracker

end PalCrosschat
