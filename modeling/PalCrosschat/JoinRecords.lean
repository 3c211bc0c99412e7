import PalCrosschat.PendingJoins

/-! # The records of pending joins

Every entry of `m_pending_joins` keeps a record: which call pushed it, and what each
tick since then has seen of it. An entry that leaves takes its record and its verdict
into the history. -/

namespace PalCrosschat

namespace AudienceTracker

structure JoinTicket where
  time : Nat
  playerState : ObjectRef
deriving DecidableEq, Repr

structure JoinRecord where
  ticket : JoinTicket
  /-- The first tick first. -/
  sights : List JoinSight := []
deriving DecidableEq, Repr

/-- An entry of `m_pending_joins` beside its record. -/
structure WaitingJoin where
  record : JoinRecord
  item : PendingJoin
deriving DecidableEq, Repr

structure ResolvedJoin where
  record : JoinRecord
  verdict : JoinVerdict
  time : Nat
deriving DecidableEq, Repr

structure JoinHistory where
  time : Nat := 0
  audience : AudienceTracker := {}
  waiting : List WaitingJoin := []
  resolved : List ResolvedJoin := []

/-! ## The machine -/

namespace WaitingJoin

def pushed (time : Nat) (object : ObjectRef) : WaitingJoin where
  record := { ticket := { time, playerState := object } }
  item := { playerState := some object }

/-- The scan of `EnqueueJoin`, with the records. -/
def scan (weakGet : ObjectRef → WeakAnswer) (object : ObjectRef) (new : WaitingJoin) :
    List WaitingJoin → List WaitingJoin
  | [] => [new]
  | waiting :: rest =>
      match waiting.item.playerState with
      | none => waiting :: scan weakGet object new rest
      | some held =>
          match weakGet held with
          | .live =>
              if held = object then waiting :: rest else waiting :: scan weakGet object new rest
          | .dead => waiting :: scan weakGet object new rest
          | .faulted =>
              { waiting with item := { waiting.item with playerState := none } } ::
                scan weakGet object new rest

section Look

variable (alive : ObjectRef → Bool) (joinReading : ObjectRef → Option JoinReading)

def look (waiting : WaitingJoin) : JoinRecord :=
  { waiting.record with
    sights := waiting.record.sights ++ [sight alive joinReading waiting.item.playerState] }

def stay? (waiting : WaitingJoin) : Option WaitingJoin :=
  (survivor alive joinReading waiting.item).map fun item =>
    { record := waiting.look alive joinReading, item }

def leave? (time : Nat) (waiting : WaitingJoin) : Option ResolvedJoin :=
  if verdict alive joinReading waiting.item = .stays then none
  else
    some
      { record := waiting.look alive joinReading
        verdict := verdict alive joinReading waiting.item
        time }

end Look

end WaitingJoin

/-- The call of `Upsert` that ended a join. -/
def ResolvedJoin.call? (resolved : ResolvedJoin) : Option UpsertCall :=
  match resolved.verdict with
  | .upserted uid platform =>
      some { uid, platform, playerState := some resolved.record.ticket.playerState }
  | _ => none

namespace JoinHistory

def step (history : JoinHistory) (operation : Operation) : JoinHistory :=
  let next :=
    { history with
      time := history.time + 1
      audience := history.audience.step operation }
  match operation with
  | .enqueueJoin weakGet (some object) =>
      { next with
        waiting := WaitingJoin.scan weakGet object (.pushed history.time object) history.waiting }
  | .tick alive joinReading =>
      { next with
        waiting := history.waiting.filterMap (·.stay? alive joinReading)
        resolved := history.resolved ++
          history.waiting.filterMap (·.leave? alive joinReading history.time) }
  | _ => next

abbrev after (operations : List Operation) : JoinHistory := Execution.run step {} operations

def records (history : JoinHistory) : List JoinRecord :=
  history.waiting.map (·.record) ++ history.resolved.map (·.record)

end JoinHistory

/-! ## What the calls say -/

structure JoinTick where
  alive : ObjectRef → Bool
  joinReading : ObjectRef → Option JoinReading

def Operation.tick? : Operation → Option JoinTick
  | .tick alive joinReading => some { alive, joinReading }
  | _ => none

def ticksAfter (operations : List Operation) (time : Nat) : List JoinTick :=
  (operations.drop (time + 1)).filterMap Operation.tick?

/-- A weak pointer to the object may have been reset after a time: some `EnqueueJoin`
that read one would have met a fault. -/
def FaultedAfter (operations : List Operation) (time : Nat) (object : ObjectRef) : Prop :=
  ∃ weakGet playerState, Operation.enqueueJoin weakGet playerState ∈ operations.drop (time + 1) ∧
    weakGet object = .faulted

/-- Some `EnqueueJoin` that read a weak pointer to the object would have found it dead. -/
def FoundDead (operations : List Operation) (object : ObjectRef) : Prop :=
  ∃ weakGet playerState, Operation.enqueueJoin weakGet playerState ∈ operations ∧
    weakGet object = .dead

/-- A live entry for the object keeps `EnqueueJoin` from pushing another. -/
def pendingLive (weakGet : ObjectRef → WeakAnswer) (object : ObjectRef)
    (items : List PendingJoin) : Bool :=
  items.any fun item => item.playerState == some object && weakGet object == .live

def Pushed (operations : List Operation) (ticket : JoinTicket) : Prop :=
  ∃ weakGet, operations[ticket.time]? = some (.enqueueJoin weakGet (some ticket.playerState)) ∧
    pendingLive weakGet ticket.playerState (run (operations.take ticket.time)).pendingJoins = false

/-- The sights of a record are those of its first ticks. A pointer that was reset is seen
as dead. -/
structure JoinRecord.Sees (operations : List Operation) (record : JoinRecord) : Prop where
  length : record.sights.length ≤ (ticksAfter operations record.ticket.time).length
  each : ∀ (index : Nat) (seen : JoinSight) (tick : JoinTick), record.sights[index]? = some seen →
    (ticksAfter operations record.ticket.time)[index]? = some tick →
    seen = sight tick.alive tick.joinReading (some record.ticket.playerState) ∨
      seen = .dead ∧ FaultedAfter operations record.ticket.time record.ticket.playerState

/-! ## What the sights decide -/

def Undecided (sights : List JoinSight) : Prop :=
  ∀ index seen, sights[index]? = some seen →
    seen ≠ .dead ∧ (kJoinSoftReadyFrames ≤ index + 1 → seen = .unreadable)

structure Waits (sights : List JoinSight) : Prop where
  undecided : Undecided sights
  inTime : sights.length < kJoinMaxWaitFrames

structure Upserts (sights : List JoinSight) (uid : Guid) (platform : Bytes) : Prop where
  last : ∃ earlier, Undecided earlier ∧ sights = earlier ++ [.readable uid platform]
  ready : kJoinSoftReadyFrames ≤ sights.length
  inTime : sights.length ≤ kJoinMaxWaitFrames

/-- The last tick finds the state dead, or it is the 180th and cannot read the identity. -/
structure Drops (sights : List JoinSight) : Prop where
  last : ∃ earlier, Undecided earlier ∧
    (sights = earlier ++ [.dead] ∨
      sights = earlier ++ [.unreadable] ∧ sights.length = kJoinMaxWaitFrames)
  inTime : sights.length ≤ kJoinMaxWaitFrames

theorem kJoin_le : kJoinSoftReadyFrames ≤ kJoinMaxWaitFrames := by decide

theorem joinVerdict_eq_stays_iff (age : Nat) (seen : JoinSight) :
    joinVerdict age seen = .stays ↔
      seen ≠ .dead ∧ (kJoinSoftReadyFrames ≤ age → seen = .unreadable) ∧
        age < kJoinMaxWaitFrames := by
  have order := kJoin_le
  cases seen with
  | dead => simp [joinVerdict]
  | unreadable =>
      by_cases timedOut : kJoinMaxWaitFrames ≤ age
      · simp [joinVerdict, timedOut]
      · simp [joinVerdict, timedOut, Nat.not_le.mp timedOut]
  | readable uid platform =>
      by_cases ready : kJoinSoftReadyFrames ≤ age ∨ kJoinMaxWaitFrames ≤ age
      · simp [joinVerdict, ready]
        omega
      · simp [joinVerdict, ready]
        omega

def Stays (sights : List JoinSight) : Prop :=
  ∀ index seen, sights[index]? = some seen → joinVerdict (index + 1) seen = .stays

theorem stays_iff (sights : List JoinSight) : Stays sights ↔ Waits sights := by
  constructor
  · intro stays
    constructor
    · intro index seen found
      have told := (joinVerdict_eq_stays_iff _ _).mp (stays index seen found)
      exact ⟨told.1, told.2.1⟩
    · by_contra late
      have inside : kJoinMaxWaitFrames - 1 < sights.length := by
        have positive : 0 < kJoinMaxWaitFrames := by decide
        omega
      have told := (joinVerdict_eq_stays_iff _ _).mp
        (stays _ _ (List.getElem?_eq_getElem inside))
      omega
  · intro waits index seen found
    have told := waits.undecided index seen found
    have inside := (List.getElem?_eq_some_iff.mp found).1
    have inTime := waits.inTime
    exact (joinVerdict_eq_stays_iff _ _).mpr ⟨told.1, told.2, by omega⟩

theorem stays_snoc {sights : List JoinSight} {last : JoinSight} :
    Stays (sights ++ [last]) ↔
      Stays sights ∧ joinVerdict (sights.length + 1) last = .stays := by
  constructor
  · intro stays
    constructor
    · intro index seen found
      have inside := (List.getElem?_eq_some_iff.mp found).1
      exact stays index seen ((List.getElem?_append_left inside).trans found)
    · exact stays sights.length last (by simp)
  · rintro ⟨stays, now⟩ index seen found
    rcases Nat.lt_trichotomy index sights.length with inside | rfl | outside
    · exact stays index seen ((List.getElem?_append_left inside).symm.trans found)
    · have same : last = seen := by simpa using found
      rwa [← same]
    · have inside := (List.getElem?_eq_some_iff.mp found).1
      rw [List.length_append, List.length_singleton] at inside
      omega

structure Ends (sights : List JoinSight) (verdict : JoinVerdict) : Prop where
  last : ∃ earlier seen, Stays earlier ∧ sights = earlier ++ [seen] ∧
    joinVerdict sights.length seen = verdict
  notStays : verdict ≠ .stays

theorem Ends.not_stays {sights : List JoinSight} {verdict : JoinVerdict}
    (ends : Ends sights verdict) : ¬Stays sights := by
  rcases ends.last with ⟨earlier, seen, -, rfl, told⟩
  intro stays
  rw [List.length_append, List.length_singleton] at told
  exact ends.notStays (told.symm.trans (stays_snoc.mp stays).2)

theorem Ends.unique {sights : List JoinSight} {first second : JoinVerdict}
    (left : Ends sights first) (right : Ends sights second) : first = second := by
  rcases left.last with ⟨earlier, seen, -, split, told⟩
  rcases right.last with ⟨otherEarlier, other, -, otherSplit, otherTold⟩
  have same := (List.append_inj' (split.symm.trans otherSplit) rfl).2
  rw [← told, ← otherTold, List.singleton_inj.mp same]

theorem ends_upserted_iff {sights : List JoinSight} {uid : Guid} {platform : Bytes} :
    Ends sights (.upserted uid platform) ↔ Upserts sights uid platform := by
  have order := kJoin_le
  constructor
  · rintro ⟨⟨earlier, seen, stays, rfl, told⟩, -⟩
    have waits := (stays_iff earlier).mp stays
    have inTime := waits.inTime
    have length : (earlier ++ [seen]).length = earlier.length + 1 := by simp
    cases seen with
    | dead => cases told
    | unreadable =>
        simp only [joinVerdict] at told
        split at told <;> cases told
    | readable otherUid otherPlatform =>
        simp only [joinVerdict] at told
        split at told
        · rename_i ready
          cases told
          exact ⟨⟨earlier, waits.undecided, rfl⟩, by omega, by omega⟩
        · cases told
  · rintro ⟨⟨earlier, undecided, rfl⟩, ready, inTime⟩
    have length : (earlier ++ [JoinSight.readable uid platform]).length = earlier.length + 1 := by
      simp
    have stays : Stays earlier := (stays_iff earlier).mpr ⟨undecided, by omega⟩
    exact ⟨⟨earlier, _, stays, rfl, if_pos (Or.inl ready)⟩, by simp⟩

theorem ends_dropped_iff {sights : List JoinSight} :
    Ends sights .dropped ↔ Drops sights := by
  constructor
  · rintro ⟨⟨earlier, seen, stays, rfl, told⟩, -⟩
    have waits := (stays_iff earlier).mp stays
    have inTime := waits.inTime
    have length : (earlier ++ [seen]).length = earlier.length + 1 := by simp
    cases seen with
    | dead => exact ⟨⟨earlier, waits.undecided, Or.inl rfl⟩, by omega⟩
    | unreadable =>
        simp only [joinVerdict] at told
        split at told
        · rename_i timedOut
          exact ⟨⟨earlier, waits.undecided, Or.inr ⟨rfl, by omega⟩⟩, by omega⟩
        · cases told
    | readable uid platform =>
        simp only [joinVerdict] at told
        split at told <;> cases told
  · rintro ⟨⟨earlier, undecided, rfl | ⟨rfl, timedOut⟩⟩, inTime⟩
    · rw [List.length_append, List.length_singleton] at inTime
      have stays : Stays earlier := (stays_iff earlier).mpr ⟨undecided, by omega⟩
      exact ⟨⟨earlier, _, stays, rfl, rfl⟩, by simp⟩
    · have length : (earlier ++ [JoinSight.unreadable]).length = earlier.length + 1 := by simp
      have stays : Stays earlier := (stays_iff earlier).mpr ⟨undecided, by omega⟩
      exact ⟨⟨earlier, _, stays, rfl, if_pos (Nat.le_of_eq timedOut.symm)⟩, by simp⟩

/-! ## `EnqueueJoin` -/

section Scan

variable {weakGet : ObjectRef → WeakAnswer} {object : ObjectRef} {new : WaitingJoin}

theorem map_item_scan (fresh : new.item = { playerState := some object })
    (waiting : List WaitingJoin) :
    (WaitingJoin.scan weakGet object new waiting).map (·.item) =
      enqueueJoin.scan weakGet object (waiting.map (·.item)) := by
  induction waiting with
  | nil =>
      rw [WaitingJoin.scan, List.map_singleton, fresh]
      rfl
  | cons join rest induction =>
      rw [WaitingJoin.scan, List.map_cons, enqueueJoin.scan]
      cases join.item.playerState with
      | none => rw [List.map_cons, induction]
      | some held =>
          dsimp only
          cases weakGet held with
          | live =>
              by_cases same : held = object
              · rw [if_pos same, if_pos same, List.map_cons]
              · rw [if_neg same, if_neg same, List.map_cons, induction]
          | dead => rw [List.map_cons, induction]
          | faulted => rw [List.map_cons, induction]

/-- What a scan can do to an entry: it resets a pointer that faults. -/
structure Kept (weakGet : ObjectRef → WeakAnswer) (before after : WaitingJoin) : Prop where
  record : after.record = before.record
  frames : after.item.frames = before.item.frames
  playerState : after.item.playerState = before.item.playerState ∨
    after.item.playerState = none ∧
      ∃ held, before.item.playerState = some held ∧ weakGet held = .faulted

theorem Kept.refl (weakGet : ObjectRef → WeakAnswer) (join : WaitingJoin) :
    Kept weakGet join join := ⟨rfl, rfl, Or.inl rfl⟩

/-- A scan ends at a live entry for the object, and goes on behind every other entry. -/
theorem scan_cons (join : WaitingJoin) (rest : List WaitingJoin) :
    (pendingLive weakGet object [join.item] = true ∧
        WaitingJoin.scan weakGet object new (join :: rest) = join :: rest) ∨
      (pendingLive weakGet object [join.item] = false ∧ ∃ kept, Kept weakGet join kept ∧
        WaitingJoin.scan weakGet object new (join :: rest) =
          kept :: WaitingJoin.scan weakGet object new rest) := by
  rw [WaitingJoin.scan]
  cases pointer : join.item.playerState with
  | none =>
      right
      exact ⟨by simp [pendingLive, pointer], join, .refl weakGet join, rfl⟩
  | some held =>
      dsimp only
      cases answer : weakGet held with
      | live =>
          by_cases same : held = object
          · left
            exact ⟨by simp [pendingLive, pointer, ← same, answer], if_pos same⟩
          · right
            exact ⟨by simp [pendingLive, pointer, same], join, .refl weakGet join, if_neg same⟩
      | dead =>
          right
          refine ⟨?_, join, .refl weakGet join, rfl⟩
          by_cases same : held = object
          · simp [pendingLive, ← same, answer]
          · simp [pendingLive, pointer, same]
      | faulted =>
          right
          have reset : Kept weakGet join
              { join with item := { join.item with playerState := none } } :=
            ⟨rfl, rfl, Or.inr ⟨rfl, held, pointer, answer⟩⟩
          refine ⟨?_, _, reset, rfl⟩
          by_cases same : held = object
          · simp [pendingLive, ← same, answer]
          · simp [pendingLive, pointer, same]

theorem pendingLive_cons (item : PendingJoin) (items : List PendingJoin) :
    pendingLive weakGet object (item :: items) =
      (pendingLive weakGet object [item] || pendingLive weakGet object items) := by
  simp [pendingLive]

variable (weakGet object new) in
theorem map_record_scan (waiting : List WaitingJoin) :
    (WaitingJoin.scan weakGet object new waiting).map (·.record) =
      waiting.map (·.record) ++
        if pendingLive weakGet object (waiting.map (·.item)) then [] else [new.record] := by
  induction waiting with
  | nil => rfl
  | cons join rest induction =>
      rw [List.map_cons, List.map_cons, pendingLive_cons]
      rcases scan_cons join rest with ⟨live, scanned⟩ | ⟨other, kept, keeps, scanned⟩
      · rw [scanned, live, Bool.true_or, if_pos rfl, List.append_nil, List.map_cons]
      · rw [scanned, other, Bool.false_or, List.map_cons, induction, keeps.record,
          List.cons_append]

theorem mem_scan {waiting : List WaitingJoin} {join : WaitingJoin}
    (member : join ∈ WaitingJoin.scan weakGet object new waiting) :
    join = new ∨ ∃ old ∈ waiting, Kept weakGet old join := by
  induction waiting with
  | nil => exact Or.inl (List.mem_singleton.mp member)
  | cons head rest induction =>
      rcases scan_cons head rest with ⟨-, scanned⟩ | ⟨-, kept, keeps, scanned⟩
      · rw [scanned] at member
        exact Or.inr ⟨join, member, .refl weakGet join⟩
      · rw [scanned] at member
        rcases List.mem_cons.mp member with rfl | inRest
        · exact Or.inr ⟨head, List.mem_cons_self, keeps⟩
        · rcases induction inRest with isNew | ⟨old, inOld, keepsOld⟩
          · exact Or.inl isNew
          · exact Or.inr ⟨old, List.mem_cons_of_mem head inOld, keepsOld⟩

end Scan

/-! ## Ticks -/

section Tick

variable {alive : ObjectRef → Bool} {joinReading : ObjectRef → Option JoinReading}

theorem stay_or_leave (time : Nat) (join : WaitingJoin) :
    (joinVerdict (join.item.frames + 1) (sight alive joinReading join.item.playerState) = .stays ∧
        join.stay? alive joinReading = some
          { record := join.look alive joinReading
            item := { join.item with frames := join.item.frames + 1 } } ∧
        join.leave? alive joinReading time = none) ∨
      (joinVerdict (join.item.frames + 1) (sight alive joinReading join.item.playerState) ≠ .stays ∧
        join.stay? alive joinReading = none ∧
        join.leave? alive joinReading time = some
          { record := join.look alive joinReading
            verdict := verdict alive joinReading join.item
            time }) := by
  unfold WaitingJoin.stay? WaitingJoin.leave? survivor
  by_cases stays : verdict alive joinReading join.item = .stays
  · rw [if_pos stays, if_pos stays]
    exact Or.inl ⟨stays, rfl, rfl⟩
  · rw [if_neg stays, if_neg stays]
    exact Or.inr ⟨stays, rfl, rfl⟩

theorem map_item_stay (waiting : List WaitingJoin) :
    (waiting.filterMap (·.stay? alive joinReading)).map (·.item) =
      (waiting.map (·.item)).filterMap (survivor alive joinReading) := by
  rw [List.map_filterMap, List.filterMap_map]
  apply List.filterMap_congr
  intro join member
  rw [WaitingJoin.stay?, Option.map_map, Function.comp_apply]
  exact Option.map_id'

theorem tickets_tick (time : Nat) (waiting : List WaitingJoin) :
    ((waiting.filterMap (·.stay? alive joinReading)).map (·.record.ticket) ++
        (waiting.filterMap (·.leave? alive joinReading time)).map (·.record.ticket)).Perm
      (waiting.map (·.record.ticket)) := by
  induction waiting with
  | nil => exact List.Perm.refl _
  | cons join rest induction =>
      rw [List.filterMap_cons, List.filterMap_cons, List.map_cons]
      rcases stay_or_leave time join with ⟨-, stays, leaves⟩ | ⟨-, stays, leaves⟩
      · rw [stays, leaves]
        exact induction.cons _
      · rw [stays, leaves]
        exact List.perm_middle.trans (induction.cons _)

end Tick

end AudienceTracker

end PalCrosschat
