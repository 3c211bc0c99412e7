import PalCrosschat.JoinRecords

/-! # Pending joins resolve once and in time

What the records say after any sequence of calls: every entry that was pushed waits,
was upserted or was dropped, and its sights alone decide which of these. -/

namespace PalCrosschat

namespace AudienceTracker

/-! ## One more call -/

section Snoc

variable {operations : List Operation} {operation : Operation} {time : Nat}

theorem drop_snoc (before : time < operations.length) :
    (operations ++ [operation]).drop (time + 1) =
      operations.drop (time + 1) ++ [operation] :=
  List.drop_append_of_le_length before

theorem ticksAfter_snoc (before : time < operations.length) :
    ticksAfter (operations ++ [operation]) time =
      ticksAfter operations time ++ operation.tick?.toList := by
  unfold ticksAfter
  rw [drop_snoc before, List.filterMap_append, List.filterMap_cons]
  cases operation.tick? <;> rfl

theorem ticksAfter_now :
    ticksAfter (operations ++ [operation]) operations.length = [] := by
  unfold ticksAfter
  rw [List.drop_eq_nil_of_le (by simp), List.filterMap_nil]

theorem FaultedAfter.snoc {object : ObjectRef} (before : time < operations.length)
    (faulted : FaultedAfter operations time object) :
    FaultedAfter (operations ++ [operation]) time object := by
  rcases faulted with ⟨weakGet, playerState, member, answer⟩
  refine ⟨weakGet, playerState, ?_, answer⟩
  rw [drop_snoc before]
  exact List.mem_append_left _ member

theorem faultedAfter_now {object : ObjectRef} (before : time < operations.length)
    {weakGet : ObjectRef → WeakAnswer} {playerState : Option ObjectRef}
    (answer : weakGet object = .faulted) :
    FaultedAfter (operations ++ [.enqueueJoin weakGet playerState]) time object := by
  refine ⟨weakGet, playerState, ?_, answer⟩
  rw [drop_snoc before]
  exact List.mem_append_right _ List.mem_cons_self

theorem JoinRecord.Sees.snoc {record : JoinRecord}
    (before : record.ticket.time < operations.length) (sees : record.Sees operations) :
    record.Sees (operations ++ [operation]) := by
  have ticks : ticksAfter (operations ++ [operation]) record.ticket.time =
      ticksAfter operations record.ticket.time ++ operation.tick?.toList :=
    ticksAfter_snoc before
  constructor
  · rw [ticks, List.length_append]
    exact Nat.le_add_right_of_le sees.length
  · intro index seen tick sighted ticked
    have inside : index < (ticksAfter operations record.ticket.time).length :=
      Nat.lt_of_lt_of_le (List.getElem?_eq_some_iff.mp sighted).1 sees.length
    rw [ticks, List.getElem?_append_left inside] at ticked
    rcases sees.each index seen tick sighted ticked with same | ⟨dead, faulted⟩
    · exact Or.inl same
    · exact Or.inr ⟨dead, faulted.snoc before⟩

theorem pushed_snoc {ticket : JoinTicket} :
    Pushed (operations ++ [operation]) ticket ↔
      Pushed operations ticket ∨
        ticket.time = operations.length ∧ ∃ weakGet,
          operation = .enqueueJoin weakGet (some ticket.playerState) ∧
            pendingLive weakGet ticket.playerState (run operations).pendingJoins = false := by
  unfold Pushed
  rcases Nat.lt_trichotomy ticket.time operations.length with earlier | now | later
  · rw [List.getElem?_append_left earlier, List.take_append_of_le_length (Nat.le_of_lt earlier)]
    simp [Nat.ne_of_lt earlier]
  · rw [now, List.getElem?_concat_length, List.getElem?_eq_none (Nat.le_refl _), List.take_left]
    constructor
    · rintro ⟨weakGet, same, live⟩
      exact Or.inr ⟨rfl, weakGet, Option.some_inj.mp same, live⟩
    · rintro (⟨weakGet, same, -⟩ | ⟨-, weakGet, same, live⟩)
      · cases same
      · exact ⟨weakGet, congrArg some same, live⟩
  · rw [List.getElem?_eq_none (by simp; omega), List.getElem?_eq_none (by omega)]
    simp [Nat.ne_of_gt later]

end Snoc

/-! ## One entry -/

structure WaitingJoin.Fits (operations : List Operation) (join : WaitingJoin) : Prop where
  before : join.record.ticket.time < operations.length
  sees : join.record.Sees operations
  complete : join.record.sights.length = (ticksAfter operations join.record.ticket.time).length
  frames : join.item.frames = join.record.sights.length
  stays : Stays join.record.sights
  pointer : join.item.playerState = some join.record.ticket.playerState ∨
    join.item.playerState = none ∧
      FaultedAfter operations join.record.ticket.time join.record.ticket.playerState

structure ResolvedJoin.Fits (operations : List Operation) (resolved : ResolvedJoin) : Prop where
  after : resolved.record.ticket.time < resolved.time
  before : resolved.time < operations.length
  sees : resolved.record.Sees operations
  ends : Ends resolved.record.sights resolved.verdict
  last : resolved.record.sights.length =
    (ticksAfter (operations.take (resolved.time + 1)) resolved.record.ticket.time).length

section Entry

variable {operations : List Operation} {join : WaitingJoin}

/-- A call that is no tick may reset the pointer of an entry. -/
theorem WaitingJoin.Fits.kept (fits : join.Fits operations) {operation : Operation}
    (noTick : operation.tick? = none) {kept : WaitingJoin} (record : kept.record = join.record)
    (frames : kept.item.frames = join.item.frames)
    (pointer : kept.item.playerState = join.item.playerState ∨
      kept.item.playerState = none ∧
        FaultedAfter (operations ++ [operation]) join.record.ticket.time
          join.record.ticket.playerState) :
    kept.Fits (operations ++ [operation]) := by
  have ticks : ticksAfter (operations ++ [operation]) join.record.ticket.time =
      ticksAfter operations join.record.ticket.time := by
    rw [ticksAfter_snoc fits.before, noTick, Option.toList_none, List.append_nil]
  constructor
  · rw [record, List.length_append]
    exact Nat.lt_add_right _ fits.before
  · rw [record]
    exact fits.sees.snoc fits.before
  · rw [record, ticks]
    exact fits.complete
  · rw [record, frames]
    exact fits.frames
  · rw [record]
    exact fits.stays
  · rw [record]
    rcases pointer with same | reset
    · rw [same]
      rcases fits.pointer with held | ⟨lost, faulted⟩
      · exact Or.inl held
      · exact Or.inr ⟨lost, faulted.snoc fits.before⟩
    · exact Or.inr reset

theorem fits_pushed (operation : Operation) (object : ObjectRef) :
    (WaitingJoin.pushed operations.length object).Fits (operations ++ [operation]) := by
  constructor
  · simp [WaitingJoin.pushed]
  · exact ⟨Nat.zero_le _, nofun⟩
  · exact (congrArg List.length ticksAfter_now).symm
  · rfl
  · exact nofun
  · exact Or.inl rfl

section Look

variable {alive : ObjectRef → Bool} {joinReading : ObjectRef → Option JoinReading}

theorem WaitingJoin.Fits.sees_look (fits : join.Fits operations) :
    (join.look alive joinReading).Sees (operations ++ [.tick alive joinReading]) := by
  have ticks : ticksAfter (operations ++ [.tick alive joinReading]) join.record.ticket.time =
      ticksAfter operations join.record.ticket.time ++ [⟨alive, joinReading⟩] :=
    ticksAfter_snoc fits.before
  constructor
  · change (join.record.sights ++ [_]).length ≤ (ticksAfter _ join.record.ticket.time).length
    rw [ticks, List.length_append, List.length_append, fits.complete]
    exact Nat.le_refl _
  · intro index seen tick sighted ticked
    change (join.record.sights ++ [_])[index]? = some seen at sighted
    change (ticksAfter _ join.record.ticket.time)[index]? = some tick at ticked
    rcases Nat.lt_trichotomy index join.record.sights.length with inside | rfl | outside
    · rw [List.getElem?_append_left inside] at sighted
      have before : join.record.Sees (operations ++ [.tick alive joinReading]) :=
        fits.sees.snoc fits.before
      exact before.each index seen tick sighted ticked
    · rw [ticks, fits.complete, List.getElem?_concat_length] at ticked
      rw [List.getElem?_concat_length] at sighted
      cases sighted
      cases ticked
      rcases fits.pointer with held | ⟨lost, faulted⟩
      · rw [held]
        exact Or.inl rfl
      · rw [lost]
        exact Or.inr ⟨rfl, faulted.snoc fits.before⟩
    · have inside := (List.getElem?_eq_some_iff.mp sighted).1
      rw [List.length_append, List.length_singleton] at inside
      omega

theorem WaitingJoin.Fits.complete_look (fits : join.Fits operations) :
    (join.look alive joinReading).sights.length =
      (ticksAfter (operations ++ [.tick alive joinReading]) join.record.ticket.time).length := by
  rw [ticksAfter_snoc fits.before, List.length_append, ← fits.complete]
  exact List.length_append

theorem WaitingJoin.Fits.stay (fits : join.Fits operations) {next : WaitingJoin}
    (stays : join.stay? alive joinReading = some next) :
    next.Fits (operations ++ [.tick alive joinReading]) := by
  rcases stay_or_leave 0 join with ⟨verdict, same, -⟩ | ⟨-, none, -⟩
  · rw [same] at stays
    cases stays
    constructor
    · rw [List.length_append]
      exact Nat.lt_add_right _ fits.before
    · exact fits.sees_look
    · exact fits.complete_look
    · change join.item.frames + 1 = (join.record.sights ++ [_]).length
      rw [fits.frames, List.length_append, List.length_singleton]
    · rw [fits.frames] at verdict
      exact stays_snoc.mpr ⟨fits.stays, verdict⟩
    · rcases fits.pointer with held | ⟨lost, faulted⟩
      · exact Or.inl held
      · exact Or.inr ⟨lost, faulted.snoc fits.before⟩
  · rw [none] at stays
    cases stays

theorem WaitingJoin.Fits.leave (fits : join.Fits operations) {resolved : ResolvedJoin}
    (leaves : join.leave? alive joinReading operations.length = some resolved) :
    resolved.Fits (operations ++ [.tick alive joinReading]) := by
  rcases stay_or_leave operations.length join with ⟨-, -, none⟩ | ⟨verdict, -, same⟩
  · rw [none] at leaves
    cases leaves
  · rw [same] at leaves
    cases leaves
    constructor
    · exact fits.before
    · simp
    · exact fits.sees_look
    · refine ⟨⟨join.record.sights, _, fits.stays, rfl, ?_⟩, verdict⟩
      rw [WaitingJoin.look, List.length_append, ← fits.frames]
      rfl
    · rw [List.take_of_length_le (by simp)]
      exact fits.complete_look

/-- The call of `Upsert` is that of the record. -/
theorem WaitingJoin.Fits.upsertCall (fits : join.Fits operations) (time : Nat) :
    upsertCall alive joinReading join.item =
      (join.leave? alive joinReading time).bind (·.call?) := by
  rw [AudienceTracker.upsertCall, WaitingJoin.leave?]
  cases found : verdict alive joinReading join.item with
  | stays => rfl
  | dropped => rfl
  | upserted uid platform =>
      rcases fits.pointer with held | ⟨lost, -⟩
      · rw [held]
        rfl
      · rw [verdict, lost] at found
        cases found

end Look

theorem ResolvedJoin.Fits.snoc {resolved : ResolvedJoin} (fits : resolved.Fits operations)
    (operation : Operation) : resolved.Fits (operations ++ [operation]) := by
  constructor
  · exact fits.after
  · rw [List.length_append]
    exact Nat.lt_add_right _ fits.before
  · exact fits.sees.snoc (Nat.lt_trans fits.after fits.before)
  · exact fits.ends
  · rw [List.take_append_of_le_length fits.before]
    exact fits.last

end Entry

/-! ## The history -/

namespace JoinHistory

def tickets (history : JoinHistory) : List JoinTicket :=
  history.waiting.map (·.record.ticket) ++ history.resolved.map (·.record.ticket)

/-- The calls of `Upsert` that a tick made. -/
def calls (history : JoinHistory) (time : Nat) : List UpsertCall :=
  (history.resolved.filter fun resolved => resolved.time = time).filterMap (·.call?)

/-- The history beside the tracker. -/
structure Accounts (history : JoinHistory) (operations : List Operation) : Prop where
  time : history.time = operations.length
  audience : history.audience = run operations
  items : history.waiting.map (·.item) = history.audience.pendingJoins
  waiting : ∀ join ∈ history.waiting, join.Fits operations
  resolved : ∀ resolved ∈ history.resolved, resolved.Fits operations
  pushed : ∀ ticket, ticket ∈ history.tickets ↔ Pushed operations ticket
  once : (history.tickets.map (·.time)).Nodup
  calls : ∀ time alive joinReading, operations[time]? = some (.tick alive joinReading) →
    (run (operations.take time)).pendingJoins.filterMap (upsertCall alive joinReading) =
      history.calls time

variable {history : JoinHistory} {operations : List Operation}

def newTicket (history : JoinHistory) : Operation → List JoinTicket
  | .enqueueJoin weakGet (some object) =>
      if pendingLive weakGet object history.audience.pendingJoins then []
      else [{ time := history.time, playerState := object }]
  | _ => []

theorem mem_newTicket (accounts : history.Accounts operations) (operation : Operation)
    (ticket : JoinTicket) :
    ticket ∈ history.newTicket operation ↔
      ticket.time = operations.length ∧ ∃ weakGet,
        operation = .enqueueJoin weakGet (some ticket.playerState) ∧
          pendingLive weakGet ticket.playerState (run operations).pendingJoins = false := by
  rw [← accounts.audience, ← accounts.time]
  cases operation with
  | enqueueJoin weakGet playerState =>
      cases playerState with
      | none => simp [newTicket]
      | some object =>
          rcases ticket with ⟨time, playerState⟩
          change _ ∈ (if pendingLive weakGet object history.audience.pendingJoins then []
            else [(⟨history.time, object⟩ : JoinTicket)]) ↔ _
          by_cases live : pendingLive weakGet object history.audience.pendingJoins = true
          · rw [if_pos live]
            constructor
            · nofun
            · rintro ⟨-, other, same, notLive⟩
              cases same
              rw [live] at notLive
              cases notLive
          · rw [if_neg live, List.mem_singleton]
            constructor
            · intro same
              cases same
              exact ⟨rfl, weakGet, rfl, Bool.eq_false_iff.mpr live⟩
            · rintro ⟨rfl, other, same, -⟩
              cases same
              rfl
  | _ => simp [newTicket]

theorem tickets_step (accounts : history.Accounts operations) (operation : Operation) :
    (history.step operation).tickets.Perm (history.tickets ++ history.newTicket operation) := by
  have unchanged : history.tickets.Perm (history.tickets ++ []) := by rw [List.append_nil]
  cases operation with
  | enqueueJoin weakGet playerState =>
      cases playerState with
      | none => exact unchanged
      | some object =>
          have scanned : (WaitingJoin.scan weakGet object (.pushed history.time object)
              history.waiting).map (·.record.ticket) =
              history.waiting.map (·.record.ticket) ++
                history.newTicket (.enqueueJoin weakGet (some object)) := by
            have records := congrArg (List.map JoinRecord.ticket)
              (map_record_scan weakGet object (.pushed history.time object) history.waiting)
            rw [List.map_map, List.map_append, List.map_map, accounts.items] at records
            refine records.trans (congrArg (history.waiting.map (·.record.ticket) ++ ·) ?_)
            exact apply_ite (List.map JoinRecord.ticket) _ _ _
          change (List.map _ (WaitingJoin.scan _ _ _ _) ++ _).Perm _
          rw [scanned, tickets, List.append_assoc, List.append_assoc]
          exact List.perm_append_comm.append_left _
  | tick alive joinReading =>
      refine List.Perm.trans ?_ unchanged
      change (List.map _ _ ++ List.map _ (history.resolved ++ _)).Perm _
      rw [List.map_append]
      refine (List.perm_append_comm.append_left _).trans ?_
      rw [← List.append_assoc]
      exact (tickets_tick history.time history.waiting).append_right _
  | _ => exact unchanged

namespace Accounts

variable (accounts : history.Accounts operations)
include accounts

theorem pushed_step (operation : Operation) (ticket : JoinTicket) :
    ticket ∈ (history.step operation).tickets ↔ Pushed (operations ++ [operation]) ticket := by
  rw [(tickets_step accounts operation).mem_iff, List.mem_append, accounts.pushed,
    mem_newTicket accounts, pushed_snoc]

theorem time_lt {ticket : JoinTicket} (member : ticket ∈ history.tickets) :
    ticket.time < operations.length := by
  rcases (accounts.pushed ticket).mp member with ⟨weakGet, found, -⟩
  exact (List.getElem?_eq_some_iff.mp found).1

theorem once_step (operation : Operation) :
    ((history.step operation).tickets.map (·.time)).Nodup := by
  have fewNew : ((history.newTicket operation).map (·.time)).Nodup := by
    unfold newTicket
    split
    · split
      · exact List.nodup_nil
      · exact List.nodup_singleton _
    · exact List.nodup_nil
  rw [((tickets_step accounts operation).map _).nodup_iff, List.map_append, List.nodup_append]
  refine ⟨accounts.once, fewNew, ?_⟩
  intro old oldMember new newMember same
  rcases List.mem_map.mp oldMember with ⟨ticket, member, rfl⟩
  rcases List.mem_map.mp newMember with ⟨newest, newestMember, rfl⟩
  have earlier := accounts.time_lt member
  have now := ((mem_newTicket accounts operation newest).mp newestMember).1
  omega

/-- The calls of earlier ticks are not changed. -/
theorem calls_earlier {operation : Operation} {resolved : List ResolvedJoin}
    (since : ∀ join ∈ resolved, join.time = operations.length) {time : Nat}
    (earlier : time < operations.length) {alive : ObjectRef → Bool}
    {joinReading : ObjectRef → Option JoinReading}
    (ticked : (operations ++ [operation])[time]? = some (.tick alive joinReading)) :
    (run ((operations ++ [operation]).take time)).pendingJoins.filterMap
        (upsertCall alive joinReading) =
      ((history.resolved ++ resolved).filter fun join => join.time = time).filterMap
        (·.call?) := by
  have none : resolved.filter (fun join => join.time = time) = [] := by
    rw [List.filter_eq_nil_iff]
    intro join member
    have now := since join member
    simp only [decide_eq_true_eq]
    omega
  rw [List.getElem?_append_left earlier] at ticked
  rw [List.take_append_of_le_length (Nat.le_of_lt earlier), List.filter_append, none,
    List.append_nil]
  exact accounts.calls time alive joinReading ticked

/-- A call that is no tick. -/
theorem step_of_noTick {operation : Operation} (noTick : operation.tick? = none)
    (resolved : (history.step operation).resolved = history.resolved)
    (time : (history.step operation).time = history.time + 1)
    (audience : (history.step operation).audience = history.audience.step operation)
    (items : (history.step operation).waiting.map (·.item) =
      (history.audience.step operation).pendingJoins)
    (waiting : ∀ join ∈ (history.step operation).waiting,
      join.Fits (operations ++ [operation])) :
    (history.step operation).Accounts (operations ++ [operation]) where
  time := by rw [time, accounts.time, List.length_append, List.length_singleton]
  audience := by
    rw [audience, accounts.audience]
    exact (Execution.run_snoc operations operation).symm
  items := by rw [audience, items]
  waiting := waiting
  resolved := by
    rw [resolved]
    exact fun join member => (accounts.resolved join member).snoc operation
  pushed := accounts.pushed_step operation
  once := accounts.once_step operation
  calls := by
    intro moment alive joinReading ticked
    have inside := (List.getElem?_eq_some_iff.mp ticked).1
    rw [List.length_append, List.length_singleton] at inside
    rcases Nat.lt_or_eq_of_le (Nat.le_of_lt_succ inside) with earlier | rfl
    · have nothing : ∀ join ∈ ([] : List ResolvedJoin), join.time = operations.length := nofun
      have same := accounts.calls_earlier nothing earlier ticked
      rw [List.append_nil] at same
      rw [JoinHistory.calls, resolved]
      exact same
    · rw [List.getElem?_concat_length] at ticked
      cases ticked
      cases noTick

theorem step_push (weakGet : ObjectRef → WeakAnswer) (object : ObjectRef) :
    (history.step (.enqueueJoin weakGet (some object))).Accounts
      (operations ++ [.enqueueJoin weakGet (some object)]) := by
  apply accounts.step_of_noTick rfl rfl rfl rfl
  · refine (map_item_scan rfl history.waiting).trans ?_
    rw [accounts.items]
    rfl
  · intro join member
    rcases mem_scan member with rfl | ⟨old, inOld, kept⟩
    · rw [accounts.time]
      exact fits_pushed _ object
    · have fits := accounts.waiting old inOld
      apply fits.kept rfl kept.record kept.frames
      rcases kept.playerState with same | ⟨lost, held, pointer, answer⟩
      · exact Or.inl same
      · refine Or.inr ⟨lost, ?_⟩
        rcases fits.pointer with known | ⟨unknown, -⟩
        · rw [known] at pointer
          cases pointer
          exact faultedAfter_now fits.before answer
        · rw [unknown] at pointer
          cases pointer

theorem step_aside {operation : Operation} (noTick : operation.tick? = none)
    (step : history.step operation =
      { history with
        time := history.time + 1
        audience := history.audience.step operation })
    (same : (history.audience.step operation).pendingJoins = history.audience.pendingJoins) :
    (history.step operation).Accounts (operations ++ [operation]) := by
  apply accounts.step_of_noTick noTick
  · rw [step]
  · rw [step]
  · rw [step]
  · rw [step, same]
    exact accounts.items
  · rw [step]
    intro join member
    exact (accounts.waiting join member).kept noTick rfl rfl (Or.inl rfl)

theorem step_tick (alive : ObjectRef → Bool) (joinReading : ObjectRef → Option JoinReading) :
    (history.step (.tick alive joinReading)).Accounts
      (operations ++ [.tick alive joinReading]) := by
  have leaving : ∀ join ∈ history.waiting.filterMap (·.leave? alive joinReading history.time),
      join.time = operations.length ∧ join.Fits (operations ++ [.tick alive joinReading]) := by
    intro join member
    rw [accounts.time] at member
    rcases List.mem_filterMap.mp member with ⟨old, inOld, leaves⟩
    refine ⟨?_, (accounts.waiting old inOld).leave leaves⟩
    rcases stay_or_leave operations.length old with ⟨-, -, none⟩ | ⟨-, -, same⟩
    · rw [none] at leaves
      cases leaves
    · rw [same] at leaves
      cases leaves
      rfl
  constructor
  · exact (congrArg (· + 1) accounts.time).trans (by simp)
  · rw [run, Execution.run_snoc, ← run, ← accounts.audience]
    rfl
  · refine (map_item_stay history.waiting).trans ?_
    rw [accounts.items]
    exact (tick_pendingJoins history.audience).symm
  · intro join member
    rcases List.mem_filterMap.mp member with ⟨old, inOld, stays⟩
    exact (accounts.waiting old inOld).stay stays
  · intro join member
    rcases List.mem_append.mp member with old | new
    · exact (accounts.resolved join old).snoc _
    · exact (leaving join new).2
  · exact accounts.pushed_step _
  · exact accounts.once_step _
  · intro time otherAlive otherReading ticked
    have inside := (List.getElem?_eq_some_iff.mp ticked).1
    rw [List.length_append, List.length_singleton] at inside
    rcases Nat.lt_or_eq_of_le (Nat.le_of_lt_succ inside) with earlier | rfl
    · exact accounts.calls_earlier (fun join member => (leaving join member).1) earlier ticked
    · rw [List.getElem?_concat_length] at ticked
      cases ticked
      have before : history.resolved.filter (fun join => join.time = operations.length) = [] := by
        rw [List.filter_eq_nil_iff]
        intro join member
        have earlier := (accounts.resolved join member).before
        simp only [decide_eq_true_eq]
        omega
      have now : (history.waiting.filterMap (·.leave? alive joinReading history.time)).filter
          (fun join => join.time = operations.length) =
          history.waiting.filterMap (·.leave? alive joinReading history.time) := by
        rw [List.filter_eq_self]
        intro join member
        exact decide_eq_true (leaving join member).1
      change _ = (List.filter _ (history.resolved ++ _)).filterMap _
      rw [List.filter_append, before, now, List.nil_append, List.take_left, ← accounts.audience,
        ← accounts.items, List.filterMap_map, List.filterMap_filterMap]
      apply List.filterMap_congr
      intro join member
      exact (accounts.waiting join member).upsertCall history.time

theorem step (operation : Operation) :
    (history.step operation).Accounts (operations ++ [operation]) := by
  cases operation with
  | enqueueJoin weakGet playerState =>
      cases playerState with
      | none => exact accounts.step_aside rfl rfl rfl
      | some object => exact accounts.step_push weakGet object
  | tick alive joinReading => exact accounts.step_tick alive joinReading
  | _ => exact accounts.step_aside rfl rfl (aside_pendingJoins rfl _)

end Accounts

theorem accounts_after (operations : List Operation) :
    (after operations).Accounts operations := by
  refine Execution.run_history_invariant (fun operations history => Accounts history operations)
    ?_ (fun past operation accounts => accounts.step operation) operations
  refine ⟨rfl, rfl, rfl, nofun, nofun, fun ticket => ⟨nofun, ?_⟩, List.nodup_nil, nofun⟩
  rintro ⟨weakGet, found, -⟩
  cases found

namespace Accounts

variable (accounts : history.Accounts operations) {record : JoinRecord}
include accounts

theorem waits_iff (member : record ∈ history.records) :
    record ∈ history.waiting.map (·.record) ↔ Waits record.sights := by
  rw [← stays_iff]
  constructor
  · intro waiting
    rcases List.mem_map.mp waiting with ⟨join, inWaiting, rfl⟩
    exact (accounts.waiting join inWaiting).stays
  · intro stays
    rcases List.mem_append.mp member with waiting | resolved
    · exact waiting
    · rcases List.mem_map.mp resolved with ⟨join, inResolved, rfl⟩
      exact absurd stays (accounts.resolved join inResolved).ends.not_stays

theorem resolved_iff (member : record ∈ history.records) (verdict : JoinVerdict) :
    (∃ time, { record, verdict, time } ∈ history.resolved) ↔ Ends record.sights verdict := by
  constructor
  · rintro ⟨time, inResolved⟩
    exact (accounts.resolved _ inResolved).ends
  · intro ends
    rcases List.mem_append.mp member with waiting | resolved
    · rcases List.mem_map.mp waiting with ⟨join, inWaiting, rfl⟩
      exact absurd (accounts.waiting join inWaiting).stays ends.not_stays
    · rcases List.mem_map.mp resolved with ⟨join, inResolved, rfl⟩
      have same := (accounts.resolved join inResolved).ends.unique ends
      refine ⟨join.time, ?_⟩
      rw [← same]
      exact inResolved

theorem sees (member : record ∈ history.records) : record.Sees operations := by
  rcases List.mem_append.mp member with waiting | resolved
  · rcases List.mem_map.mp waiting with ⟨join, inWaiting, rfl⟩
    exact (accounts.waiting join inWaiting).sees
  · rcases List.mem_map.mp resolved with ⟨join, inResolved, rfl⟩
    exact (accounts.resolved join inResolved).sees

end Accounts

end JoinHistory

/-! ## Two entries for one state -/

def pointers (items : List PendingJoin) : List (Option ObjectRef) := items.map (·.playerState)

section Pointers

variable {weakGet : ObjectRef → WeakAnswer} {object : ObjectRef}

theorem count_scan_other {other : ObjectRef} (different : object ≠ other)
    (items : List PendingJoin) :
    (pointers (enqueueJoin.scan weakGet object items)).count (some other) ≤
      (pointers items).count (some other) := by
  induction items with
  | nil => simp [enqueueJoin.scan, pointers, different]
  | cons item rest induction =>
      unfold pointers at induction ⊢
      rw [enqueueJoin.scan]
      cases pointer : item.playerState with
      | none => simpa [pointer] using induction
      | some held =>
          dsimp only
          cases weakGet held with
          | live =>
              by_cases same : held = object
              · rw [if_pos same]
              · rw [if_neg same]
                simpa [List.count_cons, pointer] using induction
          | dead => simpa [List.count_cons, pointer] using induction
          | faulted =>
              simp only [List.map_cons, List.count_cons, pointer]
              have none : (none == some other) = false := rfl
              rw [none]
              exact Nat.le_add_right_of_le induction

theorem count_scan_self (notDead : weakGet object ≠ .dead) (items : List PendingJoin) :
    (pointers (enqueueJoin.scan weakGet object items)).count (some object) ≤
      max 1 ((pointers items).count (some object)) := by
  induction items with
  | nil => simp [enqueueJoin.scan, pointers]
  | cons item rest induction =>
      unfold pointers at induction ⊢
      rw [enqueueJoin.scan]
      cases pointer : item.playerState with
      | none => simpa [pointer] using induction
      | some held =>
          dsimp only
          by_cases same : held = object
          · rw [same]
            cases answer : weakGet object with
            | live =>
                rw [if_pos rfl]
                exact Nat.le_max_right _ _
            | dead => exact absurd answer notDead
            | faulted =>
                simp only [List.map_cons, List.count_cons, pointer]
                have none : (none == some object) = false := rfl
                rw [none]
                simp only [Bool.false_eq_true, if_false, Nat.add_zero]
                omega
          · cases weakGet held with
            | live =>
                rw [if_neg same]
                simpa [List.count_cons, pointer, same] using induction
            | dead => simpa [List.count_cons, pointer, same] using induction
            | faulted => simpa [List.count_cons, pointer, same] using induction

theorem count_survivors (alive : ObjectRef → Bool)
    (joinReading : ObjectRef → Option JoinReading) (items : List PendingJoin) :
    (pointers (items.filterMap (survivor alive joinReading))).count (some object) ≤
      (pointers items).count (some object) := by
  apply List.Sublist.count_le
  induction items with
  | nil => exact List.Sublist.refl _
  | cons item rest induction =>
      rw [List.filterMap_cons]
      unfold survivor at induction ⊢
      by_cases stays : verdict alive joinReading item = .stays
      · rw [if_pos stays]
        exact induction.cons_cons _
      · rw [if_neg stays]
        exact induction.cons _

end Pointers

/-- A state that no `EnqueueJoin` found dead has one entry at most. -/
theorem count_pendingJoins (operations : List Operation) {object : ObjectRef}
    (notDead : ¬FoundDead operations object) :
    (pointers (run operations).pendingJoins).count (some object) ≤ 1 := by
  have initial : ¬FoundDead [] object →
      (pointers ({} : AudienceTracker).pendingJoins).count (some object) ≤ 1 :=
    fun _ => Nat.zero_le 1
  refine Execution.run_history_invariant
    (fun operations (audience : AudienceTracker) => ¬FoundDead operations object →
      (pointers audience.pendingJoins).count (some object) ≤ 1)
    initial ?_ operations notDead
  intro past operation induction notDead
  have earlier : ¬FoundDead past object := by
    rintro ⟨weakGet, playerState, member, answer⟩
    exact notDead ⟨weakGet, playerState, List.mem_append_left _ member, answer⟩
  have before := induction earlier
  cases operation with
  | enqueueJoin weakGet playerState =>
      cases playerState with
      | none => exact before
      | some pushed =>
          by_cases same : pushed = object
          · have answer : weakGet pushed ≠ .dead := by
              intro dead
              rw [same] at dead
              exact notDead ⟨weakGet, _, List.mem_append_right _ List.mem_cons_self, dead⟩
            have self := count_scan_self answer (Execution.run step {} past).pendingJoins
            rw [same] at self
            change (pointers (enqueueJoin.scan weakGet pushed _)).count _ ≤ 1
            rw [same]
            omega
          · exact Nat.le_trans (count_scan_other same _) before
  | tick alive joinReading =>
      change (pointers (tick _ alive joinReading).pendingJoins).count _ ≤ 1
      rw [tick_pendingJoins]
      exact Nat.le_trans (count_survivors alive joinReading _) before
  | _ =>
      rw [aside_pendingJoins rfl]
      exact before

/-! ## Every entry -/

namespace JoinHistory

/-- What the history says about the pending joins. -/
structure ResolvesOnce (history : JoinHistory) (operations : List Operation) : Prop where
  /-- The records are those of `m_pending_joins`, and of all that were in it. -/
  entries : history.waiting.map (·.item) = (run operations).pendingJoins
  pushed : ∀ ticket, ticket ∈ history.tickets ↔ Pushed operations ticket
  once : (history.tickets.map (·.time)).Nodup
  sees : ∀ record ∈ history.records, record.Sees operations
  upToDate : ∀ join ∈ history.waiting,
    join.record.sights.length = (ticksAfter operations join.record.ticket.time).length
  waits : ∀ record ∈ history.records,
    record ∈ history.waiting.map (·.record) ↔ Waits record.sights
  upserted : ∀ record ∈ history.records, ∀ uid platform,
    (∃ time, { record, verdict := .upserted uid platform, time } ∈ history.resolved) ↔
      Upserts record.sights uid platform
  dropped : ∀ record ∈ history.records,
    (∃ time, { record, verdict := .dropped, time } ∈ history.resolved) ↔ Drops record.sights
  /-- A tick calls `Upsert` for the records it resolves so, and changes nothing else. -/
  calls : ∀ time alive joinReading, operations[time]? = some (.tick alive joinReading) →
    { (run (operations.take time)).processPendingJoins alive joinReading with pendingJoins := [] } =
      ({ run (operations.take time) with pendingJoins := [] } : AudienceTracker).upsertAll
        (history.calls time)
  lastTick : ∀ resolved ∈ history.resolved, resolved.record.sights.length =
    (ticksAfter (operations.take (resolved.time + 1)) resolved.record.ticket.time).length
  single : ∀ object, ¬FoundDead operations object →
    (pointers (run operations).pendingJoins).count (some object) ≤ 1

/-- After any sequence of calls every entry that was pushed waits, was upserted or was
dropped, once, and as its sights decide. -/
theorem pendingJoins_resolveOnce (operations : List Operation) :
    (after operations).ResolvesOnce operations := by
  have accounts := accounts_after operations
  constructor
  · rw [← accounts.audience]
    exact accounts.items
  · exact accounts.pushed
  · exact accounts.once
  · exact fun record member => accounts.sees member
  · exact fun join member => (accounts.waiting join member).complete
  · exact fun record member => accounts.waits_iff member
  · intro record member uid platform
    rw [accounts.resolved_iff member, ends_upserted_iff]
  · intro record member
    rw [accounts.resolved_iff member, ends_dropped_iff]
  · intro time alive joinReading ticked
    rw [processPendingJoins_eq, accounts.calls time alive joinReading ticked]
    have empty := upsertAll_pendingJoins
      ({ run (operations.take time) with pendingJoins := [] } : AudienceTracker)
      ((after operations).calls time)
    generalize AudienceTracker.upsertAll _ _ = upserted at empty ⊢
    cases upserted
    cases empty
    rfl
  · exact fun resolved member => (accounts.resolved resolved member).last
  · exact fun object notDead => count_pendingJoins operations notDead

/-- Two players join, and one of them dies at once. -/
example :
    (after (.enqueueJoin (fun _ => .live) (some 1) :: .enqueueJoin (fun _ => .live) (some 2) ::
        List.replicate 30 (.tick (fun object => object == 1)
          fun object => some { playerUId := some (Guid.mk object.toUInt32 0 0 0) }))).resolved.map
      (fun resolved => (resolved.record.ticket.playerState, resolved.record.sights.length,
        resolved.verdict)) =
      [(2, 1, .dropped), (1, 30, .upserted (Guid.mk 1 0 0 0) [])] := by
  decide +kernel

end JoinHistory

end AudienceTracker

end PalCrosschat
