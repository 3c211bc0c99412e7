import PalCrosschat.Foundation.Execution
import PalCrosschat.Queues

/-! # Histories of a bounded queue

Items enter at the back and leave at the front, by a `TryPop` or because a
`Push` found the queue full. A history is the calls of all threads in the order
in which they took the lock. -/

namespace PalCrosschat

inductive QueueCall (α : Type)
  | push (item : α)
  | tryPop
deriving DecidableEq

inductive Removal (α : Type)
  | popped (item : α)
  | evicted (item : α)
deriving DecidableEq

def Removal.item {α : Type} : Removal α → α
  | popped item => item
  | evicted item => item

/-- The item that a `TryPop` returned. -/
def Removal.popped? {α : Type} : Removal α → Option α
  | popped item => some item
  | evicted _ => none

def Removal.evicted? {α : Type} : Removal α → Option α
  | popped _ => none
  | evicted item => some item

namespace QueueCall

variable {α : Type}

def item? : QueueCall α → Option α
  | push item => some item
  | tryPop => none

variable {max : Nat}

def apply [NeZero max] (queue : BoundedQueue max α) : QueueCall α → BoundedQueue max α
  | push item => queue.push item
  | tryPop => queue.tryPop.2

def removal (queue : BoundedQueue max α) : QueueCall α → Option (Removal α)
  | push _ => queue.deque.evicted.map .evicted
  | tryPop => queue.tryPop.1.map .popped

end QueueCall

/-! ## The records of a history -/

section Records

variable (max : Nat) [NeZero max] {α : Type} (calls : List (QueueCall α))

def queueAfter : BoundedQueue max α := Execution.run QueueCall.apply .empty calls

def removalLog : List (Option (Removal α)) :=
  Execution.trace QueueCall.apply QueueCall.removal (.empty : BoundedQueue max α) calls

def removals : List (Removal α) := (removalLog max calls).filterMap id

def pushedItems : List α := calls.filterMap QueueCall.item?

def poppedItems : List α := (removals max calls).filterMap Removal.popped?

def evictedItems : List α := (removals max calls).filterMap Removal.evicted?

/-- First in, first out, except that a full queue drops its oldest item. -/
structure FifoHistory : Prop where
  /-- Whatever was pushed left in this order or is still there. -/
  order : pushedItems calls = (removals max calls).map Removal.item ++ (queueAfter max calls).items
  content : (queueAfter max calls).items = (pushedItems calls).drop
    ((poppedItems max calls).length + (queueAfter max calls).drops)
  popped : (poppedItems max calls).Sublist (pushedItems calls)
  pop : ∀ time oldest, (removalLog max calls)[time]? = some (some (.popped oldest)) →
    calls[time]? = some .tryPop ∧ (queueAfter max (calls.take time)).items.head? = some oldest
  eviction : ∀ time oldest, (removalLog max calls)[time]? = some (some (.evicted oldest)) →
    (∃ item, calls[time]? = some (.push item)) ∧
      (queueAfter max (calls.take time)).items.length = max ∧
      (queueAfter max (calls.take time)).items.head? = some oldest
  bounded : (queueAfter max calls).items.length ≤ max
  nothing : (queueAfter max calls).tryPop.1 = none ↔ (queueAfter max calls).items = []
  conserved : (pushedItems calls).length = (poppedItems max calls).length +
    (queueAfter max calls).drops + (queueAfter max calls).items.length
  counted : (queueAfter max calls).drops = (evictedItems max calls).length

end Records

/-! ## One call -/

section Call

variable {max : Nat} {α : Type} (queue : BoundedQueue max α)

theorem BoundedQueue.tryPop_fst :
    queue.tryPop.1 = queue.items.head? := by
  unfold tryPop items
  cases queue.deque.items with
  | nil => rfl
  | cons oldest rest => rfl

theorem QueueCall.apply_items [NeZero max] (call : QueueCall α) :
    queue.items ++ call.item?.toList =
      ((call.removal queue).map Removal.item).toList ++ (call.apply queue).items := by
  cases call with
  | push item =>
      have split := queue.deque.evicted_append_survivors
      change queue.deque.items ++ [item] = _ ++ (queue.deque.survivors ++ [item])
      rw [← split, removal, Option.map_map, ← List.append_assoc]
      congr 3
      cases queue.deque.evicted <;> rfl
  | tryPop =>
      rw [removal, apply, BoundedQueue.items_tryPop, BoundedQueue.tryPop_fst, Option.map_map]
      change queue.items ++ [] = _
      rw [List.append_nil]
      cases queue.items with
      | nil => rfl
      | cons oldest rest => rfl

theorem QueueCall.apply_drops [NeZero max] (call : QueueCall α) :
    (call.apply queue).drops =
      queue.drops + ((call.removal queue).bind Removal.evicted?).toList.length := by
  cases call with
  | push item =>
      rw [apply, BoundedQueue.drops_push, removal]
      cases queue.deque.evicted <;> rfl
  | tryPop =>
      have kept : queue.tryPop.2.drops = queue.drops := by
        unfold BoundedQueue.tryPop
        split <;> rfl
      rw [apply, kept, removal]
      cases queue.tryPop.1 <;> rfl

theorem QueueCall.removal_eq_popped {call : QueueCall α} {oldest : α}
    (removed : call.removal queue = some (.popped oldest)) :
    call = .tryPop ∧ queue.items.head? = some oldest := by
  cases call with
  | push item =>
      rw [removal, Option.map_eq_some_iff] at removed
      rcases removed with ⟨_, -, differs⟩
      cases differs
  | tryPop =>
      rw [removal, BoundedQueue.tryPop_fst, Option.map_eq_some_iff] at removed
      rcases removed with ⟨_, head, same⟩
      cases same
      exact ⟨rfl, head⟩

theorem QueueCall.removal_eq_evicted {call : QueueCall α} {oldest : α}
    (removed : call.removal queue = some (.evicted oldest)) :
    (∃ item, call = .push item) ∧ queue.items.length = max ∧
      queue.items.head? = some oldest := by
  cases call with
  | push item =>
      rw [removal, Option.map_eq_some_iff] at removed
      rcases removed with ⟨_, dropped, same⟩
      cases same
      have full := BoundedDeque.items_of_evicted dropped
      refine ⟨⟨item, rfl⟩, full.2, ?_⟩
      change queue.deque.items.head? = _
      rw [full.1, List.head?_cons]
  | tryPop =>
      rw [removal, Option.map_eq_some_iff] at removed
      rcases removed with ⟨_, -, differs⟩
      cases differs

end Call

/-! ## Whole histories -/

section History

variable {max : Nat} [NeZero max] {α : Type}

theorem removals_snoc (past : List (QueueCall α)) (call : QueueCall α) :
    removals max (past ++ [call]) =
      removals max past ++ (call.removal (queueAfter max past)).toList := by
  rw [removals, removalLog, Execution.trace_snoc, List.filterMap_append]
  rfl

theorem pushedItems_eq (calls : List (QueueCall α)) :
    pushedItems calls = (removals max calls).map Removal.item ++ (queueAfter max calls).items := by
  refine Execution.run_history_invariant
    (fun calls (queue : BoundedQueue max α) =>
      pushedItems calls = (removals max calls).map Removal.item ++ queue.items) ?_ ?_ calls
  · rfl
  · intro past call holds
    have moved := QueueCall.apply_items (queueAfter max past) call
    rw [removals_snoc, List.map_append, ← Option.toList_map, List.append_assoc]
    change _ = _ ++ (_ ++ (call.apply (queueAfter max past)).items)
    rw [← moved, ← List.append_assoc]
    change pushedItems past = _ ++ (queueAfter max past).items at holds
    rw [← holds, pushedItems, pushedItems, List.filterMap_append]
    cases call <;> rfl

theorem drops_queueAfter (calls : List (QueueCall α)) :
    (queueAfter max calls).drops = (evictedItems max calls).length := by
  refine Execution.run_history_invariant
    (fun calls (queue : BoundedQueue max α) =>
      queue.drops = (evictedItems max calls).length) ?_ ?_ calls
  · rfl
  · intro past call holds
    change (call.apply (queueAfter max past)).drops = _
    change (queueAfter max past).drops = _ at holds
    rw [QueueCall.apply_drops, holds, evictedItems, evictedItems, removals_snoc,
      List.filterMap_append, List.length_append]
    congr 2
    cases QueueCall.removal (queueAfter max past) call with
    | none => rfl
    | some removed => cases removed <;> rfl

theorem length_removals (removed : List (Removal α)) :
    removed.length = (removed.filterMap Removal.popped?).length +
      (removed.filterMap Removal.evicted?).length := by
  induction removed with
  | nil => rfl
  | cons head tail induction =>
      cases head with
      | popped item =>
          rw [List.filterMap_cons_some (by rfl), List.filterMap_cons_none (by rfl),
            List.length_cons, List.length_cons, induction]
          omega
      | evicted item =>
          rw [List.filterMap_cons_none (by rfl), List.filterMap_cons_some (by rfl),
            List.length_cons, List.length_cons, induction]
          omega

theorem popped_sublist_removals (removed : List (Removal α)) :
    (removed.filterMap Removal.popped?).Sublist (removed.map Removal.item) := by
  induction removed with
  | nil => exact List.Sublist.refl _
  | cons head tail induction =>
      cases head with
      | popped item =>
          rw [List.filterMap_cons_some (by rfl)]
          exact induction.cons_cons item
      | evicted item =>
          rw [List.filterMap_cons_none (by rfl)]
          exact induction.cons item

theorem removal_of_log {calls : List (QueueCall α)} {time : Nat} {removed : Removal α}
    (logged : (removalLog max calls)[time]? = some (some removed)) :
    ∃ call, calls[time]? = some call ∧
      call.removal (queueAfter max (calls.take time)) = some removed := by
  rw [removalLog, Execution.getElem?_trace, Option.map_eq_some_iff] at logged
  exact logged

/-- `BoundedQueue` is first in, first out and drops only the oldest item, for
every maximum and all calls in every order. -/
theorem boundedQueue_fifo (max : Nat) [NeZero max] (calls : List (QueueCall α)) :
    FifoHistory max calls := by
  have order : pushedItems calls =
      (removals max calls).map Removal.item ++ (queueAfter max calls).items :=
    pushedItems_eq calls
  have counted : (queueAfter max calls).drops = (evictedItems max calls).length :=
    drops_queueAfter calls
  have lengths := length_removals (removals max calls)
  refine
    { order := order
      content := ?_
      popped := ?_
      pop := ?_
      eviction := ?_
      bounded := (queueAfter max calls).deque.bounded
      nothing := by rw [BoundedQueue.tryPop_fst, List.head?_eq_none_iff]
      conserved := ?_
      counted := counted }
  · have removed : (poppedItems max calls).length + (queueAfter max calls).drops =
        ((removals max calls).map Removal.item).length := by
      rw [counted, List.length_map, lengths]
      rfl
    rw [order, removed, List.drop_left]
  · rw [order]
    exact (popped_sublist_removals _).trans (List.sublist_append_left _ _)
  · intro time oldest logged
    rcases removal_of_log logged with ⟨call, here, removed⟩
    have pop := QueueCall.removal_eq_popped _ removed
    rw [here, pop.1]
    exact ⟨rfl, pop.2⟩
  · intro time oldest logged
    rcases removal_of_log logged with ⟨call, here, removed⟩
    rcases QueueCall.removal_eq_evicted _ removed with ⟨⟨item, rfl⟩, full⟩
    exact ⟨⟨item, here⟩, full⟩
  · rw [order, List.length_append, List.length_map, lengths, counted]
    rfl

/-- A third item in a queue for two drops the first. -/
theorem boundedQueue_fifo_two :
    removals 2 [.push 1, .push 2, .push 3, .tryPop] = [.evicted 1, .popped 2] ∧
      FifoHistory 2 [.push 1, .push 2, .push 3, .tryPop] :=
  ⟨by decide, boundedQueue_fifo 2 _⟩

end History

end PalCrosschat
