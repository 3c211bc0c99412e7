import PalCrosschat.Foundation.BoundedDeque
import PalCrosschat.Foundation.Execution

/-! # Queues with retry at the back

A bounded queue between producers and one consumer that takes an item out, works
on it, and when the work fails puts it back at the end. Both kinds of insertion
drop the oldest item of a full queue. What was pushed, finished and dropped is
kept as history. -/

namespace PalCrosschat

structure RetryQueue (limit : Nat) (α : Type) where
  waiting : BoundedDeque limit α := .empty
  /-- The item the consumer works on. -/
  held : Option α := none
  pushed : List α := []
  finished : List α := []
  evicted : List α := []

namespace RetryQueue

variable {limit : Nat} {α : Type}

inductive Input (α : Type)
  | push (item : α)
  | take
  | finish
  | putBack

def insert [NeZero limit] (queue : RetryQueue limit α) (item : α) : RetryQueue limit α :=
  { queue with
    waiting := queue.waiting.push item
    evicted := queue.evicted ++ queue.waiting.evicted.toList }

def take (queue : RetryQueue limit α) : RetryQueue limit α :=
  match queue.held, queue.waiting.items with
  | none, item :: _ => { queue with waiting := queue.waiting.pop, held := some item }
  | _, _ => queue

def step [NeZero limit] (queue : RetryQueue limit α) : Input α → RetryQueue limit α
  | .push item => { queue.insert item with pushed := queue.pushed ++ [item] }
  | .take => queue.take
  | .finish =>
      { queue with held := none, finished := queue.finished ++ queue.held.toList }
  | .putBack =>
      match queue.held with
      | none => queue
      | some item => { queue.insert item with held := none }

def items (queue : RetryQueue limit α) : List α :=
  queue.finished ++ queue.held.toList ++ queue.waiting.items

def Conserved (queue : RetryQueue limit α) : Prop :=
  queue.pushed.Perm (queue.items ++ queue.evicted)

def Ordered (queue : RetryQueue limit α) : Prop :=
  queue.items.Sublist queue.pushed

def PutsBackAlone (queue : RetryQueue limit α) (input : Input α) : Prop :=
  match input with
  | .putBack => queue.waiting.items = []
  | _ => True

/-! ## Steps -/

theorem conserved_empty : Conserved ({} : RetryQueue limit α) :=
  List.Perm.refl []

theorem ordered_empty : Ordered ({} : RetryQueue limit α) :=
  List.Sublist.refl []

theorem take_of_free {queue : RetryQueue limit α} {item : α} {rest : List α}
    (free : queue.held = none) (waiting : queue.waiting.items = item :: rest) :
    queue.take = { queue with waiting := queue.waiting.pop, held := some item } := by
  unfold take
  rw [free, waiting]

theorem items_take (queue : RetryQueue limit α) : queue.take.items = queue.items := by
  unfold take
  split
  · rename_i item rest free waiting
    simp [items, free, waiting]
  · rfl

theorem take_history (queue : RetryQueue limit α) :
    queue.take.pushed = queue.pushed ∧ queue.take.evicted = queue.evicted := by
  unfold take
  split <;> exact ⟨rfl, rfl⟩

section Step

variable [NeZero limit] {queue : RetryQueue limit α}

/-- What is there after an insertion, and what it dropped. -/
theorem count_insert [BEq α] (queue : RetryQueue limit α) (item other : α) :
    (queue.insert item).waiting.items.count other +
        (queue.insert item).evicted.count other =
      queue.waiting.items.count other + queue.evicted.count other +
        [item].count other := by
  have split := congrArg (List.count other) queue.waiting.evicted_append_survivors
  simp only [insert, BoundedDeque.push_items, List.count_append] at split ⊢
  omega

theorem Conserved.step (conserved : queue.Conserved) (input : Input α) :
    (queue.step input).Conserved := by
  classical
  unfold Conserved at conserved ⊢
  rw [List.perm_iff_count] at conserved ⊢
  intro other
  have before := conserved other
  cases input with
  | push item =>
      have inserted := count_insert queue item other
      simp only [RetryQueue.step, items, List.count_append] at before ⊢
      change queue.pushed.count other + [item].count other =
        queue.finished.count other + queue.held.toList.count other +
          (queue.insert item).waiting.items.count other +
        (queue.insert item).evicted.count other
      omega
  | take =>
      rw [RetryQueue.step, List.count_append, items_take, queue.take_history.1,
        queue.take_history.2, before, List.count_append]
  | finish =>
      simp only [RetryQueue.step, items, List.count_append, Option.toList_none,
        List.count_nil] at before ⊢
      omega
  | putBack =>
      simp only [RetryQueue.step]
      cases held : queue.held with
      | none => exact before
      | some item =>
          have inserted := count_insert queue item other
          simp only [items, List.count_append, held, Option.toList_some] at before
          simp only [items, List.count_append, Option.toList_none, List.count_nil]
          change queue.pushed.count other = queue.finished.count other + 0 +
            (queue.insert item).waiting.items.count other +
            (queue.insert item).evicted.count other
          omega

theorem Ordered.step (ordered : queue.Ordered) {input : Input α}
    (alone : queue.PutsBackAlone input) : (queue.step input).Ordered := by
  unfold Ordered at ordered ⊢
  cases input with
  | push item =>
      have shorter : (queue.finished ++ queue.held.toList ++ queue.waiting.survivors).Sublist
          queue.pushed :=
        List.Sublist.trans
          (List.Sublist.append_left queue.waiting.survivors_suffix.sublist _) ordered
      change (queue.finished ++ queue.held.toList ++
        (queue.waiting.survivors ++ [item])).Sublist (queue.pushed ++ [item])
      rw [← List.append_assoc]
      exact shorter.append_right [item]
  | take =>
      rw [RetryQueue.step, items_take, queue.take_history.1]
      exact ordered
  | finish =>
      simp only [items, RetryQueue.step, Option.toList_none, List.append_nil] at ordered ⊢
      exact ordered
  | putBack =>
      simp only [RetryQueue.step]
      cases held : queue.held with
      | none => exact ordered
      | some item =>
          have empty : queue.waiting.items = [] := alone
          have survivors : queue.waiting.survivors = [] :=
            List.suffix_nil.mp (empty ▸ queue.waiting.survivors_suffix)
          simp only [items, held, empty, Option.toList_some, List.append_nil] at ordered
          change (queue.finished ++ [] ++ (queue.waiting.survivors ++ [item])).Sublist
            queue.pushed
          rw [survivors, List.append_nil, List.nil_append]
          exact ordered

end Step

end RetryQueue

end PalCrosschat
