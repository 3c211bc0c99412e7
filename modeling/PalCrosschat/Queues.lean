import PalCrosschat.Foundation.BoundedDeque
import PalCrosschat.Foundation.Bytes

/-! # Thread-boundary queues

The plain structs of `Queues.h` and the mutex-protected `BoundedQueue`. Every
operation takes the lock for its whole body, so it is one atomic step. -/

namespace PalCrosschat

structure OutboundMessage where
  senderName : Bytes
  senderId : Bytes
  guildName : Bytes
  message : Bytes
deriving DecidableEq, Repr

structure InboundMessage where
  id : Nat
  origin : Bytes
  senderName : Bytes
  senderId : Bytes
  guildName : Bytes
  message : Bytes
deriving DecidableEq, Repr

structure WebhookJob where
  webhookUrl : Bytes
  content : Bytes
deriving DecidableEq, Repr

structure LinkJob where
  connectCode : Bytes
  platform : Bytes
  userId : Bytes
  platformUserId : Bytes
  playerName : Bytes
deriving DecidableEq, Repr

structure LinkResult where
  notice : Bytes
  platformUserId : Bytes
deriving DecidableEq, Repr

/-- A first-in first-out queue that drops its oldest item when full and counts
the drops. -/
structure BoundedQueue (max : Nat) (α : Type) where
  deque : BoundedDeque max α
  drops : Nat

namespace BoundedQueue

variable {max : Nat} {α : Type}

def empty : BoundedQueue max α where
  deque := .empty
  drops := 0

def push [NeZero max] (queue : BoundedQueue max α) (item : α) :
    BoundedQueue max α where
  deque := queue.deque.push item
  drops := if max ≤ queue.deque.items.length then queue.drops + 1 else queue.drops

def tryPop (queue : BoundedQueue max α) : Option α × BoundedQueue max α :=
  match queue.deque.items with
  | [] => (none, queue)
  | item :: _ => (some item, { queue with deque := queue.deque.pop })

def items (queue : BoundedQueue max α) : List α := queue.deque.items

@[simp] theorem empty_items : (empty : BoundedQueue max α).items = [] := rfl

theorem items_tryPop (queue : BoundedQueue max α) : queue.tryPop.2.items = queue.items.tail := by
  unfold tryPop items
  split
  · rename_i nothing
    rw [nothing, List.tail_nil]
  · rfl

theorem items_eq_nil_of_tryPop {queue : BoundedQueue max α} (popped : queue.tryPop.1 = none) :
    queue.items = [] := by
  unfold tryPop at popped
  split at popped
  · assumption
  · cases popped

theorem tryPop_some {queue : BoundedQueue max α} {item : α}
    (popped : queue.tryPop.1 = some item) :
    ∃ rest, queue.deque.items = item :: rest ∧
      queue.tryPop.2 = { queue with deque := queue.deque.pop } := by
  unfold tryPop at popped ⊢
  split at popped
  · cases popped
  · rename_i oldest rest stored
    cases popped
    exact ⟨rest, stored, rfl⟩

theorem drops_push [positive : NeZero max] (queue : BoundedQueue max α) (item : α) :
    (queue.push item).drops = queue.drops + queue.deque.evicted.toList.length := by
  have nonzero := Nat.pos_of_ne_zero positive.out
  unfold push BoundedDeque.evicted
  split
  · cases stored : queue.deque.items with
    | nil =>
        rename_i full
        rw [stored, List.length_nil] at full
        omega
    | cons oldest rest => rfl
  · rfl

theorem drops_le_foldl_push [NeZero max] (queue : BoundedQueue max α) (items : List α) :
    queue.drops ≤ (items.foldl push queue).drops := by
  induction items generalizing queue with
  | nil => exact Nat.le_refl _
  | cons item rest induction =>
      have grown := drops_push queue item
      exact Nat.le_trans (by omega) (induction (queue.push item))

theorem mem_foldl_push [NeZero max] {queue : BoundedQueue max α} {items : List α}
    (kept : (items.foldl push queue).drops = queue.drops) {item : α}
    (member : item ∈ queue.items) : item ∈ (items.foldl push queue).items := by
  induction items generalizing queue with
  | nil => exact member
  | cons head rest induction =>
      have grown := drops_push queue head
      have later := drops_le_foldl_push (queue.push head) rest
      rw [List.foldl_cons] at kept ⊢
      have nothing : queue.deque.evicted = none := by
        have none : queue.deque.evicted.toList.length = 0 := by omega
        simpa using none
      apply induction
      · omega
      · have split := queue.deque.evicted_append_survivors
        rw [nothing, Option.toList_none, List.nil_append] at split
        change item ∈ queue.deque.survivors ++ [head]
        rw [split]
        exact List.mem_append_left _ member

theorem mem_push [NeZero max] {queue : BoundedQueue max α} {item other : α}
    (member : other ∈ (queue.push item).items) :
    other ∈ queue.items ∨ other = item :=
  BoundedDeque.mem_push member

theorem mem_of_tryPop {queue : BoundedQueue max α} {item : α}
    (popped : queue.tryPop.1 = some item) : item ∈ queue.items := by
  unfold tryPop at popped
  split at popped
  · cases popped
  · rename_i split
    cases popped
    simp [items, split]

theorem mem_of_mem_tryPop {queue : BoundedQueue max α} {item : α}
    (member : item ∈ queue.tryPop.2.items) : item ∈ queue.items := by
  unfold tryPop at member
  split at member
  · exact member
  · exact BoundedDeque.mem_of_mem_pop member

end BoundedQueue

def kQueueMax : Nat := 500

instance : NeZero kQueueMax := ⟨by decide⟩

abbrev OutboundQueue := BoundedQueue kQueueMax OutboundMessage
abbrev InboundQueue := BoundedQueue kQueueMax InboundMessage
abbrev WebhookQueue := BoundedQueue kQueueMax WebhookJob
abbrev LinkQueue := BoundedQueue kQueueMax LinkJob
abbrev LinkResultQueue := BoundedQueue kQueueMax LinkResult

end PalCrosschat
