import Mathlib.Algebra.GroupWithZero.Nat
import Mathlib.Data.List.Basic

/-! # Deques that drop their oldest item

The pattern `if (size() >= limit) pop_front(); push_back(item);` over a deque.
The bound is part of the type, so no value of it can be over-full. -/

namespace PalCrosschat

/-- A first-in first-out deque of at most `limit` items, oldest first. -/
@[ext] structure BoundedDeque (limit : Nat) (α : Type) where
  items : List α
  bounded : items.length ≤ limit

namespace BoundedDeque

variable {limit : Nat} {α : Type}

def empty : BoundedDeque limit α where
  items := []
  bounded := Nat.zero_le limit

@[simp] theorem empty_items : (empty : BoundedDeque limit α).items = [] := rfl

instance : Inhabited (BoundedDeque limit α) := ⟨empty⟩

def survivors (deque : BoundedDeque limit α) : List α :=
  if limit ≤ deque.items.length then deque.items.tail else deque.items

def evicted (deque : BoundedDeque limit α) : Option α :=
  if limit ≤ deque.items.length then deque.items.head? else none

def push [positive : NeZero limit] (deque : BoundedDeque limit α) (item : α) :
    BoundedDeque limit α where
  items := deque.survivors ++ [item]
  bounded := by
    have nonzero := Nat.pos_of_ne_zero positive.out
    have bounded := deque.bounded
    unfold survivors
    split <;> simp <;> omega

def pop (deque : BoundedDeque limit α) : BoundedDeque limit α where
  items := deque.items.tail
  bounded := by
    have bounded := deque.bounded
    simp
    omega

@[simp] theorem push_items [NeZero limit] (deque : BoundedDeque limit α)
    (item : α) : (deque.push item).items = deque.survivors ++ [item] := rfl

@[simp] theorem pop_items (deque : BoundedDeque limit α) :
    deque.pop.items = deque.items.tail := rfl

theorem evicted_append_survivors (deque : BoundedDeque limit α) :
    deque.evicted.toList ++ deque.survivors = deque.items := by
  unfold evicted survivors
  split
  · cases deque.items <;> simp
  · simp

theorem evicted_of_empty {deque : BoundedDeque limit α} (empty : deque.items = []) :
    deque.evicted = none := by
  unfold evicted
  rw [empty]
  split <;> rfl

theorem items_of_evicted {deque : BoundedDeque limit α} {oldest : α}
    (dropped : deque.evicted = some oldest) :
    deque.items = oldest :: deque.survivors ∧ deque.items.length = limit := by
  have split := deque.evicted_append_survivors
  rw [dropped] at split
  refine ⟨split.symm, ?_⟩
  have full : limit ≤ deque.items.length := by
    by_contra room
    simp [evicted, room] at dropped
  exact Nat.le_antisymm deque.bounded full

theorem survivors_suffix (deque : BoundedDeque limit α) :
    deque.survivors.IsSuffix deque.items :=
  ⟨deque.evicted.toList, deque.evicted_append_survivors⟩

theorem survivors_eq_drop (deque : BoundedDeque limit α) :
    deque.survivors = deque.items.drop (deque.items.length + 1 - limit) := by
  have bounded := deque.bounded
  unfold survivors
  split
  · rename_i full
    rw [Nat.le_antisymm bounded full, Nat.add_sub_cancel_left, List.drop_one]
  · rw [show deque.items.length + 1 - limit = 0 by omega, List.drop_zero]

/-- Deques that look alike still do after insertions of items that look alike. -/
theorem map_push [NeZero limit] {Other View : Type} {view : α → View} {otherView : Other → View}
    {deque : BoundedDeque limit α} {other : BoundedDeque limit Other}
    (alike : deque.items.map view = other.items.map otherView) {item : α} {otherItem : Other}
    (same : view item = otherView otherItem) :
    (deque.push item).items.map view = (other.push otherItem).items.map otherView := by
  have lengths : deque.items.length = other.items.length := by
    simpa using congrArg List.length alike
  rw [push_items, push_items, List.map_append, List.map_append, survivors_eq_drop,
    survivors_eq_drop, List.map_drop, List.map_drop, alike, lengths, List.map_singleton,
    List.map_singleton, same]

theorem items_foldl_push [positive : NeZero limit] (deque : BoundedDeque limit α)
    (items : List α) :
    (items.foldl push deque).items =
      (deque.items ++ items).drop (deque.items.length + items.length - limit) := by
  induction items generalizing deque with
  | nil =>
      have bounded := deque.bounded
      rw [List.foldl_nil, List.append_nil, List.length_nil,
        show deque.items.length + 0 - limit = 0 by omega, List.drop_zero]
  | cons item rest induction =>
      have bounded := deque.bounded
      have nonzero := Nat.pos_of_ne_zero positive.out
      have pushed : (deque.push item).items =
          (deque.items ++ [item]).drop (deque.items.length + 1 - limit) := by
        rw [push_items, survivors_eq_drop, List.drop_append_of_le_length (by omega)]
      rw [List.foldl_cons, induction, pushed, List.length_drop, List.length_append,
        List.length_singleton, ← List.drop_append_of_le_length (by simp),
        List.drop_drop, List.append_assoc, List.singleton_append, List.length_cons]
      congr 1
      omega

theorem mem_of_mem_survivors {deque : BoundedDeque limit α} {item : α}
    (member : item ∈ deque.survivors) : item ∈ deque.items :=
  deque.survivors_suffix.subset member

theorem mem_push [NeZero limit] {deque : BoundedDeque limit α} {item other : α}
    (member : other ∈ (deque.push item).items) :
    other ∈ deque.items ∨ other = item := by
  rcases List.mem_append.mp member with old | new
  · exact .inl (mem_of_mem_survivors old)
  · exact .inr (List.mem_singleton.mp new)

theorem mem_of_mem_pop {deque : BoundedDeque limit α} {item : α}
    (member : item ∈ deque.pop.items) : item ∈ deque.items :=
  List.mem_of_mem_tail member

end BoundedDeque

end PalCrosschat
