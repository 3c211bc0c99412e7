import Mathlib.Data.List.Infix

/-! # Replacement in one pass

What it means to replace the leftmost non-overlapping occurrences of a part: the
text is read from left to right, its first occurrence is exchanged, and the rest
behind that occurrence is read on its own. Exchanged text is not read again. -/

namespace PalCrosschat

variable {α : Type}

/-- The part does not start in `front` when it follows it. -/
def FirstBehind (part front : List α) : Prop :=
  ∀ index < front.length, ¬part <+: (front ++ part).drop index

inductive OnePass (part value : List α) : List α → List α → Prop
  | done {text} (absent : ¬part <:+: text) : OnePass part value text text
  | next {front rest result} (first : FirstBehind part front)
      (onward : OnePass part value rest result) :
      OnePass part value (front ++ part ++ rest) (front ++ value ++ result)

/-- An occurrence that starts in `front` ends in the part behind it. -/
theorem firstBehind_iff {part front : List α} (rest : List α) :
    FirstBehind part front ↔
      ∀ index < front.length, ¬part <+: (front ++ part ++ rest).drop index := by
  have same : ∀ index < front.length,
      (part <+: (front ++ part).drop index ↔ part <+: (front ++ part ++ rest).drop index) := by
    intro index inside
    rw [List.drop_append_of_le_length (show index ≤ (front ++ part).length by
      rw [List.length_append]; omega)]
    constructor
    · exact fun isPrefix => isPrefix.trans (List.prefix_append _ rest)
    · intro isPrefix
      apply List.prefix_of_prefix_length_le isPrefix (List.prefix_append _ rest)
      rw [List.length_drop, List.length_append]
      omega
  exact forall₂_congr fun index inside => not_congr (same index inside)

theorem length_le_of_firstBehind {part front rest other otherRest : List α}
    (first : FirstBehind part front)
    (same : front ++ part ++ rest = other ++ part ++ otherRest) :
    front.length ≤ other.length := by
  by_contra shorter
  have occurs : part <+: (front ++ part ++ rest).drop other.length := by
    rw [same, List.append_assoc, List.drop_left]
    exact List.prefix_append part otherRest
  exact (firstBehind_iff rest).mp first other.length (by omega) occurs

namespace OnePass

variable {part value text : List α}

/-- The text a one-pass replacement returns is determined. -/
theorem unique {result other : List α} (pass : OnePass part value text result)
    (otherPass : OnePass part value text other) : result = other := by
  induction pass generalizing other with
  | done absent =>
      cases otherPass with
      | done => rfl
      | next first onward => exact absurd ⟨_, _, rfl⟩ absent
  | @next front rest result first onward induction =>
      generalize whole : front ++ part ++ rest = text at otherPass
      cases otherPass with
      | done absent => exact absurd ⟨_, _, whole⟩ absent
      | @next otherFront otherRest _ otherFirst otherOnward =>
          have lengths : front.length = otherFront.length :=
            Nat.le_antisymm (length_le_of_firstBehind first whole)
              (length_le_of_firstBehind otherFirst whole.symm)
          have split := List.append_inj (by rw [← List.append_assoc, whole, List.append_assoc])
            lengths
          have behind := List.append_cancel_left split.2
          rw [← behind] at otherOnward
          rw [split.1, induction otherOnward]

/-- Reading on behind the first occurrence. -/
theorem of_first {index : Nat} {result : List α} (occurs : part <+: text.drop index)
    (inside : index ≤ text.length)
    (before : ∀ earlier < index, ¬part <+: text.drop earlier)
    (onward : OnePass part value (text.drop (index + part.length)) result) :
    OnePass part value text (text.take index ++ value ++ result) := by
  rcases occurs with ⟨rest, behind⟩
  have whole : text.take index ++ part ++ rest = text := by
    rw [List.append_assoc, behind, List.take_append_drop]
  have restEq : text.drop (index + part.length) = rest := by
    rw [← List.drop_drop, ← behind, List.drop_left]
  have first : FirstBehind part (text.take index) := by
    rw [firstBehind_iff rest, whole, List.length_take, Nat.min_eq_left inside]
    exact before
  rw [restEq] at onward
  have pass := OnePass.next first onward
  rw [whole] at pass
  exact pass

end OnePass

end PalCrosschat
