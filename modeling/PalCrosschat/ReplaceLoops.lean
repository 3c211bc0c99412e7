import PalCrosschat.ChatCapture
import PalCrosschat.Foundation.OnePass
import PalCrosschat.Templates

/-! # The replacement loops

`ReplaceAll` and `ReplacePlaceholder` edit the text in place while they search
it, and go on behind the text they inserted. The text may grow in every round;
what shrinks is the part of it that is still to be searched. -/

namespace PalCrosschat

open Bytes (ascii)

/-- The token that `ReplacePlaceholder` searches for. -/
def placeholder (key : Bytes) : Bytes := ascii "\x7b" ++ key ++ ascii "\x7d"

/-- One round of the loops over `text` and `pos`, if there is one: `find`,
`replace` and the step behind the inserted text. -/
def replaceRound (pattern replacement : Bytes) (state : Bytes × Nat) : Option (Bytes × Nat) :=
  (Bytes.find state.1 pattern state.2).map fun index =>
    (state.1.take index ++ replacement ++ state.1.drop (index + pattern.length),
      index + replacement.length)

inductive LoopEnds (pattern replacement : Bytes) : Bytes × Nat → Bytes → Prop
  | stop {state} (absent : replaceRound pattern replacement state = none) :
      LoopEnds pattern replacement state state.1
  | round {state next result} (found : replaceRound pattern replacement state = some next)
      (onward : LoopEnds pattern replacement next result) :
      LoopEnds pattern replacement state result

def unscanned (state : Bytes × Nat) : Nat := state.1.length - state.2

/-- What replacing a pattern in a text comes to. -/
structure ReplacesInOnePass (pattern replacement text result : Bytes) : Prop where
  terminates : WellFounded fun next state => replaceRound pattern replacement state = some next
  ends : ∀ other, LoopEnds pattern replacement (text, 0) other ↔ other = result
  onePass : ∀ other, OnePass pattern replacement text other ↔ other = result

/-! ## One round -/

section Round

variable {pattern replacement : Bytes} {state next : Bytes × Nat}

theorem find_of_replaceRound (found : replaceRound pattern replacement state = some next) :
    ∃ index, Bytes.find state.1 pattern state.2 = some index ∧
      next = (state.1.take index ++ replacement ++ state.1.drop (index + pattern.length),
        index + replacement.length) := by
  rw [replaceRound, Option.map_eq_some_iff] at found
  rcases found with ⟨index, place, rfl⟩
  exact ⟨index, place, rfl⟩

theorem length_front {index : Nat} (inText : index ≤ state.1.length) :
    (state.1.take index ++ replacement).length = index + replacement.length := by
  rw [List.length_append, List.length_take, Nat.min_eq_left inText]

theorem unscanned_replaceRound (nonempty : pattern ≠ [])
    (found : replaceRound pattern replacement state = some next) :
    unscanned next < unscanned state := by
  rcases find_of_replaceRound found with ⟨index, place, rfl⟩
  rcases find_eq_some place with ⟨behind, inText, isPrefix, -⟩
  have positive := List.length_pos_iff.mpr nonempty
  have fits := isPrefix.length_le
  rw [List.length_drop] at fits
  unfold unscanned
  rw [List.length_append, length_front inText, List.length_drop]
  omega

theorem replaceRound_wellFounded (replacement : Bytes) (nonempty : pattern ≠ []) :
    WellFounded fun next state => replaceRound pattern replacement state = some next :=
  Subrelation.wf (unscanned_replaceRound nonempty) (measure unscanned).wf

end Round

/-! ## Whole loops -/

section Loop

variable {pattern replacement : Bytes}

theorem LoopEnds.unique {state : Bytes × Nat} {result other : Bytes}
    (ends : LoopEnds pattern replacement state result)
    (otherEnds : LoopEnds pattern replacement state other) : result = other := by
  induction ends with
  | stop absent =>
      cases otherEnds with
      | stop => rfl
      | round found => rw [absent] at found; cases found
  | round found onward induction =>
      cases otherEnds with
      | stop absent => rw [absent] at found; cases found
      | round otherFound otherOnward =>
          rw [found, Option.some.injEq] at otherFound
          rw [← otherFound] at otherOnward
          exact induction otherOnward

theorem loopEnds_replaceAllLoop (nonempty : pattern ≠ []) (fuel : Nat) {text : Bytes}
    {position : Nat} (enough : unscanned (text, position) < fuel) :
    LoopEnds pattern replacement (text, position)
      (replaceAllLoop pattern replacement fuel text position) := by
  induction fuel generalizing text position with
  | zero => omega
  | succ fuel induction =>
      rw [replaceAllLoop]
      cases place : Bytes.find text pattern position with
      | none =>
          apply LoopEnds.stop
          rw [replaceRound, place, Option.map_none]
      | some index =>
          have found : replaceRound pattern replacement (text, position) =
              some (text.take index ++ replacement ++ text.drop (index + pattern.length),
                index + replacement.length) := by
            rw [replaceRound, place, Option.map_some]
          have shorter := unscanned_replaceRound nonempty found
          apply LoopEnds.round found
          apply induction
          omega

/-- A loop leaves the text in front of its position and passes once over the
text behind it. -/
theorem LoopEnds.onePass {state : Bytes × Nat} {result : Bytes}
    (ends : LoopEnds pattern replacement state result) (inside : state.2 ≤ state.1.length) :
    ∃ rest, result = state.1.take state.2 ++ rest ∧
      OnePass pattern replacement (state.1.drop state.2) rest := by
  induction ends with
  | @stop state absent =>
      rw [replaceRound, Option.map_eq_none_iff] at absent
      have nowhere := find_eq_none inside absent
      refine ⟨_, (List.take_append_drop _ _).symm, OnePass.done ?_⟩
      rintro ⟨front, rest, split⟩
      have lengths := congrArg List.length split
      simp only [List.length_append, List.length_drop] at lengths
      apply nowhere (state.2 + front.length) (Nat.le_add_right _ _) (by omega)
      rw [← List.drop_drop, ← split, List.append_assoc, List.drop_left]
      exact List.prefix_append pattern rest
  | @round state next result found onward induction =>
      rcases find_of_replaceRound found with ⟨index, place, rfl⟩
      rcases find_eq_some place with ⟨behind, inText, isPrefix, before⟩
      have front : (state.1.take index ++ replacement).length = index + replacement.length :=
        length_front inText
      rcases induction (by
        change index + replacement.length ≤ List.length _
        rw [List.length_append, front]
        omega) with ⟨rest, result, pass⟩
      dsimp only at result pass
      rw [← front, List.take_left] at result
      rw [← front, List.drop_left] at pass
      refine ⟨(state.1.drop state.2).take (index - state.2) ++ replacement ++ rest, ?_, ?_⟩
      · rw [result, ← List.append_assoc, ← List.append_assoc, ← List.take_add,
          Nat.add_sub_cancel' behind]
      · apply OnePass.of_first
        · rw [List.drop_drop, Nat.add_sub_cancel' behind]
          exact isPrefix
        · rw [List.length_drop]
          omega
        · intro earlier below
          rw [List.drop_drop]
          exact before _ (Nat.le_add_right _ _) (by omega)
        · rw [List.drop_drop, ← Nat.add_assoc, Nat.add_sub_cancel' behind]
          exact pass

theorem replacesInOnePass_of_loopEnds (nonempty : pattern ≠ []) {text result : Bytes}
    (ends : LoopEnds pattern replacement (text, 0) result) :
    ReplacesInOnePass pattern replacement text result where
  terminates := replaceRound_wellFounded replacement nonempty
  ends := by
    intro other
    constructor
    · exact fun otherEnds => otherEnds.unique ends
    · rintro rfl
      exact ends
  onePass := by
    rcases ends.onePass (Nat.zero_le _) with ⟨rest, rfl, pass⟩
    intro other
    constructor
    · exact fun otherPass => otherPass.unique pass
    · rintro rfl
      exact pass

end Loop

/-! ## The two functions -/

theorem loopEnds_replaceAll {pattern : Bytes} (nonempty : pattern ≠ [])
    (text replacement : Bytes) :
    LoopEnds pattern replacement (text, 0) (replaceAll text pattern replacement) := by
  rw [replaceAll, if_neg (by rwa [List.isEmpty_iff])]
  apply loopEnds_replaceAllLoop nonempty
  exact Nat.lt_succ_self _

theorem placeholder_ne_nil (key : Bytes) : placeholder key ≠ [] := by
  rw [placeholder, List.append_assoc]
  exact List.cons_ne_nil _ _

/-- The loop of `ReplacePlaceholder` lacks the test for an empty search string,
and its token is never empty. -/
theorem replacePlaceholder_eq_replaceAll (text key value : Bytes) :
    replacePlaceholder text key value = replaceAll text (placeholder key) value := by
  rw [replaceAll, if_neg (by rw [List.isEmpty_iff]; exact placeholder_ne_nil key)]
  rfl

theorem replaceLoops_onePass {pattern : Bytes} (nonempty : pattern ≠ [])
    (text replacement key : Bytes) :
    ReplacesInOnePass pattern replacement text (replaceAll text pattern replacement) ∧
      ReplacesInOnePass (placeholder key) replacement text
        (replacePlaceholder text key replacement) ∧
      replacePlaceholder text key replacement =
        replaceAll text (placeholder key) replacement := by
  have agree := replacePlaceholder_eq_replaceAll text key replacement
  refine ⟨?_, ?_, agree⟩
  · apply replacesInOnePass_of_loopEnds nonempty
    exact loopEnds_replaceAll nonempty text replacement
  · rw [agree]
    apply replacesInOnePass_of_loopEnds (placeholder_ne_nil key)
    exact loopEnds_replaceAll (placeholder_ne_nil key) text replacement

/-- A replacement that contains its search string is not searched again. -/
theorem replaceLoops_onePass_doubling :
    replaceAll (ascii "aba") (ascii "a") (ascii "aa") = ascii "aabaa" ∧
      ReplacesInOnePass (ascii "a") (ascii "aa") (ascii "aba")
        (replaceAll (ascii "aba") (ascii "a") (ascii "aa")) :=
  ⟨by decide +kernel, (replaceLoops_onePass (by decide) _ _ (ascii "mutetime")).1⟩

end PalCrosschat
