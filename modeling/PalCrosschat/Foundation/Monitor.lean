import Mathlib.Data.List.Basic

/-! # Journal monitors

A monitor reads a journal entry by entry and either moves to its next phase or
rejects. What a monitor accepts can be extended piece by piece, so a program's
journal is checked one call at a time. -/

namespace PalCrosschat

namespace Monitor

variable {Phase Event : Type} (next : Phase → Event → Option Phase)

/-- The phase after a list of events, `none` when one of them is rejected. -/
def follow : Phase → List Event → Option Phase
  | phase, [] => some phase
  | phase, event :: events => (next phase event).bind fun phase => follow phase events

variable {next}

@[simp] theorem follow_nil (phase : Phase) : follow next phase [] = some phase := rfl

@[simp] theorem follow_cons (phase : Phase) (event : Event) (events : List Event) :
    follow next phase (event :: events) =
      (next phase event).bind fun phase => follow next phase events := rfl

theorem follow_append (phase : Phase) (first second : List Event) :
    follow next phase (first ++ second) =
      (follow next phase first).bind fun phase => follow next phase second := by
  induction first generalizing phase with
  | nil => rfl
  | cons event events induction =>
      rw [List.cons_append, follow_cons, follow_cons, Option.bind_assoc]
      congr
      funext middle
      exact induction middle

theorem follow_trans {first middle last : Phase} {left right : List Event}
    (toMiddle : follow next first left = some middle)
    (toLast : follow next middle right = some last) :
    follow next first (left ++ right) = some last := by
  rw [follow_append, toMiddle]
  exact toLast

/-- A phase that every accepted event keeps is never left again, and an event it
rejects never happens in it. -/
theorem next_of_final {phase last : Phase}
    (final : ∀ event after, next phase event = some after → after = phase)
    {events : List Event} (accepted : follow next phase events = some last) :
    last = phase ∧ ∀ event ∈ events, next phase event = some phase := by
  induction events with
  | nil => exact ⟨(Option.some.inj accepted).symm, by simp⟩
  | cons event events induction =>
      rw [follow_cons] at accepted
      cases moved : next phase event with
      | none => simp [moved] at accepted
      | some after =>
          have same := final event after moved
          subst same
          rw [moved] at accepted
          rcases induction accepted with ⟨lastSame, rest⟩
          refine ⟨lastSame, fun other member => ?_⟩
          rcases List.mem_cons.mp member with rfl | inRest
          · exact moved
          · exact rest other inRest

end Monitor

end PalCrosschat
