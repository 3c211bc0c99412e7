import Mathlib.Logic.Function.Basic

/-! # Parties around a shared state

A number of parties, each with a state of its own, take turns in changing what
they share. What one of them relies on holds as long as its own steps keep it and
no step of another one breaks it. -/

namespace PalCrosschat

structure Interleaving (count : Nat) (Local Shared : Type) where
  parties : Fin count → Local
  shared : Shared

namespace Interleaving

variable {count : Nat} {Local Shared : Type}

def act (system : Interleaving count Local Shared) (party : Fin count)
    (outcome : Local × Shared) : Interleaving count Local Shared where
  parties := Function.update system.parties party outcome.1
  shared := outcome.2

def Each (Relies : Local → Shared → Prop) (system : Interleaving count Local Shared) : Prop :=
  ∀ party, Relies (system.parties party) system.shared

variable {system : Interleaving count Local Shared} {Relies : Local → Shared → Prop}

@[simp] theorem act_self (party : Fin count) (outcome : Local × Shared) :
    (system.act party outcome).parties party = outcome.1 := by
  simp [act]

@[simp] theorem act_other {party other : Fin count} (apart : other ≠ party)
    (outcome : Local × Shared) :
    (system.act party outcome).parties other = system.parties other := by
  simp [act, apart]

/-- The rule for a step of a party. -/
theorem Each.act (each : system.Each Relies) {party : Fin count} {outcome : Local × Shared}
    (own : Relies outcome.1 outcome.2)
    (stable : ∀ other, other ≠ party →
      Relies (system.parties other) system.shared → Relies (system.parties other) outcome.2) :
    (system.act party outcome).Each Relies := by
  intro other
  by_cases same : other = party
  · rw [same, act_self]
    exact own
  · rw [act_other same]
    exact stable other same (each other)

theorem Each.share (each : system.Each Relies) {shared : Shared}
    (stable : ∀ party, Relies (system.parties party) system.shared →
      Relies (system.parties party) shared) :
    Each Relies { system with shared } :=
  fun party => stable party (each party)

end Interleaving

end PalCrosschat
