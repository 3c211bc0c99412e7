import Mathlib.Algebra.Order.Ring.Int
import Mathlib.Algebra.Order.Monoid.Unbundled.Pow
import Mathlib.Tactic.Positivity

/-! # Capped exponential backoff

The delays of a row of failures double from one up to a cap. A counter in a machine
word follows this schedule exactly when no failure after the first begins again at
one, and the row ends before the doubling leaves the word. -/

namespace PalCrosschat

namespace Backoff

def delay (cap : Int) (attempt : Nat) : Int := min (2 ^ attempt) cap

/-- The doubled counter, in a signed word whose values are below `2 ^ bits`. -/
def next (bits : Nat) (cap seconds : Int) : Int :=
  min ((seconds * 2).bmod (2 ^ (bits + 1))) cap

/-- The delays of a row of failures. A failure may set the counter back to one first. -/
def delays (bits : Nat) (cap : Int) : Int → List Bool → List Int
  | _, [] => []
  | seconds, again :: rest =>
      let seconds := if again then 1 else seconds
      seconds :: delays bits cap (next bits cap seconds) rest

section

variable {bits : Nat} {cap : Int} {attempt : Nat}

theorem delay_zero (positive : 1 ≤ cap) : delay cap 0 = 1 := by
  simp [delay, positive]

theorem delay_pos (positive : 1 ≤ cap) (attempt : Nat) : 0 < delay cap attempt := by
  apply lt_min
  · positivity
  · omega

theorem delay_one (attempt : Nat) : delay 1 attempt = 1 := by
  have above := delay_pos (le_refl 1) attempt
  have below : delay 1 attempt ≤ 1 := min_le_right _ _
  omega

theorem two_le_delay (large : 2 ≤ cap) (later : 1 ≤ attempt) : 2 ≤ delay cap attempt := by
  apply le_min _ large
  calc (2 : Int) = 2 ^ 1 := (pow_one 2).symm
    _ ≤ 2 ^ attempt := pow_le_pow_right₀ (by decide) later

theorem cast_word (bits : Nat) : ((2 ^ (bits + 1) : Nat) : Int) = 2 ^ bits * 2 := by
  push_cast
  exact pow_succ 2 bits

theorem next_delay (positive : 1 ≤ cap) (fits : delay cap attempt * 2 < 2 ^ bits) :
    next bits cap (delay cap attempt) = delay cap (attempt + 1) := by
  have above := delay_pos positive attempt
  have kept : (delay cap attempt * 2).bmod (2 ^ (bits + 1)) = delay cap attempt * 2 := by
    apply Int.bmod_eq_of_le
    · rw [cast_word]
      omega
    · rw [cast_word]
      omega
  rw [next, kept, delay, delay, pow_succ]
  omega

theorem next_neg (wide : 2 ^ bits ≤ delay cap attempt * 2)
    (first : delay cap attempt < 2 ^ bits) : next bits cap (delay cap attempt) < 0 := by
  have wrapped : (delay cap attempt * 2).bmod (2 ^ (bits + 1)) < 0 := by
    rw [Int.bmod_neg_iff]
    · right
      rw [cast_word]
      omega
    · rw [cast_word]
      omega
    · rw [cast_word]
      omega
  exact lt_of_le_of_lt (min_le_left _ _) wrapped

theorem delays_cap_one (wide : 2 ≤ bits) (row : List Bool) :
    ∀ attempt, delays bits 1 1 row = (List.range' attempt row.length).map (delay 1) := by
  have stays : next bits 1 1 = 1 := by
    have fits : delay 1 0 * 2 < 2 ^ bits := by
      calc delay 1 0 * 2 < 2 ^ 2 := by decide
        _ ≤ 2 ^ bits := pow_le_pow_right₀ (by decide) wide
    simpa [delay_one] using next_delay (le_refl 1) fits
  induction row with
  | nil => exact fun _ => rfl
  | cons again rest induction =>
      intro attempt
      have first : (if again then (1 : Int) else 1) = 1 := ite_self 1
      rw [delays, first, stays, induction (attempt + 1), List.length_cons, List.range'_succ,
        List.map_cons, delay_one]

theorem delays_ne_of_overflow (large : 2 ≤ cap) {seconds : Int} (negative : seconds < 0)
    (later : 1 ≤ attempt) (row : List Bool) :
    delays bits cap seconds row = (List.range' attempt row.length).map (delay cap) ↔
      row = [] := by
  cases row with
  | nil => simp [delays]
  | cons again rest =>
      have long := two_le_delay large later
      have other : (if again then 1 else seconds) ≠ delay cap attempt := by
        cases again with
        | true =>
            simp only [if_true]
            omega
        | false =>
            simp only [Bool.false_eq_true, if_false]
            omega
      simp [delays, List.range'_succ, other]

/-- From the second failure of a row on. -/
theorem delays_eq_iff_later (large : 2 ≤ cap) (row : List Bool) (later : 1 ≤ attempt)
    (fits : cap * 2 < 2 ^ bits ∨ attempt < bits) :
    delays bits cap (delay cap attempt) row =
        (List.range' attempt row.length).map (delay cap) ↔
      (∀ again ∈ row, again = false) ∧
        (cap * 2 < 2 ^ bits ∨ attempt + row.length ≤ bits) := by
  induction row generalizing attempt with
  | nil => simpa [delays] using fits.imp_right le_of_lt
  | cons again rest induction =>
      have long := two_le_delay large later
      cases again with
      | true =>
          have other : 1 ≠ delay cap attempt := by omega
          simp [delays, List.range'_succ, other]
      | false =>
          have power : (2 : Int) ^ (attempt + 1) = 2 ^ attempt * 2 := pow_succ 2 attempt
          by_cases small : delay cap attempt * 2 < 2 ^ bits
          · have next : cap * 2 < 2 ^ bits ∨ attempt + 1 < bits := by
              apply (le_or_gt cap (2 ^ attempt)).imp
              · intro capped
                rwa [delay, min_eq_right capped] at small
              · intro doubled
                rw [delay, min_eq_left doubled.le, ← power] at small
                exact (pow_lt_pow_iff_right₀ (by decide)).mp small
            simp only [delays, Bool.false_eq_true, if_false, List.length_cons,
              List.range'_succ, List.map_cons, List.cons.injEq, true_and,
              next_delay (by omega : 1 ≤ cap) small, induction (Nat.le_succ_of_le later) next,
              List.forall_mem_cons]
            rw [Nat.succ_add_eq_add_succ]
          · have capBound : delay cap attempt ≤ cap := min_le_right _ _
            have powerBound : delay cap attempt ≤ 2 ^ attempt := min_le_left _ _
            have wide : 2 ^ bits ≤ delay cap attempt * 2 := not_lt.mp small
            have tooLarge : ¬cap * 2 < 2 ^ bits := by omega
            have inside := fits.resolve_left tooLarge
            have below : delay cap attempt < 2 ^ bits :=
              lt_of_le_of_lt powerBound (pow_lt_pow_right₀ (by decide) inside)
            have last : bits ≤ attempt + 1 := by
              apply (pow_le_pow_iff_right₀ (by decide : (1 : Int) < 2)).mp
              omega
            simp only [delays, Bool.false_eq_true, if_false, List.length_cons,
              List.range'_succ, List.map_cons, List.cons.injEq, true_and,
              delays_ne_of_overflow large (next_neg wide below) (Nat.le_succ_of_le later)]
            constructor
            · rintro rfl
              exact ⟨by simp, .inr inside⟩
            · intro kept
              have short := kept.2.resolve_left tooLarge
              apply List.eq_nil_of_length_eq_zero
              omega

/-- A row of failures follows the schedule exactly when the cap is one, or no failure after
the first begins again and the row ends before the word does. -/
theorem delays_eq_iff (positive : 1 ≤ cap) (wide : 2 ≤ bits) (first : Bool) (rest : List Bool) :
    delays bits cap 1 (first :: rest) =
        (List.range (rest.length + 1)).map (delay cap) ↔
      cap = 1 ∨ (∀ again ∈ rest, again = false) ∧
        (cap * 2 < 2 ^ bits ∨ rest.length < bits) := by
  have start : (if first then 1 else 1) = delay cap 0 := by
    rw [ite_self, delay_zero positive]
  by_cases single : cap = 1
  · subst single
    rw [List.range_eq_range', delays_cap_one wide (first :: rest) 0]
    exact ⟨fun _ => .inl rfl, fun _ => rfl⟩
  · have large : 2 ≤ cap := by omega
    have doubles : next bits cap (delay cap 0) = delay cap 1 := by
      apply next_delay positive
      calc delay cap 0 * 2 < 2 ^ 2 := by
            rw [delay_zero positive]
            decide
        _ ≤ 2 ^ bits := pow_le_pow_right₀ (by decide) wide
    have later := delays_eq_iff_later large rest (le_refl 1) (.inr wide)
    simp only [delays, start, doubles, List.range_eq_range', List.range'_succ, List.map_cons,
      List.cons.injEq, true_and, later, single, false_or]
    rw [Nat.add_comm 1, Nat.succ_le_iff]

end

end Backoff

end PalCrosschat
