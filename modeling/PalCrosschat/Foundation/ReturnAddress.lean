import Mathlib.Data.List.Basic
import Mathlib.Logic.Function.Basic

/-! # Return addresses

Requests wait for their answers, and a table keeps one return address for each key. A
request enters its address under its key and an answer takes the address out again.
Some requests do not depend on the table. As long as a key that is used twice is used
by such requests only, the table has the address of every other request. -/

namespace PalCrosschat

variable {Request Key Address : Type} {key : Request → Key} {address : Request → Address}
  {depends : Request → Prop} {waiting : List Request} {table after : Key → Option Address}

def Apart (key : Request → Key) (depends : Request → Prop) (first second : Request) : Prop :=
  key first = key second → ¬depends first ∧ ¬depends second

structure Addressed (key : Request → Key) (address : Request → Address)
    (depends : Request → Prop) (waiting : List Request) (table : Key → Option Address) :
    Prop where
  apart : waiting.Pairwise (Apart key depends)
  entered : ∀ request ∈ waiting, depends request →
    table (key request) = some (address request)

namespace Addressed

theorem nil : Addressed key address depends [] table where
  apart := .nil
  entered := nofun

theorem sublist (addressed : Addressed key address depends waiting table) {left : List Request}
    (lost : left.Sublist waiting) : Addressed key address depends left table where
  apart := addressed.apart.sublist lost
  entered request member := addressed.entered request (lost.subset member)

theorem request [DecidableEq Key] (addressed : Addressed key address depends waiting table)
    {asked : Request} (apart : ∀ other ∈ waiting, Apart key depends other asked) :
    Addressed key address depends (waiting ++ [asked])
      (Function.update table (key asked) (some (address asked))) := by
  constructor
  · rw [List.pairwise_append]
    refine ⟨addressed.apart, List.pairwise_singleton _ _, ?_⟩
    intro other member new newMember
    rw [List.mem_singleton.mp newMember]
    exact apart other member
  · intro other member depending
    rcases List.mem_append.mp member with old | new
    · have different : key other ≠ key asked := by
        intro same
        exact (apart other old same).1 depending
      rw [Function.update_of_ne different]
      exact addressed.entered other old depending
    · rw [List.mem_singleton.mp new]
      exact Function.update_self _ _ _

/-- The answer to the oldest request finds its address and changes no other one. -/
theorem answer {answered : Request}
    (addressed : Addressed key address depends (answered :: waiting) table)
    (others : ∀ other, other ≠ key answered → after other = table other) :
    (depends answered → table (key answered) = some (address answered)) ∧
      Addressed key address depends waiting after := by
  have apart := List.pairwise_cons.mp addressed.apart
  refine ⟨addressed.entered answered List.mem_cons_self, apart.2, ?_⟩
  intro other member depending
  have different : key other ≠ key answered := by
    intro same
    exact (apart.1 other member same.symm).2 depending
  rw [others _ different]
  exact addressed.entered other (List.mem_cons_of_mem _ member) depending

end Addressed

end PalCrosschat
