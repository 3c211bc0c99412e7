import Mathlib.Data.List.Basic
import Mathlib.Order.Defs.PartialOrder

/-! # Locks that end by themselves

Attempts come in one after the other, each under a key. An attempt is refused while a
lock of its key is in force; an attempt that is not refused may set a lock. A table that
forgets the locks that have ended, early or late, refuses the same attempts. -/

namespace PalCrosschat

namespace TimedLock

variable {Key Time : Type}

structure Attempt (Key Time : Type) where
  key : Key
  time : Time
  /-- The end of the lock that it sets when it is not refused. -/
  lock : Option Time

section Histories

variable [LT Time]

/-- A lock of the key is in force: some attempt of that key set one that has not ended
yet, and was not refused itself. The history is listed backwards. -/
def Locked : List (Attempt Key Time) → Key → Time → Prop
  | [], _, _ => False
  | attempt :: earlier, key, time =>
      Locked earlier key time ∨
        attempt.key = key ∧ ¬Locked earlier key attempt.time ∧
          ∃ ends ∈ attempt.lock, time < ends

/-! ### Two names for each attempt -/

variable {Name Other : Type}

def Attempt.rename (name : Key → Name) (attempt : Attempt Key Time) : Attempt Name Time where
  key := name attempt.key
  time := attempt.time
  lock := attempt.lock

def Holds (name : Key → Name) : List (Attempt Key Time) → Attempt Key Time → Time → Prop
  | [], _, _ => False
  | attempt :: earlier, holder, time =>
      Holds name earlier holder time ∨
        attempt = holder ∧
          ¬Locked (earlier.map (.rename name)) (name attempt.key) attempt.time ∧
          ∃ ends ∈ attempt.lock, time < ends

def Alike (left : Key → Name) (right : Key → Other) : List (Attempt Key Time) → Prop
  | [] => True
  | attempt :: earlier =>
      (∀ holder, Holds right earlier holder attempt.time →
        (left holder.key = left attempt.key ↔ right holder.key = right attempt.key)) ∧
      Alike left right earlier

variable {history : List (Attempt Key Time)} {name : Key → Name} {left : Key → Name}
  {right : Key → Other}

theorem Holds.mem {holder : Attempt Key Time} {time : Time}
    (holds : Holds name history holder time) : holder ∈ history := by
  induction history with
  | nil => cases holds
  | cons attempt earlier induction =>
      rcases holds with older | ⟨rfl, -⟩
      · exact List.mem_cons_of_mem _ (induction older)
      · exact List.mem_cons_self

theorem locked_iff_holds {other : Name} {time : Time} :
    Locked (history.map (.rename name)) other time ↔
      ∃ holder, Holds name history holder time ∧ name holder.key = other := by
  induction history with
  | nil => simp [Locked, Holds]
  | cons attempt earlier induction =>
      rw [List.map_cons, Locked, induction]
      constructor
      · intro locked
        rcases locked with ⟨holder, holds, same⟩ | ⟨rfl, free, inside⟩
        · exact ⟨holder, .inl holds, same⟩
        · exact ⟨attempt, .inr ⟨rfl, free, inside⟩, rfl⟩
      · intro given
        rcases given with ⟨holder, holds | ⟨rfl, free, inside⟩, rfl⟩
        · exact .inl ⟨holder, holds, rfl⟩
        · exact .inr ⟨rfl, free, inside⟩

theorem holds_rename (alike : Alike left right history) (holder : Attempt Key Time)
    (time : Time) : Holds left history holder time ↔ Holds right history holder time := by
  induction history generalizing holder time with
  | nil => exact Iff.rfl
  | cons attempt earlier induction =>
      rcases alike with ⟨told, alike⟩
      have refused : Locked (earlier.map (.rename left)) (left attempt.key) attempt.time ↔
          Locked (earlier.map (.rename right)) (right attempt.key) attempt.time := by
        rw [locked_iff_holds, locked_iff_holds]
        apply exists_congr
        intro other
        rw [induction alike]
        exact and_congr_right fun holds => told other holds
      rw [Holds, Holds, induction alike, refused]

theorem locked_rename {attempt : Attempt Key Time}
    (alike : Alike left right (attempt :: history)) :
    Locked (history.map (.rename left)) (left attempt.key) attempt.time ↔
      Locked (history.map (.rename right)) (right attempt.key) attempt.time := by
  rcases alike with ⟨told, alike⟩
  rw [locked_iff_holds, locked_iff_holds]
  apply exists_congr
  intro holder
  rw [holds_rename alike]
  exact and_congr_right fun holds => told holder holds

end Histories

/-! ## Tables -/

section Tables

variable {history : List (Attempt Key Time)} {attempt : Attempt Key Time}
  {table after : Key → Option Time} {now earlier later : Time}

def InForce [LT Time] (table : Key → Option Time) (key : Key) (time : Time) : Prop :=
  ∃ ends ∈ table key, time < ends

def Tracks [LT Time] [LE Time] (history : List (Attempt Key Time))
    (table : Key → Option Time) (now : Time) : Prop :=
  ∀ key time, now ≤ time → (InForce table key time ↔ Locked history key time)

/-- The table after an attempt is right about all locks from then on, provided that it
was right before. -/
def Settles [LT Time] [LE Time] (attempt : Attempt Key Time)
    (table after : Key → Option Time) (now : Time) : Prop :=
  ∀ key time, now ≤ time → (InForce after key time ↔
    InForce table key time ∨ attempt.key = key ∧ ¬InForce table key attempt.time ∧
      ∃ ends ∈ attempt.lock, time < ends)

variable [Preorder Time]

theorem InForce.mono {key : Key} (inForce : InForce table key later)
    (order : earlier ≤ later) : InForce table key earlier := by
  rcases inForce with ⟨ends, held, inside⟩
  exact ⟨ends, held, lt_of_le_of_lt order inside⟩

theorem Tracks.initial (now : Time) : Tracks [] (fun _ : Key => none) now := by
  intro key time reached
  simp [InForce, Locked]

theorem Tracks.mono (tracks : Tracks history table earlier) (order : earlier ≤ later) :
    Tracks history table later :=
  fun key time reached => tracks key time (le_trans order reached)

theorem Tracks.step (tracks : Tracks history table earlier)
    (settles : Settles attempt table after later) (checked : earlier ≤ attempt.time)
    (order : earlier ≤ later) : Tracks (attempt :: history) after later := by
  intro key time reached
  rw [settles key time reached, Locked, tracks key time (le_trans order reached),
    tracks key attempt.time checked]

/-- What may happen to one key of the table at an attempt: everything that is not over
by now stays, and a lock is set in the place of one that was over when it was checked. -/
theorem settles_of_key (others : ∀ other, other ≠ attempt.key → after other = table other)
    (kept : InForce table attempt.key attempt.time →
      ∀ time, now ≤ time → (InForce after attempt.key time ↔ InForce table attempt.key time))
    (set : ¬InForce table attempt.key attempt.time →
      ∀ time, now ≤ time →
        (InForce after attempt.key time ↔ ∃ ends ∈ attempt.lock, time < ends))
    (order : attempt.time ≤ now) : Settles attempt table after now := by
  intro key time reached
  by_cases same : attempt.key = key
  · subst same
    by_cases held : InForce table attempt.key attempt.time
    · rw [kept held time reached]
      simp [held]
    · have past : ¬InForce table attempt.key time :=
        fun still => held (still.mono (le_trans order reached))
      rw [set held time reached]
      simp [held, past]
  · have unchanged : InForce after key time ↔ InForce table key time := by
      unfold InForce
      rw [others key (Ne.symm same)]
    rw [unchanged]
    simp [same]

end Tables

end TimedLock

end PalCrosschat
