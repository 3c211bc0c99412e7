import Mathlib.Algebra.Ring.Int.Defs
import PalCrosschat.HookBranches

/-! # The arithmetic of mutes

The minutes of a pattern become seconds in an `int` for the banner, and 64-bit
nanoseconds for the deadline. `LoadConfig` bounds them below only. -/

namespace PalCrosschat

open Bytes (ascii)

/-! ## Machine integers -/

theorem int64_eq_iff (value : Int) :
    int64 value = value ↔ -2 ^ 63 ≤ value ∧ value < 2 ^ 63 := by
  unfold int64
  rw [Int.bmod_def]
  constructor
  · intro same
    split at same <;> omega
  · intro inside
    split <;> omega

theorem int32_eq_iff (value : Int) :
    int32 value = value ↔ -2 ^ 31 ≤ value ∧ value < 2 ^ 31 := by
  unfold int32
  rw [Int.bmod_def]
  constructor
  · intro same
    split at same <;> omega
  · intro inside
    split <;> omega

theorem int64_lt (value : Int) : int64 value < 2 ^ 63 := by
  unfold int64
  rw [Int.bmod_def]
  split <;> omega

theorem int64_add_int64 (left right : Int) : int64 (left + int64 right) = int64 (left + right) := by
  unfold int64
  exact Int.add_bmod_bmod

/-! ## The deadline -/

def minutesLong (minutes : Int) : Int := minutes * 60 * nanosecondsPerSecond

theorem minutesLong_eq (minutes : Int) : minutesLong minutes = minutes * 60000000000 := by
  rw [minutesLong, nanosecondsPerSecond, Int.mul_assoc]
  rfl

/-- The deadline that `WordFilter::Mute` stores. -/
def muteDeadline (minutes now : Int) : Int :=
  int64 (now + int64 (minutesLong minutes))

theorem muteDeadline_eq {minutes now : Int} (positive : 0 < minutes)
    (clock : 0 ≤ now) (fits : now + minutesLong minutes < 2 ^ 63) :
    muteDeadline minutes now = now + minutesLong minutes := by
  unfold muteDeadline
  rw [minutesLong_eq] at fits
  rw [int64_add_int64, int64_eq_iff, minutesLong_eq]
  constructor
  · have later : 0 < minutes * 60000000000 := by omega
    omega
  · exact fits

theorem muteDeadline_lt (minutes now : Int) : muteDeadline minutes now < 2 ^ 63 :=
  int64_lt _

namespace WordFilter

variable {filter : WordFilter} {playerKey reason : Bytes} {minutes now : Int}

theorem mute_mutes (hasKey : playerKey ≠ []) (positive : 0 < minutes) (key : Bytes) :
    (filter.mute playerKey reason minutes now).mutes key =
      if key = playerKey then
        some { mutedUntil := muteDeadline minutes now, reason, lastNotify := now }
      else filter.mutes key := by
  unfold mute
  rw [if_neg (by simp [hasKey, positive])]
  rfl

theorem isMuted_mute (hasKey : playerKey ≠ []) (positive : 0 < minutes) (later : Int) :
    ((filter.mute playerKey reason minutes now).isMuted playerKey later).1 = true ↔
      later < muteDeadline minutes now := by
  rw [isMuted_fst, activeMute, if_neg (by simp [hasKey]), mute_mutes hasKey positive, if_pos rfl]
  simp [Option.filter]

end WordFilter

theorem Sender.muteKey_ne_nil (capture : ChatCapture) (context : HookContext) :
    (capture.readSender context).muteKey ≠ [] := by
  have named : (capture.readSender context).name ≠ [] := by
    simp only [ChatCapture.readSender]
    split
    · decide
    · rename_i nonempty
      simpa using nonempty
  unfold Sender.muteKey
  split
  · exact named
  · rename_i nonempty
    simpa using nonempty

/-! ## The banner -/

/-- A whole number of minutes, as long as its seconds are an `int`. -/
theorem formatDuration_minutes {minutes : Int} (positive : 0 < minutes)
    (fits : minutes * 60 < 2 ^ 31) :
    formatDuration (int32 (minutes * 60)) = Bytes.decimal minutes ++ ascii "m" := by
  have exactSeconds : int32 (minutes * 60) = minutes * 60 := by
    rw [int32_eq_iff]
    omega
  have whole : minutes * 60 / 60 = minutes := by omega
  have noSeconds : minutes * 60 % 60 = 0 := by omega
  have clamped : (if minutes * 60 < 0 then 0 else minutes * 60) = minutes * 60 :=
    if_neg (by omega)
  simp only [formatDuration, exactSeconds, clamped, whole, noSeconds]
  rw [if_neg (by omega), if_pos trivial]

/-! ## Exact minutes -/

/-- A mute of so many minutes that starts at this time is as long as it is announced to
be, and no number on the way overflows. -/
structure ExactMute (filter : WordFilter) (playerKey reason : Bytes) (minutes now : Int)
    : Prop where
  muted : ∀ later, now ≤ later → later < now + minutesLong minutes →
    ((filter.mute playerKey reason minutes now).isMuted playerKey later).1 = true
  announced : formatDuration (int32 (minutes * 60)) = Bytes.decimal minutes ++ ascii "m"
  seconds : int32 (minutes * 60) = minutes * 60
  distance : int64 (minutesLong minutes) = minutesLong minutes
  deadline : muteDeadline minutes now = now + minutesLong minutes

/-- The player is muted all the time exactly when the clock reaches the end of it. -/
theorem muted_throughout_iff (filter : WordFilter) {playerKey : Bytes} (reason : Bytes)
    {minutes now : Int} (hasKey : playerKey ≠ []) (positive : 0 < minutes) (clock : 0 ≤ now) :
    (∀ later, now ≤ later → later < now + minutesLong minutes →
      ((filter.mute playerKey reason minutes now).isMuted playerKey later).1 = true) ↔
      now + minutesLong minutes < 2 ^ 63 := by
  have long : 0 < minutesLong minutes := by
    rw [minutesLong_eq]
    omega
  simp only [WordFilter.isMuted_mute hasKey positive]
  constructor
  · intro muted
    by_contra past
    have early := muteDeadline_lt minutes now
    have started := muted (max now (muteDeadline minutes now)) (Int.le_max_left _ _) (by omega)
    omega
  · intro fits later started inside
    rw [muteDeadline_eq positive clock fits]
    exact inside

/-- Mutes are exact for the minutes whose seconds fit an `int`, up to the end of the
clock. -/
theorem exactMute_iff (filter : WordFilter) (capture : ChatCapture) (context : HookContext)
    (reason : Bytes) (minutes now : Int) (positive : 1 ≤ minutes) (clock : 0 ≤ now) :
    ExactMute filter (capture.readSender context).muteKey reason minutes now ↔
      minutes ≤ 35791394 ∧ now + minutes * 60 * 1000000000 < 2 ^ 63 := by
  have muted := muted_throughout_iff filter reason
    (Sender.muteKey_ne_nil capture context) positive clock
  have sameLength : minutes * 60 * 1000000000 = minutesLong minutes := rfl
  rw [sameLength]
  constructor
  · intro exactMute
    have seconds := (int32_eq_iff _).mp exactMute.seconds
    exact ⟨by omega, muted.mp exactMute.muted⟩
  · intro given
    rcases given with ⟨short, fits⟩
    have long : 0 < minutesLong minutes := by
      rw [minutesLong_eq]
      omega
    exact
      { muted := muted.mpr fits
        announced := formatDuration_minutes positive (by omega)
        seconds := (int32_eq_iff _).mpr ⟨by omega, by omega⟩
        distance := (int64_eq_iff _).mpr ⟨by omega, by omega⟩
        deadline := muteDeadline_eq positive clock fits }

def plainFilter : WordFilter := .ofConfig (fun _ => none) plainConfig

theorem exactMute_hour :
    ExactMute plainFilter (({} : ChatCapture).readSender (typed (ascii "spam"))).muteKey [] 60
      3600000000000 ↔ (60 : Int) ≤ 35791394 ∧ (3600000000000 : Int) + 60 * 60 * 1000000000 < 2 ^ 63 :=
  exactMute_iff plainFilter {} (typed (ascii "spam")) [] 60 3600000000000 (by decide) (by decide)

/-- A mute for ever that is none, from the first hour of the clock on. -/
theorem endless_mute_lost :
    let key := (({} : ChatCapture).readSender (typed (ascii "spam"))).muteKey
    let now : Int := 3600000000000
    let minutes : Int := 153722868
    ((plainFilter.mute key [] minutes now).isMuted key now).1 = false ∧
      formatDuration (int32 (minutes * 60)) = ascii "10557291m 28s" ∧
      ¬ExactMute plainFilter key [] minutes now := by
  intro key now minutes
  have lost : ((plainFilter.mute key [] minutes now).isMuted key now).1 = false := by
    decide +kernel
  refine ⟨lost, by decide +kernel, fun exactMute => ?_⟩
  have muted := exactMute.muted now (Int.le_refl _) (by decide)
  rw [lost] at muted
  cases muted

end PalCrosschat
