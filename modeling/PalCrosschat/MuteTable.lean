import Mathlib.Data.Int.Order.Basic
import PalCrosschat.Foundation.TimedLock
import PalCrosschat.MuteArithmetic

/-! # The mute table

Every operation on the table reads and writes the entry of one key: it drops an entry
that is over, and sets another one. -/

namespace PalCrosschat

namespace WordFilter

def setMute (filter : WordFilter) (playerKey : Bytes) (entry : Option MuteEntry) :
    WordFilter :=
  { filter with
    mutes := fun key => if key = playerKey then entry else filter.mutes key }

section SetMute

variable {filter : WordFilter} {playerKey other : Bytes} {entry second : Option MuteEntry}
  {now : Nanoseconds}

@[simp] theorem setMute_active : (filter.setMute playerKey entry).active = filter.active := rfl

@[simp] theorem setMute_muteLogWebhook :
    (filter.setMute playerKey entry).muteLogWebhook = filter.muteLogWebhook := rfl

@[simp] theorem setMute_self : (filter.setMute playerKey entry).mutes playerKey = entry :=
  if_pos rfl

theorem setMute_other (different : other ≠ playerKey) :
    (filter.setMute playerKey entry).mutes other = filter.mutes other :=
  if_neg different

theorem setMute_mutes : filter.setMute playerKey (filter.mutes playerKey) = filter := by
  have same : (fun key => if key = playerKey then filter.mutes playerKey else filter.mutes key) =
      filter.mutes := by
    funext key
    split
    · rename_i equal
      rw [equal]
    · rfl
  rw [setMute, same]

@[simp] theorem setMute_setMute :
    (filter.setMute playerKey entry).setMute playerKey second =
      filter.setMute playerKey second := by
  unfold setMute
  congr 1
  funext key
  by_cases same : key = playerKey <;> simp [same]

theorem setMute_comm (different : other ≠ playerKey) :
    (filter.setMute playerKey entry).setMute other second =
      (filter.setMute other second).setMute playerKey entry := by
  unfold setMute
  congr 1
  funext key
  by_cases isOther : key = other
  · have notKey : key ≠ playerKey := fun equal => different (isOther.symm.trans equal)
    simp [isOther, different]
  · simp [isOther]

theorem activeMute_setMute (hasKey : playerKey ≠ []) :
    (filter.setMute playerKey entry).activeMute playerKey now =
      entry.filter fun entry => now < entry.mutedUntil := by
  rw [activeMute, if_neg (by simp [hasKey]), setMute_self]

theorem activeMute_setMute_other (different : other ≠ playerKey) :
    (filter.setMute playerKey entry).activeMute other now = filter.activeMute other now := by
  rw [activeMute, activeMute, setMute_other different]

end SetMute

/-! ## The operations -/

section Operations

variable {filter : WordFilter} {playerKey : Bytes} {now : Nanoseconds}

theorem findActiveMuteLocked_eq (hasKey : playerKey ≠ []) :
    filter.findActiveMuteLocked playerKey now =
      (filter.activeMute playerKey now,
        filter.setMute playerKey (filter.activeMute playerKey now)) := by
  apply Prod.ext
  · exact findActiveMuteLocked_fst filter playerKey now
  · unfold findActiveMuteLocked activeMute
    rw [if_neg (by simp [hasKey]), if_neg (by simp [hasKey])]
    cases found : filter.mutes playerKey with
    | none =>
        have same : filter.setMute playerKey none = filter := by rw [← found, setMute_mutes]
        exact same.symm
    | some entry =>
        by_cases past : entry.mutedUntil ≤ now
        · have inactive : ¬now < entry.mutedUntil := Int.not_lt.mpr past
          simp [past, inactive, Option.filter, setMute]
        · have same : filter.setMute playerKey (some entry) = filter := by
            rw [← found, setMute_mutes]
          have inForce : now < entry.mutedUntil := Int.not_le.mp past
          simp [past, inForce, Option.filter, same]

theorem isMuted_eq (hasKey : playerKey ≠ []) :
    filter.isMuted playerKey now =
      ((filter.activeMute playerKey now).isSome,
        filter.setMute playerKey (filter.activeMute playerKey now)) := by
  rw [isMuted, findActiveMuteLocked_eq hasKey]

theorem muteRemainingSeconds_snd (hasKey : playerKey ≠ []) :
    (filter.muteRemainingSeconds playerKey now).2 =
      filter.setMute playerKey (filter.activeMute playerKey now) := by
  rw [muteRemainingSeconds, findActiveMuteLocked_eq hasKey]

theorem mute_eq (hasKey : playerKey ≠ []) {minutes : Int} (positive : 0 < minutes)
    (reason : Bytes) :
    filter.mute playerKey reason minutes now =
      filter.setMute playerKey
        (some { mutedUntil := muteDeadline minutes now, reason, lastNotify := now }) := by
  rw [mute, if_neg (by simp [hasKey, positive])]
  rfl

def bannerDue (minInterval now : Nanoseconds) (entry : MuteEntry) : Bool :=
  decide ¬(entry.lastNotify ≠ 0 ∧ now - entry.lastNotify < minInterval)

theorem tryConsumeMuteNotify_eq (hasKey : playerKey ≠ []) (minInterval : Nanoseconds) :
    filter.tryConsumeMuteNotify playerKey minInterval now =
      ((filter.activeMute playerKey now).any (bannerDue minInterval now),
        filter.setMute playerKey ((filter.activeMute playerKey now).map fun entry =>
          if bannerDue minInterval now entry then { entry with lastNotify := now }
          else entry)) := by
  unfold tryConsumeMuteNotify
  rw [findActiveMuteLocked_eq hasKey]
  cases filter.activeMute playerKey now with
  | none => rfl
  | some entry =>
      by_cases throttled : entry.lastNotify ≠ 0 ∧ now - entry.lastNotify < minInterval
      · have late : bannerDue minInterval now entry = false :=
          decide_eq_false (not_not.mpr throttled)
        simp [throttled, late]
      · have due : bannerDue minInterval now entry = true := decide_eq_true throttled
        simp only [if_neg throttled, Option.any_some, due, Option.map_some, if_true]
        congr 1
        exact setMute_setMute

end Operations

/-! ## Other keys -/

section OtherKeys

variable {filter : WordFilter} {playerKey other : Bytes} {entry : Option MuteEntry}
  {now : Nanoseconds}

theorem findActiveMuteLocked_setMute_other (hasKey : other ≠ [])
    (different : other ≠ playerKey) :
    (filter.setMute playerKey entry).findActiveMuteLocked other now =
      ((filter.findActiveMuteLocked other now).1,
        (filter.findActiveMuteLocked other now).2.setMute playerKey entry) := by
  rw [findActiveMuteLocked_eq hasKey, findActiveMuteLocked_eq hasKey,
    activeMute_setMute_other different, setMute_comm different]

theorem isMuted_setMute_other (hasKey : other ≠ []) (different : other ≠ playerKey) :
    (filter.setMute playerKey entry).isMuted other now =
      ((filter.isMuted other now).1, (filter.isMuted other now).2.setMute playerKey entry) := by
  rw [isMuted, findActiveMuteLocked_setMute_other hasKey different]
  rfl

theorem muteRemainingSeconds_setMute_other (hasKey : other ≠ [])
    (different : other ≠ playerKey) :
    (filter.setMute playerKey entry).muteRemainingSeconds other now =
      ((filter.muteRemainingSeconds other now).1,
        (filter.muteRemainingSeconds other now).2.setMute playerKey entry) := by
  rw [muteRemainingSeconds, findActiveMuteLocked_setMute_other hasKey different]
  rfl

theorem tryConsumeMuteNotify_setMute_other (hasKey : other ≠ [])
    (different : other ≠ playerKey) (minInterval : Nanoseconds) :
    (filter.setMute playerKey entry).tryConsumeMuteNotify other minInterval now =
      ((filter.tryConsumeMuteNotify other minInterval now).1,
        (filter.tryConsumeMuteNotify other minInterval now).2.setMute playerKey entry) := by
  rw [tryConsumeMuteNotify_eq hasKey, tryConsumeMuteNotify_eq hasKey,
    activeMute_setMute_other different, setMute_comm different]

theorem mute_setMute_other (hasKey : other ≠ []) (different : other ≠ playerKey)
    {minutes : Int} (positive : 0 < minutes) (reason : Bytes) :
    (filter.setMute playerKey entry).mute other reason minutes now =
      (filter.mute other reason minutes now).setMute playerKey entry := by
  rw [mute_eq hasKey positive, mute_eq hasKey positive, setMute_comm different]

end OtherKeys

/-! ## The deadlines -/

def deadlines (filter : WordFilter) (playerKey : Bytes) : Option Nanoseconds :=
  (filter.mutes playerKey).map MuteEntry.mutedUntil

section Deadlines

variable {filter : WordFilter} {playerKey : Bytes} {now : Nanoseconds}

theorem activeMute_isSome_iff (hasKey : playerKey ≠ []) :
    (filter.activeMute playerKey now).isSome = true ↔
      TimedLock.InForce filter.deadlines playerKey now := by
  unfold activeMute TimedLock.InForce deadlines
  rw [if_neg (by simp [hasKey])]
  cases filter.mutes playerKey with
  | none => simp
  | some entry => simp [Option.filter]

theorem muteRemainingSeconds_congr {other : WordFilter} (hasKey : playerKey ≠ [])
    (same : filter.deadlines playerKey = other.deadlines playerKey) :
    (filter.muteRemainingSeconds playerKey now).1 =
      (other.muteRemainingSeconds playerKey now).1 := by
  unfold deadlines at same
  rw [muteRemainingSeconds, muteRemainingSeconds, findActiveMuteLocked_eq hasKey,
    findActiveMuteLocked_eq hasKey, activeMute, activeMute, if_neg (by simp [hasKey]),
    if_neg (by simp [hasKey])]
  cases left : filter.mutes playerKey with
  | none =>
      rw [left] at same
      rw [Option.map_eq_none_iff.mp same.symm]
  | some entry =>
      rw [left] at same
      rcases Option.map_eq_some_iff.mp same.symm with ⟨second, right, equal⟩
      rw [right]
      by_cases inForce : now < entry.mutedUntil <;> simp [Option.filter, inForce, equal]

theorem inForce_setMute {entry : Option MuteEntry} :
    TimedLock.InForce (filter.setMute playerKey entry).deadlines playerKey now ↔
      ∃ held ∈ entry, now < held.mutedUntil := by
  unfold TimedLock.InForce deadlines
  rw [setMute_self]
  simp

end Deadlines

end WordFilter

end PalCrosschat
