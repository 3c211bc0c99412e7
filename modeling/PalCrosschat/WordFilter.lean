import PalCrosschat.Config

/-! # The chat filter

`WordFilter.cpp`: regular expressions that block a line, and the table of
timed mutes that a hit fills. -/

namespace PalCrosschat

/-- A `steady_clock` reading or distance, in nanoseconds. -/
abbrev Nanoseconds := Int

def int64 (value : Int) : Int := value.bmod (2 ^ 64)

def int32 (value : Int) : Int := value.bmod (2 ^ 32)

def nanosecondsPerSecond : Nanoseconds := 1000000000

/-- A compiled pattern. `re` is `std::regex_search` on a text; `none` stands
for the exception it may throw. -/
structure CompiledPattern where
  re : Bytes → Option Bool
  source : Bytes
  muteMinutes : Int
  muteMessage : Bytes

structure FilterHit where
  patternSource : Bytes
  muteMinutes : Int
  muteMessage : Bytes
deriving DecidableEq, Repr

structure MuteEntry where
  mutedUntil : Nanoseconds
  reason : Bytes
  lastNotify : Nanoseconds
deriving DecidableEq, Repr

structure WordFilter where
  muteLogWebhook : Bytes
  initialMuteNotification : Bytes
  activeMuteNotification : Bytes
  patterns : List CompiledPattern
  /-- `m_mutes`, keyed by the mute key of a player. -/
  mutes : Bytes → Option MuteEntry

namespace WordFilter

/-- The constructor. `compile` is `std::regex` with the ECMAScript and icase
flags; a pattern it rejects is skipped. -/
def ofConfig (compile : Bytes → Option (Bytes → Option Bool))
    (config : Config) : WordFilter where
  muteLogWebhook := config.muteLogWebhook
  initialMuteNotification := config.initialMuteNotification
  activeMuteNotification := config.activeMuteNotification
  patterns := config.filterPatterns.filterMap fun entry =>
    if entry.pattern.isEmpty then none
    else (compile entry.pattern).map fun re =>
      { re
        source := entry.pattern
        muteMinutes := if entry.muteMinutes < 0 then 0 else entry.muteMinutes
        muteMessage := entry.muteMessage }
  mutes := fun _ => none

def active (filter : WordFilter) : Bool := !filter.patterns.isEmpty

def activeMute (filter : WordFilter) (playerKey : Bytes) (now : Nanoseconds) :
    Option MuteEntry :=
  if playerKey.isEmpty then none
  else (filter.mutes playerKey).filter fun entry => now < entry.mutedUntil

/-- `FindActiveMuteLocked`: an expired entry is erased on the way. -/
def findActiveMuteLocked (filter : WordFilter) (playerKey : Bytes)
    (now : Nanoseconds) : Option MuteEntry × WordFilter :=
  if playerKey.isEmpty then (none, filter)
  else
    match filter.mutes playerKey with
    | none => (none, filter)
    | some entry =>
        if entry.mutedUntil ≤ now then
          (none, { filter with
            mutes := fun key => if key = playerKey then none else filter.mutes key })
        else (some entry, filter)

def isMuted (filter : WordFilter) (playerKey : Bytes) (now : Nanoseconds) :
    Bool × WordFilter :=
  let (entry, filter) := filter.findActiveMuteLocked playerKey now
  (entry.isSome, filter)

def muteRemainingSeconds (filter : WordFilter) (playerKey : Bytes)
    (now : Nanoseconds) : Option Int × WordFilter :=
  let (entry, filter) := filter.findActiveMuteLocked playerKey now
  (entry.map fun entry =>
    let seconds := (entry.mutedUntil - now).tdiv nanosecondsPerSecond
    int32 (if 0 < seconds then seconds else 0), filter)

/-- The first pattern that matches. A search that throws counts as a miss. -/
def findMatch (filter : WordFilter) (message : Bytes) : Option FilterHit :=
  if message.isEmpty || filter.patterns.isEmpty then none
  else
    (filter.patterns.find? fun pattern => pattern.re message == some true).map
      fun pattern =>
        { patternSource := pattern.source
          muteMinutes := pattern.muteMinutes
          muteMessage := pattern.muteMessage }

def mute (filter : WordFilter) (playerKey reason : Bytes) (muteMinutes : Int)
    (now : Nanoseconds) : WordFilter :=
  if playerKey.isEmpty || muteMinutes ≤ 0 then filter
  else
    let entry : MuteEntry :=
      { mutedUntil := int64 (now + int64 (muteMinutes * 60 * nanosecondsPerSecond))
        reason
        lastNotify := now }
    { filter with
      mutes := fun key => if key = playerKey then some entry else filter.mutes key }

def tryConsumeMuteNotify (filter : WordFilter) (playerKey : Bytes)
    (minInterval now : Nanoseconds) : Bool × WordFilter :=
  match filter.findActiveMuteLocked playerKey now with
  | (none, filter) => (false, filter)
  | (some entry, filter) =>
      if entry.lastNotify ≠ 0 ∧ now - entry.lastNotify < minInterval then
        (false, filter)
      else
        (true, { filter with
          mutes := fun key =>
            if key = playerKey then some { entry with lastNotify := now }
            else filter.mutes key })

/-! ## What the operations leave alone -/

@[simp] theorem findActiveMuteLocked_patterns (filter : WordFilter)
    (playerKey : Bytes) (now : Nanoseconds) :
    (filter.findActiveMuteLocked playerKey now).2.patterns = filter.patterns := by
  unfold findActiveMuteLocked
  split
  · rfl
  · split
    · rfl
    · split <;> rfl

@[simp] theorem findActiveMuteLocked_muteLogWebhook (filter : WordFilter)
    (playerKey : Bytes) (now : Nanoseconds) :
    (filter.findActiveMuteLocked playerKey now).2.muteLogWebhook =
      filter.muteLogWebhook := by
  unfold findActiveMuteLocked
  split
  · rfl
  · split
    · rfl
    · split <;> rfl

theorem findActiveMuteLocked_fst (filter : WordFilter) (playerKey : Bytes)
    (now : Nanoseconds) :
    (filter.findActiveMuteLocked playerKey now).1 =
      filter.activeMute playerKey now := by
  unfold findActiveMuteLocked activeMute
  split
  · rfl
  · cases filter.mutes playerKey with
    | none => rfl
    | some entry =>
        by_cases expired : entry.mutedUntil ≤ now <;>
          simp [expired, Option.filter, Int.not_lt.mpr, Int.not_le.mp]

theorem isMuted_fst (filter : WordFilter) (playerKey : Bytes)
    (now : Nanoseconds) :
    (filter.isMuted playerKey now).1 = (filter.activeMute playerKey now).isSome := by
  simp [isMuted, findActiveMuteLocked_fst]

@[simp] theorem isMuted_patterns (filter : WordFilter) (playerKey : Bytes)
    (now : Nanoseconds) :
    (filter.isMuted playerKey now).2.patterns = filter.patterns := by
  simp [isMuted]

@[simp] theorem isMuted_muteLogWebhook (filter : WordFilter) (playerKey : Bytes)
    (now : Nanoseconds) :
    (filter.isMuted playerKey now).2.muteLogWebhook = filter.muteLogWebhook := by
  simp [isMuted]

@[simp] theorem muteRemainingSeconds_patterns (filter : WordFilter)
    (playerKey : Bytes) (now : Nanoseconds) :
    (filter.muteRemainingSeconds playerKey now).2.patterns = filter.patterns := by
  simp [muteRemainingSeconds]

@[simp] theorem mute_patterns (filter : WordFilter) (playerKey reason : Bytes)
    (muteMinutes : Int) (now : Nanoseconds) :
    (filter.mute playerKey reason muteMinutes now).patterns = filter.patterns := by
  unfold mute
  split <;> rfl

@[simp] theorem mute_muteLogWebhook (filter : WordFilter) (playerKey reason : Bytes)
    (muteMinutes : Int) (now : Nanoseconds) :
    (filter.mute playerKey reason muteMinutes now).muteLogWebhook =
      filter.muteLogWebhook := by
  unfold mute
  split <;> rfl

@[simp] theorem tryConsumeMuteNotify_patterns (filter : WordFilter)
    (playerKey : Bytes) (minInterval now : Nanoseconds) :
    (filter.tryConsumeMuteNotify playerKey minInterval now).2.patterns =
      filter.patterns := by
  have kept := findActiveMuteLocked_patterns filter playerKey now
  unfold tryConsumeMuteNotify
  split <;> rename_i found
  · rw [found] at kept
    exact kept
  · rw [found] at kept
    split <;> exact kept

theorem findMatch_congr {filter other : WordFilter}
    (equal : filter.patterns = other.patterns) (message : Bytes) :
    filter.findMatch message = other.findMatch message := by
  simp [findMatch, equal]

theorem findMatch_of_inactive {filter : WordFilter}
    (inactive : filter.active = false) (message : Bytes) :
    filter.findMatch message = none := by
  have noPatterns : filter.patterns.isEmpty = true := by
    simpa [active] using inactive
  simp [findMatch, noPatterns]

end WordFilter

end PalCrosschat
