import PalCrosschat.Callbacks
import PalCrosschat.MuteTable
import PalCrosschat.World

/-! # What a step does to the mutes

A hook call reads the clock up to three times and touches the entry of one key, the key
of its sender. No other callback and no other thread touches the mute table. -/

namespace PalCrosschat

open Bytes (ascii)

/-! ## The mute key -/

namespace HookContext

/-- Who a line is held to come from: the uid when it can be read, else the name property,
else everybody without either. -/
def muteKey (context : HookContext) : Bytes :=
  if context.senderId.isEmpty then
    if context.propertyName.isEmpty then ascii "Unknown" else context.propertyName
  else context.senderId

theorem muteKey_readSender (capture : ChatCapture) (context : HookContext) :
    (capture.readSender context).muteKey = context.muteKey := by
  unfold muteKey Sender.muteKey
  by_cases noId : context.senderId = []
  · have nothing : capture.lookupCachedPlayerName [] = [] := rfl
    by_cases noName : context.propertyName = []
    · simp [ChatCapture.readSender, ChatCapture.displayName, noId, noName, nothing]
    · simp [ChatCapture.readSender, ChatCapture.displayName, noId, noName]
  · simp [ChatCapture.readSender, noId]

theorem muteKey_ne_nil (context : HookContext) : context.muteKey ≠ [] := by
  rw [← muteKey_readSender {}]
  exact Sender.muteKey_ne_nil {} context

def checked (codec : TextCodec) (context : HookContext) : Bool :=
  !(context.line codec).isEmpty && (tryParseSetDiscord (context.line codec)).isNone

end HookContext

namespace Mod

variable (engine : Engine) (config : Config) (mod : Mod) (context : HookContext)

theorem senderMute_eq :
    mod.senderMute engine context =
      mod.filter.activeMute context.muteKey (engine.now mod.world.moment) := by
  rw [senderMute, HookContext.muteKey_readSender]

/-! ## The entry after a line -/

def reading (count : Nat) : Nanoseconds := engine.now (mod.world.moment + count)

def warns : Bool :=
  ((mod.senderMute engine context).filter fun entry =>
    mod.reading engine 1 < entry.mutedUntil).any
      (WordFilter.bannerDue (15 * nanosecondsPerSecond) (mod.reading engine 1))

def mutedAfter : Option MuteEntry :=
  let noticed := ((mod.senderMute engine context).filter fun entry =>
    mod.reading engine 1 < entry.mutedUntil).map fun entry =>
      if WordFilter.bannerDue (15 * nanosecondsPerSecond) (mod.reading engine 1) entry then
        { entry with lastNotify := mod.reading engine 1 }
      else entry
  if mod.warns engine context then
    noticed.filter fun entry => mod.reading engine 2 < entry.mutedUntil
  else noticed

/-- What a line that is neither empty nor a `!setdiscord` leaves of an entry that is not
in force, or that nobody asks for. -/
def checkedAfter : Option MuteEntry :=
  if mod.filter.active then mod.senderMute engine context
  else mod.filter.mutes context.muteKey

def muteAfter : Option MuteEntry :=
  match mod.hookBranch engine config context with
  | .empty | .setDiscord _ => mod.filter.mutes context.muteKey
  | .muted => mod.mutedAfter engine context
  | .filtered hit =>
      if 0 < hit.muteMinutes then
        some
          { mutedUntil := muteDeadline hit.muteMinutes (mod.reading engine 1)
            reason := hit.muteMessage
            lastNotify := mod.reading engine 1 }
      else mod.checkedAfter engine context
  | _ => mod.checkedAfter engine context

def clockReads : Nat :=
  match mod.hookBranch engine config context with
  | .empty | .setDiscord _ => 0
  | .muted => if mod.warns engine context then 3 else 2
  | .filtered hit => if 0 < hit.muteMinutes then 2 else 1
  | _ => if mod.filter.active then 1 else 0

section Screening

theorem screened_filter : (mod.screened engine context).filter =
    mod.filter.setMute context.muteKey (mod.checkedAfter engine context) := by
  have hasKey := context.muteKey_ne_nil
  rcases mod.rememberSender_eq context with ⟨audience, remembered⟩
  unfold screened checkedAfter
  rw [remembered, filterVerdict_snd, HookContext.muteKey_readSender, senderMute_eq]
  dsimp only
  cases mod.filter.active with
  | false =>
      simp only [Bool.false_eq_true, if_false]
      exact WordFilter.setMute_mutes.symm
  | true =>
      simp only [if_true]
      rw [WordFilter.isMuted_eq hasKey]

theorem screened_moment : (mod.screened engine context).world.moment =
    mod.world.moment + if mod.filter.active then 1 else 0 := by
  rcases mod.rememberSender_eq context with ⟨audience, remembered⟩
  unfold screened
  rw [remembered, filterVerdict_snd]
  dsimp only
  cases mod.filter.active with
  | false => rfl
  | true => rfl

end Screening

section Branches

theorem showMuteBanner_filter (sender : Sender) (banner : Bytes) :
    (mod.showMuteBanner context sender banner).filter = mod.filter := rfl

theorem showMuteBanner_moment (sender : Sender) (banner : Bytes) :
    (mod.showMuteBanner context sender banner).world.moment = mod.world.moment := rfl

theorem enqueueWebhook_filter (webhookUrl content : Bytes) :
    (mod.enqueueWebhook webhookUrl content).filter = mod.filter := by
  unfold enqueueWebhook
  split <;> rfl

theorem enqueueWebhook_moment (webhookUrl content : Bytes) :
    (mod.enqueueWebhook webhookUrl content).world.moment = mod.world.moment := by
  unfold enqueueWebhook
  split <;> rfl

theorem suppressMuted_mutes {screened : Mod} {filter : WordFilter} {entry : Option MuteEntry}
    (sender : Sender) (key : sender.muteKey = context.muteKey)
    (filtered : screened.filter = filter.setMute context.muteKey entry) :
    let noticed := (entry.filter fun entry =>
      engine.now screened.world.moment < entry.mutedUntil).map fun entry =>
        if WordFilter.bannerDue (15 * nanosecondsPerSecond) (engine.now screened.world.moment)
          entry then { entry with lastNotify := engine.now screened.world.moment }
        else entry
    let warned := (entry.filter fun entry =>
      engine.now screened.world.moment < entry.mutedUntil).any
        (WordFilter.bannerDue (15 * nanosecondsPerSecond) (engine.now screened.world.moment))
    (screened.suppressMuted engine context sender).filter = filter.setMute context.muteKey
        (if warned then noticed.filter fun entry =>
          engine.now (screened.world.moment + 1) < entry.mutedUntil else noticed) ∧
      (screened.suppressMuted engine context sender).world.moment =
        screened.world.moment + if warned then 2 else 1 := by
  intro noticed warned
  have hasKey := context.muteKey_ne_nil
  have notified : (filter.setMute context.muteKey entry).tryConsumeMuteNotify context.muteKey
      (15 * nanosecondsPerSecond) (engine.now screened.world.moment) =
        (warned, filter.setMute context.muteKey noticed) := by
    rw [WordFilter.tryConsumeMuteNotify_eq hasKey, WordFilter.activeMute_setMute hasKey,
      WordFilter.setMute_setMute]
  simp only [suppressMuted, ask, key, filtered, notified]
  cases warned with
  | false => exact ⟨rfl, rfl⟩
  | true =>
      simp only [if_true, showMuteBanner_filter, showMuteBanner_moment]
      rw [WordFilter.muteRemainingSeconds_snd hasKey, WordFilter.activeMute_setMute hasKey,
        WordFilter.setMute_setMute]
      exact ⟨rfl, trivial⟩

/-- The filter branch mutes the sender under a pattern with minutes. -/
theorem suppressFiltered_mutes {screened : Mod} {filter : WordFilter}
    {entry : Option MuteEntry} (sender : Sender) (key : sender.muteKey = context.muteKey)
    (filtered : screened.filter = filter.setMute context.muteKey entry) (message : Bytes)
    (hit : FilterHit) :
    (screened.suppressFiltered engine config context sender message hit).filter =
        filter.setMute context.muteKey
          (if 0 < hit.muteMinutes then
            some
              { mutedUntil := muteDeadline hit.muteMinutes (engine.now screened.world.moment)
                reason := hit.muteMessage
                lastNotify := engine.now screened.world.moment }
          else entry) ∧
      (screened.suppressFiltered engine config context sender message hit).world.moment =
        screened.world.moment + if 0 < hit.muteMinutes then 1 else 0 := by
  have hasKey := context.muteKey_ne_nil
  have muted : (screened.muteSender engine sender hit).filter =
        filter.setMute context.muteKey
          (if 0 < hit.muteMinutes then
            some
              { mutedUntil := muteDeadline hit.muteMinutes (engine.now screened.world.moment)
                reason := hit.muteMessage
                lastNotify := engine.now screened.world.moment }
          else entry) ∧
      (screened.muteSender engine sender hit).world.moment =
        screened.world.moment + if 0 < hit.muteMinutes then 1 else 0 := by
    unfold muteSender
    split
    · rename_i positive
      simp only [ask, key, filtered]
      rw [WordFilter.mute_eq hasKey positive, WordFilter.setMute_setMute]
      exact ⟨rfl, trivial⟩
    · exact ⟨filtered, rfl⟩
  simp only [suppressFiltered]
  split
  · exact muted
  · rw [enqueueWebhook_filter, enqueueWebhook_moment]
    exact muted

theorem relayLine_filter (sender : Sender) (message : Bytes) :
    (mod.relayLine config context sender message).filter = mod.filter ∧
      (mod.relayLine config context sender message).world.moment = mod.world.moment := by
  rw [relayLine_eq]
  split <;> exact ⟨rfl, rfl⟩

end Branches

/-- The filter after a call. -/
theorem handleHook_filter :
    (mod.handleHook engine config context).1.filter =
      mod.filter.setMute context.muteKey (mod.muteAfter engine config context) ∧
    (mod.handleHook engine config context).1.world.moment =
      mod.world.moment + mod.clockReads engine config context := by
  have hasKey := context.muteKey_ne_nil
  have key := HookContext.muteKey_readSender mod.capture context
  have filtered := screened_filter engine mod context
  have moment := screened_moment engine mod context
  rw [handleHook_eq, muteAfter, clockReads]
  cases branch : mod.hookBranch engine config context with
  | empty => exact ⟨WordFilter.setMute_mutes.symm, rfl⟩
  | setDiscord connectCode => exact ⟨WordFilter.setMute_mutes.symm, rfl⟩
  | muted =>
      have active := active_of_hookBranch_eq_muted branch
      have suppressed := suppressMuted_mutes engine context _ key filtered
      rw [moment, checkedAfter] at suppressed
      simp only [active, if_true] at suppressed
      refine ⟨suppressed.1, suppressed.2.trans ?_⟩
      change mod.world.moment + 1 + (if mod.warns engine context then 2 else 1) =
        mod.world.moment + if mod.warns engine context then 3 else 2
      split <;> omega
  | filtered hit =>
      have active := active_of_hookBranch_eq_filtered branch
      have suppressed := suppressFiltered_mutes engine config context _ key filtered
        (context.line engine.codec) hit
      rw [moment] at suppressed
      simp only [active, if_true] at suppressed
      refine ⟨suppressed.1, suppressed.2.trans ?_⟩
      change mod.world.moment + 1 + (if 0 < hit.muteMinutes then 1 else 0) =
        mod.world.moment + if 0 < hit.muteMinutes then 2 else 1
      split <;> omega
  | command => exact ⟨filtered, moment⟩
  | otherCategory => exact ⟨filtered, moment⟩
  | tagged => exact ⟨filtered, moment⟩
  | relayed =>
      have kept := relayLine_filter config (mod.screened engine context) context
        (mod.capture.readSender context)
        (context.line engine.codec)
      exact ⟨kept.1.trans filtered, kept.2.trans moment⟩

/-! ## What a line means for the deadlines -/

def muteLock : Option Nanoseconds :=
  (mod.filter.findMatch (context.line engine.codec)).bind fun hit =>
    if 0 < hit.muteMinutes then
      some (mod.reading engine 1 + minutesLong hit.muteMinutes)
    else none

def muteAttempt {Key : Type} (key : Key) : TimedLock.Attempt Key Nanoseconds where
  key := key
  time := mod.reading engine 0
  lock := mod.muteLock engine context

def LockFits : Prop :=
  mod.senderMute engine context = none →
    ∀ ends ∈ mod.muteLock engine context, ends < 2 ^ 63

instance : Decidable (mod.LockFits engine context) :=
  inferInstanceAs (Decidable (_ → _))

section Settles

variable {engine config mod context}

theorem reading_mono (clock : engine.SteadyClock) {first second : Nat} (order : first ≤ second) :
    mod.reading engine first ≤ mod.reading engine second :=
  clock.monotone (Nat.add_le_add_left order _)

theorem senderMute_isSome_iff :
    (mod.senderMute engine context).isSome = true ↔
      TimedLock.InForce mod.filter.deadlines context.muteKey (mod.reading engine 0) := by
  rw [senderMute_eq, WordFilter.activeMute_isSome_iff context.muteKey_ne_nil]
  rfl

theorem checked_iff :
    context.checked engine.codec = true ↔
      context.line engine.codec ≠ [] ∧ tryParseSetDiscord (context.line engine.codec) = none := by
  simp [HookContext.checked]

/-- A line that comes to the mute check is suppressed exactly when a mute of its key is
in force. -/
theorem hookBranch_eq_muted_iff (checked : context.checked engine.codec = true) :
    mod.hookBranch engine config context = .muted ↔
      mod.filter.active = true ∧
        TimedLock.InForce mod.filter.deadlines context.muteKey (mod.reading engine 0) := by
  rcases checked_iff.mp checked with ⟨nonempty, noCode⟩
  rw [← senderMute_isSome_iff, ← Bool.and_eq_true]
  cases muted : mod.filter.active && (mod.senderMute engine context).isSome with
  | true => simp [hookBranch, nonempty, noCode, muted]
  | false =>
      cases hit : mod.filter.findMatch (context.line engine.codec) with
      | some hit => simp [hookBranch_of_hit nonempty noCode muted hit]
      | none =>
          rw [hookBranch_of_noHit nonempty noCode muted hit]
          have branches := passingBranch_cases engine config context
          constructor
          · intro equal
            rw [equal] at branches
            exact absurd branches (by decide)
          · exact fun impossible => absurd impossible Bool.false_ne_true

/-- The deadline that is stored is the one that was meant. -/
theorem muteDeadline_of_lockFits (clock : engine.SteadyClock) {hit : FilterHit}
    (fits : mod.LockFits engine context) (free : mod.senderMute engine context = none)
    (found : mod.filter.findMatch (context.line engine.codec) = some hit)
    (positive : 0 < hit.muteMinutes) :
    muteDeadline hit.muteMinutes (mod.reading engine 1) =
      mod.reading engine 1 + minutesLong hit.muteMinutes := by
  apply muteDeadline_eq positive (Int.le_of_lt (clock.positive _))
  apply fits free
  rw [muteLock, found, Option.bind_some, if_pos positive]
  rfl

theorem inForce_senderMute {time : Nanoseconds} (reached : mod.reading engine 0 ≤ time) :
    (∃ held ∈ mod.senderMute engine context, time < held.mutedUntil) ↔
      TimedLock.InForce mod.filter.deadlines context.muteKey time := by
  have hasKey := context.muteKey_ne_nil
  rw [senderMute_eq, WordFilter.activeMute, if_neg (by simp [hasKey])]
  unfold TimedLock.InForce WordFilter.deadlines
  cases mod.filter.mutes context.muteKey with
  | none => simp
  | some entry =>
      have inside : time < entry.mutedUntil → mod.reading engine 0 < entry.mutedUntil :=
        fun still => Int.lt_of_le_of_lt reached still
      simp only [Option.mem_filter_iff, Option.mem_some_iff, Option.map_some]
      constructor
      · intro given
        rcases given with ⟨held, ⟨rfl, -⟩, still⟩
        exact ⟨_, rfl, still⟩
      · intro given
        rcases given with ⟨ends, rfl, still⟩
        exact ⟨entry, ⟨rfl, decide_eq_true (inside still)⟩, still⟩

theorem inForce_mutedAfter (clock : engine.SteadyClock) {time : Nanoseconds}
    (reached : mod.reading engine (if mod.warns engine context then 3 else 2) ≤ time) :
    (∃ held ∈ mod.mutedAfter engine context, time < held.mutedUntil) ↔
      ∃ held ∈ mod.senderMute engine context, time < held.mutedUntil := by
  have second : mod.reading engine 1 ≤ time := by
    refine Int.le_trans (reading_mono clock ?_) reached
    split <;> omega
  have third : mod.warns engine context = true → mod.reading engine 2 ≤ time := by
    intro warned
    rw [if_pos warned] at reached
    exact Int.le_trans (reading_mono clock (by omega)) reached
  unfold mutedAfter
  cases mod.senderMute engine context with
  | none => simp
  | some entry =>
      by_cases inside : mod.reading engine 1 < entry.mutedUntil
      · -- A banner changes the time of the last banner only.
        have noticed : ∃ later : MuteEntry,
            (if WordFilter.bannerDue (15 * nanosecondsPerSecond) (mod.reading engine 1) entry then
              { entry with lastNotify := mod.reading engine 1 } else entry) = later ∧
            later.mutedUntil = entry.mutedUntil := by
          refine ⟨_, rfl, ?_⟩
          split <;> rfl
        rcases noticed with ⟨later, equal, sameEnd⟩
        simp only [Option.filter, inside, decide_true, if_true, Option.map_some, equal]
        cases warned : mod.warns engine context with
        | false => simp [sameEnd]
        | true =>
            have reachedThird := third warned
            simp only [if_true, sameEnd]
            by_cases still : time < entry.mutedUntil
            · have kept : mod.reading engine 2 < entry.mutedUntil :=
                Int.lt_of_le_of_lt reachedThird still
              simp [kept, sameEnd]
            · by_cases kept : mod.reading engine 2 < entry.mutedUntil
              · simp [kept, sameEnd]
              · simp [kept, still]
      · have ended : ¬time < entry.mutedUntil := fun still =>
          inside (Int.lt_of_le_of_lt second still)
        simp [Option.filter, inside, ended]

theorem not_inForce_checkedAfter {time : Nanoseconds}
    (free : ¬TimedLock.InForce mod.filter.deadlines context.muteKey (mod.reading engine 0))
    (reached : mod.reading engine 0 ≤ time) :
    ¬∃ held ∈ mod.checkedAfter engine context, time < held.mutedUntil := by
  have past : ¬TimedLock.InForce mod.filter.deadlines context.muteKey time :=
    fun still => free (still.mono reached)
  unfold checkedAfter
  split
  · rwa [inForce_senderMute reached]
  · intro given
    rcases given with ⟨held, found, still⟩
    exact past ⟨held.mutedUntil, by simp [WordFilter.deadlines, Option.mem_def.mp found], still⟩

theorem muteAfter_of_passing
    (passing : mod.hookBranch engine config context = passingBranch engine config context) :
    mod.muteAfter engine config context = mod.checkedAfter engine context := by
  have branches := passingBranch_cases engine config context
  rw [← passing] at branches
  unfold muteAfter
  simp only [List.mem_cons, List.not_mem_nil, or_false] at branches
  rcases branches with branch | branch | branch | branch <;> rw [branch]

/-- A line that is not suppressed leaves the mute it brings about, if any. -/
theorem muteAfter_of_free (clock : engine.SteadyClock)
    (checked : context.checked engine.codec = true) (fits : mod.LockFits engine context)
    (free : ¬TimedLock.InForce mod.filter.deadlines context.muteKey (mod.reading engine 0))
    {time : Nanoseconds} (reached : mod.reading engine 0 ≤ time) :
    (∃ held ∈ mod.muteAfter engine config context, time < held.mutedUntil) ↔
      ∃ ends ∈ mod.muteLock engine context, time < ends := by
  rcases checked_iff.mp checked with ⟨nonempty, noCode⟩
  have nothing := not_inForce_checkedAfter free reached
  have noMute : mod.senderMute engine context = none := by
    rw [← Option.not_isSome_iff_eq_none]
    exact fun muted => free (senderMute_isSome_iff.mp muted)
  have unmuted : (mod.filter.active && (mod.senderMute engine context).isSome) = false := by
    simp [noMute]
  cases found : mod.filter.findMatch (context.line engine.codec) with
  | some hit =>
      unfold muteAfter
      rw [hookBranch_of_hit nonempty noCode unmuted found]
      by_cases positive : 0 < hit.muteMinutes
      · have deadline := muteDeadline_of_lockFits clock fits noMute found positive
        simp [positive, deadline, muteLock, found]
      · have noLock : mod.muteLock engine context = none := by
          rw [muteLock, found, Option.bind_some, if_neg positive]
        simpa [positive, noLock] using nothing
  | none =>
      have noLock : mod.muteLock engine context = none := by rw [muteLock, found]; rfl
      rw [muteAfter_of_passing (hookBranch_of_noHit nonempty noCode unmuted found), noLock]
      simpa using nothing

/-- A mute that is in force stays as long as it is. -/
theorem muteAfter_of_held (clock : engine.SteadyClock)
    (checked : context.checked engine.codec = true)
    (held : TimedLock.InForce mod.filter.deadlines context.muteKey (mod.reading engine 0))
    {time : Nanoseconds}
    (reached : mod.reading engine (mod.clockReads engine config context) ≤ time) :
    (∃ held ∈ mod.muteAfter engine config context, time < held.mutedUntil) ↔
      TimedLock.InForce mod.filter.deadlines context.muteKey time := by
  cases active : mod.filter.active with
  | true =>
      have branch : mod.hookBranch engine config context = .muted :=
        (hookBranch_eq_muted_iff checked).mpr ⟨active, held⟩
      have since : mod.reading engine 0 ≤ time :=
        Int.le_trans (reading_mono clock (Nat.zero_le _)) reached
      unfold clockReads at reached
      unfold muteAfter
      rw [branch] at reached ⊢
      exact (inForce_mutedAfter clock reached).trans (inForce_senderMute since)
  | false =>
      rcases checked_iff.mp checked with ⟨nonempty, noCode⟩
      have passing : mod.hookBranch engine config context =
          passingBranch engine config context :=
        hookBranch_of_noHit nonempty noCode (by rw [active]; rfl)
          (WordFilter.findMatch_of_inactive active _)
      rw [muteAfter_of_passing passing]
      simp [checkedAfter, active, TimedLock.InForce, WordFilter.deadlines]

/-- The clock after a call. -/
theorem reading_handleHook_eq :
    (mod.handleHook engine config context).1.reading engine 0 =
      mod.reading engine (mod.clockReads engine config context) := by
  unfold reading
  rw [(handleHook_filter engine config mod context).2]
  rfl

theorem reading_handleHook (clock : engine.SteadyClock) :
    mod.reading engine 0 ≤ (mod.handleHook engine config context).1.reading engine 0 := by
  rw [reading_handleHook_eq]
  exact reading_mono clock (Nat.zero_le _)

/-- One line, as the table of mutes sees it. -/
theorem handleHook_settles (clock : engine.SteadyClock)
    (checked : context.checked engine.codec = true) (fits : mod.LockFits engine context) :
    TimedLock.Settles (mod.muteAttempt engine context context.muteKey) mod.filter.deadlines
      (mod.handleHook engine config context).1.filter.deadlines
      ((mod.handleHook engine config context).1.reading engine 0) := by
  have since : mod.reading engine 0 ≤
      mod.reading engine (mod.clockReads engine config context) :=
    reading_mono clock (Nat.zero_le _)
  rw [(handleHook_filter engine config mod context).1, reading_handleHook_eq]
  apply TimedLock.settles_of_key
  · intro other different
    unfold WordFilter.deadlines
    exact congrArg _ (WordFilter.setMute_other different)
  · intro held time reached
    change TimedLock.InForce _ context.muteKey time ↔ _
    rw [WordFilter.inForce_setMute]
    exact muteAfter_of_held clock checked held reached
  · intro free time reached
    change TimedLock.InForce _ context.muteKey time ↔ _
    rw [WordFilter.inForce_setMute]
    exact muteAfter_of_free clock checked fits free (Int.le_trans since reached)
  · exact since

theorem hookBranch_of_unchecked (unchecked : context.checked engine.codec = false) :
    mod.hookBranch engine config context = .empty ∨
      ∃ connectCode, mod.hookBranch engine config context = .setDiscord connectCode := by
  by_cases empty : context.line engine.codec = []
  · exact .inl (by simp [hookBranch, empty])
  · cases found : tryParseSetDiscord (context.line engine.codec) with
    | none => exact absurd (checked_iff.mpr ⟨empty, found⟩) (by simp [unchecked])
    | some connectCode => exact .inr ⟨connectCode, by simp [hookBranch, empty, found]⟩

/-- Empty lines and `!setdiscord` lines leave the mutes and the clock alone. -/
theorem handleHook_of_unchecked (unchecked : context.checked engine.codec = false) :
    (mod.handleHook engine config context).1.filter = mod.filter ∧
      (mod.handleHook engine config context).1.world.moment = mod.world.moment := by
  rw [handleHook_eq]
  rcases hookBranch_of_unchecked unchecked with branch | ⟨connectCode, branch⟩
  · rw [branch]
    exact ⟨rfl, rfl⟩
  · rw [branch]
    exact ⟨rfl, rfl⟩

theorem muteAfter_of_inactive (inactive : mod.filter.active = false) :
    mod.muteAfter engine config context = mod.filter.mutes context.muteKey := by
  have same : mod.checkedAfter engine context = mod.filter.mutes context.muteKey := by
    simp [checkedAfter, inactive]
  unfold muteAfter
  cases branch : mod.hookBranch engine config context with
  | empty => rfl
  | setDiscord connectCode => rfl
  | muted =>
      rw [active_of_hookBranch_eq_muted branch] at inactive
      cases inactive
  | filtered hit =>
      rw [active_of_hookBranch_eq_filtered branch] at inactive
      cases inactive
  | _ => exact same

end Settles

/-! ## The other callbacks -/

structure Elapses (before after : Mod) : Prop where
  filter : after.filter = before.filter
  moment : before.world.moment ≤ after.world.moment

theorem Elapses.refl (mod : Mod) : Elapses mod mod := ⟨rfl, Nat.le_refl _⟩

theorem Elapses.trans {first second third : Mod} (left : Elapses first second)
    (right : Elapses second third) : Elapses first third :=
  ⟨right.filter.trans left.filter, Nat.le_trans left.moment right.moment⟩

section Callbacks

variable {engine config mod}

theorem resolvePlayerNameViaPE_elapses (playerState : Option PlayerState) :
    Elapses mod (mod.resolvePlayerNameViaPE engine playerState).2 := by
  rcases resolvePlayerNameViaPE_eq engine mod playerState with ⟨asked, equal⟩
  rw [equal]
  exact ⟨rfl, Nat.le_add_right _ asked⟩

theorem lookupPlatform_elapses (uidKey : Bytes) (playerState : Option PlayerState) :
    Elapses mod (mod.lookupPlatform engine uidKey playerState).2 := by
  rcases lookupPlatform_eq engine mod uidKey playerState with ⟨asked, platforms, equal⟩
  rw [equal]
  exact ⟨rfl, Nat.le_add_right _ asked⟩

theorem rememberRequester_elapses (playerUid : Guid) (platformUserId : Bytes)
    (playerState : Option PlayerState) :
    Elapses mod (mod.rememberRequester playerUid platformUserId playerState) := by
  rcases rememberRequester_eq mod playerUid platformUserId playerState with ⟨audience, equal⟩
  rw [equal]
  exact ⟨rfl, Nat.le_refl _⟩

theorem queueLinkJob_elapses (controller : ObjectRef) (playerUid : Guid)
    (connectCode platformUserId playerName : Bytes) :
    Elapses mod (mod.queueLinkJob controller playerUid connectCode platformUserId
      playerName) := by
  unfold queueLinkJob
  split <;> exact ⟨rfl, Nat.le_refl _⟩

theorem processSetDiscord_elapses (controller : ObjectRef) (connectCode : Bytes) :
    Elapses mod (mod.processSetDiscord engine controller connectCode) := by
  have cached (mod : Mod) (uidKey name : Bytes) :
      Elapses mod (mod.cachePlayerName uidKey name) := ⟨rfl, Nat.le_refl _⟩
  refine .trans ?_ (queueLinkJob_elapses _ _ _ _ _)
  refine .trans ?_ (rememberRequester_elapses _ _ _)
  refine .trans ?_ (lookupPlatform_elapses _ _)
  refine .trans ?_ (cached _ _ _)
  refine .trans ?_ (resolvePlayerNameViaPE_elapses _)
  exact ⟨rfl, Nat.le_succ _⟩

theorem flushSetDiscord_elapses (pending : PendingSetDiscord) :
    Elapses mod (mod.flushSetDiscord engine pending) := by
  have popped : Elapses mod (({ mod with capture := { mod.capture with
      pendingSetDiscord := mod.capture.pendingSetDiscord.pop } } : Mod).ask id).2 :=
    ⟨rfl, Nat.le_succ _⟩
  unfold flushSetDiscord
  dsimp only [ask]
  cases (safeWeakGet engine mod.world.moment pending.controller).1 with
  | none => exact popped
  | some controller => exact popped.trans (processSetDiscord_elapses _ _)

theorem flushChatRelay_elapses (pending : PendingChatRelay) :
    Elapses mod (mod.flushChatRelay engine pending) := by
  rcases resolveRelayName_eq engine mod.popChatRelay pending with ⟨asked, names, equal⟩
  rw [flushChatRelay_eq, equal]
  exact ⟨rfl, Nat.le_add_right _ asked⟩

theorem deliverLinkResult_elapses (result : LinkResult) :
    Elapses mod (mod.deliverLinkResult engine result) := by
  rcases deliverLinkResult_eq engine mod result with ⟨clients, asked, inject, -, equal⟩
  rw [equal]
  exact ⟨rfl, Nat.le_add_right _ asked⟩

theorem drainInject_elapses : Elapses mod (mod.drainInject engine config) := by
  rcases drainInject_eq engine mod config with ⟨world, ticked, equal⟩
  rw [equal]
  exact ⟨rfl, ticked.moment⟩

theorem onUpdate_elapses : Elapses mod (mod.onUpdate engine config) := by
  unfold onUpdate
  refine .trans ?_ drainInject_elapses
  have flushed : Elapses mod (mod.flushDeferred engine) :=
    .trans (Execution.run_relation Elapses .refl .trans (fun _ => flushSetDiscord_elapses) _)
      (Execution.run_relation Elapses .refl .trans (fun _ => flushChatRelay_elapses) _)
  have ticked : Elapses (mod.flushDeferred engine)
      ((mod.flushDeferred engine).audienceTick engine) := ⟨rfl, Nat.le_add_right _ 2⟩
  refine .trans (flushed.trans ticked) (Execution.run_relation Elapses .refl .trans ?_ _)
  intro mod result
  have popped : Elapses mod { mod with linkResults := mod.linkResults.tryPop.2 } :=
    ⟨rfl, Nat.le_refl _⟩
  exact popped.trans (deliverLinkResult_elapses result)

theorem onRequestJoinPlayer_elapses (playerState : Option ObjectRef) :
    Elapses mod (mod.onRequestJoinPlayer engine playerState) :=
  ⟨rfl, Nat.le_succ _⟩

end Callbacks

end Mod

def WorldInput.hookCall : WorldInput → Option HookContext
  | .hook context => some context
  | _ => none

theorem World.step_hook {engine : Engine} {config : Config} {world : World}
    {input : WorldInput} {context : HookContext} (call : input.hookCall = some context) :
    (world.step engine config input).mod = (world.mod.handleHook engine config context).1 := by
  cases input with
  | hook other =>
      cases call
      rfl
  | _ => cases call

theorem World.step_elapses {engine : Engine} {config : Config} {world : World}
    {input : WorldInput} (noCall : input.hookCall = none) :
    Mod.Elapses world.mod (world.step engine config input).mod := by
  cases input with
  | hook context => cases noCall
  | update => exact Mod.onUpdate_elapses
  | join playerState => exact Mod.onRequestJoinPlayer_elapses playerState
  | worker input => exact ⟨rfl, Nat.le_refl _⟩
  | remote action => exact .refl _
  | webhookPopped => exact ⟨rfl, Nat.le_refl _⟩

end PalCrosschat
