import PalCrosschat.InjectTraffic
import PalCrosschat.MuteRuns

/-! # The life of a mute

From the line that starts a mute to the first line after its end: what the lines of
the muted key do meanwhile, how often they are answered, and that the lines of other keys
have no part in it. -/

namespace PalCrosschat

open Bytes (ascii)

namespace Mod

/-! ## Lines of other keys -/

def withMute (mod : Mod) (key : Bytes) (entry : Option MuteEntry) : Mod :=
  { mod with filter := mod.filter.setMute key entry }

section OtherKeys

variable {engine : Engine} {config : Config} {mod : Mod} {context : HookContext}
  {key : Bytes} {entry : Option MuteEntry}

@[simp] theorem withMute_filter :
    (mod.withMute key entry).filter = mod.filter.setMute key entry := rfl

@[simp] theorem withMute_world : (mod.withMute key entry).world = mod.world := rfl

theorem enqueueWebhook_withMute (webhookUrl content : Bytes) :
    (mod.withMute key entry).enqueueWebhook webhookUrl content =
      (mod.enqueueWebhook webhookUrl content).withMute key entry := by
  unfold enqueueWebhook
  split <;> rfl

theorem rememberSender_withMute : (mod.withMute key entry).rememberSender context =
    (mod.rememberSender context).withMute key entry := by
  unfold rememberSender
  split <;> rfl

theorem senderMute_withMute (other : context.muteKey ≠ key) :
    (mod.withMute key entry).senderMute engine context = mod.senderMute engine context := by
  rw [senderMute_eq, senderMute_eq]
  exact WordFilter.activeMute_setMute_other other

theorem hookBranch_withMute (other : context.muteKey ≠ key) :
    (mod.withMute key entry).hookBranch engine config context =
      mod.hookBranch engine config context := by
  unfold hookBranch
  rw [senderMute_withMute other]
  rfl

theorem screened_withMute (other : context.muteKey ≠ key) :
    (mod.withMute key entry).screened engine context =
      (mod.screened engine context).withMute key entry := by
  have verdict (mod : Mod) (message : Bytes) :
      ((mod.withMute key entry).filterVerdict engine context.muteKey message).2 =
        (mod.filterVerdict engine context.muteKey message).2.withMute key entry := by
    rw [filterVerdict_snd, filterVerdict_snd]
    cases active : mod.filter.active with
    | false => simp [withMute, active]
    | true =>
        simp [withMute, active,
          WordFilter.isMuted_setMute_other context.muteKey_ne_nil other]
  unfold screened
  rw [rememberSender_withMute, HookContext.muteKey_readSender,
    HookContext.muteKey_readSender, verdict]

theorem suppressMuted_withMute {sender : Sender} (hasKey : sender.muteKey ≠ [])
    (other : sender.muteKey ≠ key) :
    (mod.withMute key entry).suppressMuted engine context sender =
      (mod.suppressMuted engine context sender).withMute key entry := by
  simp only [suppressMuted, ask, withMute_filter, withMute_world,
    WordFilter.tryConsumeMuteNotify_setMute_other hasKey other,
    WordFilter.muteRemainingSeconds_setMute_other hasKey other]
  by_cases notify : (mod.filter.tryConsumeMuteNotify sender.muteKey
      (15 * nanosecondsPerSecond) (engine.now mod.world.moment)).1 = true
  · simp only [notify, if_true]
    rfl
  · simp only [notify, Bool.false_eq_true, if_false]
    rfl

theorem muteSender_withMute {sender : Sender} (hasKey : sender.muteKey ≠ [])
    (other : sender.muteKey ≠ key) (hit : FilterHit) :
    (mod.withMute key entry).muteSender engine sender hit =
      (mod.muteSender engine sender hit).withMute key entry := by
  unfold muteSender
  by_cases positive : 0 < hit.muteMinutes
  · simp only [if_pos positive, ask, withMute,
      WordFilter.mute_setMute_other hasKey other positive]
  · rw [if_neg positive, if_neg positive]

theorem suppressFiltered_withMute {sender : Sender} (hasKey : sender.muteKey ≠ [])
    (other : sender.muteKey ≠ key) (message : Bytes) (hit : FilterHit) :
    (mod.withMute key entry).suppressFiltered engine config context sender message hit =
      (mod.suppressFiltered engine config context sender message hit).withMute key entry := by
  simp only [suppressFiltered, muteSender_withMute hasKey other]
  generalize mod.muteSender engine sender hit = muted
  have shown : (muted.withMute key entry).showMuteBanner context sender
      (initialMuteBanner (muted.withMute key entry).filter hit) =
        (muted.showMuteBanner context sender
          (initialMuteBanner muted.filter hit)).withMute key entry := rfl
  rw [shown]
  generalize muted.showMuteBanner context sender (initialMuteBanner muted.filter hit) = shown
  by_cases noLog : shown.filter.muteLogWebhook.isEmpty = true
  · simp only [withMute_filter, WordFilter.setMute_muteLogWebhook, noLog, if_true]
  · simp only [withMute_filter, WordFilter.setMute_muteLogWebhook, noLog, Bool.false_eq_true,
      if_false]
    exact enqueueWebhook_withMute _ _

theorem relayLine_withMute (sender : Sender) (message : Bytes) :
    (mod.withMute key entry).relayLine config context sender message =
      (mod.relayLine config context sender message).withMute key entry := by
  rw [relayLine_eq, relayLine_eq]
  split <;> rfl

theorem handleHook_withMute (other : context.muteKey ≠ key) :
    (mod.withMute key entry).handleHook engine config context =
      ((mod.handleHook engine config context).1.withMute key entry,
        (mod.handleHook engine config context).2) := by
  have sameKey := HookContext.muteKey_readSender mod.capture context
  have hasKey : (mod.capture.readSender context).muteKey ≠ [] := by
    rw [sameKey]
    exact context.muteKey_ne_nil
  have otherSender : (mod.capture.readSender context).muteKey ≠ key := by
    rwa [sameKey]
  rw [handleHook_eq, handleHook_eq, hookBranch_withMute other, screened_withMute other]
  cases mod.hookBranch engine config context with
  | empty => rfl
  | setDiscord connectCode => rfl
  | muted => exact congrArg (·, _) (suppressMuted_withMute hasKey otherSender)
  | filtered hit => exact congrArg (·, _) (suppressFiltered_withMute hasKey otherSender _ hit)
  | command => rfl
  | otherCategory => rfl
  | tagged => rfl
  | relayed => exact congrArg (·, _) (relayLine_withMute _ _)

theorem handleHook_mutes_other (other : context.muteKey ≠ key) :
    (mod.handleHook engine config context).1.filter.mutes key = mod.filter.mutes key := by
  rw [(handleHook_filter engine config mod context).1]
  exact WordFilter.setMute_other other.symm

end OtherKeys

/-! ## One line of the muted key -/

section OwnKey

variable {engine : Engine} {config : Config} {mod : Mod} {context : HookContext}
  {entry : MuteEntry}

/-- After the end of a mute it makes no difference whether its entry is still there. -/
theorem handleHook_of_ended (active : mod.filter.active = true)
    (checked : context.checked engine.codec = true)
    (ended : mod.senderMute engine context = none) :
    mod.handleHook engine config context =
      (mod.withMute context.muteKey none).handleHook engine config context := by
  have hasKey := context.muteKey_ne_nil
  rcases checked_iff.mp checked with ⟨nonempty, noCode⟩
  have unmuted : (mod.filter.active && (mod.senderMute engine context).isSome) = false := by
    simp [ended]
  have noMute : (mod.withMute context.muteKey none).senderMute engine context = none := by
    rw [senderMute_eq]
    exact WordFilter.activeMute_setMute hasKey
  have branch : (mod.withMute context.muteKey none).hookBranch engine config context =
      mod.hookBranch engine config context := by
    unfold hookBranch
    rw [noMute, ended]
    rfl
  have screened : (mod.withMute context.muteKey none).screened engine context =
      mod.screened engine context := by
    rcases mod.rememberSender_eq context with ⟨audience, remembered⟩
    have dropped : mod.filter.activeMute context.muteKey (engine.now mod.world.moment) =
        none := by
      rw [← senderMute_eq, ended]
    unfold Mod.screened
    rw [rememberSender_withMute, remembered, HookContext.muteKey_readSender,
      HookContext.muteKey_readSender, filterVerdict_snd, filterVerdict_snd]
    simp [withMute, active, WordFilter.isMuted_eq hasKey, dropped,
      WordFilter.activeMute_setMute hasKey]
  have capture : (mod.withMute context.muteKey none).capture = mod.capture := rfl
  rw [handleHook_eq, handleHook_eq, branch, screened, capture]
  cases found : mod.filter.findMatch (context.line engine.codec) with
  | some hit =>
      rw [hookBranch_of_hit nonempty noCode unmuted found]
  | none =>
      have branches := passingBranch_cases engine config context
      rw [hookBranch_of_noHit nonempty noCode unmuted found]
      simp only [List.mem_cons, List.not_mem_nil, or_false] at branches
      rcases branches with branch | branch | branch | branch <;> rw [branch]

theorem senderMute_of_inside (found : mod.filter.mutes context.muteKey = some entry)
    (inside : mod.reading engine 0 < entry.mutedUntil) :
    mod.senderMute engine context = some entry := by
  have now : engine.now mod.world.moment < entry.mutedUntil := inside
  rw [senderMute_eq, WordFilter.activeMute, if_neg (by simp [context.muteKey_ne_nil]), found]
  simp [Option.filter, now]

theorem hookBranch_of_inside (active : mod.filter.active = true)
    (checked : context.checked engine.codec = true)
    (found : mod.filter.mutes context.muteKey = some entry)
    (inside : mod.reading engine 0 < entry.mutedUntil) :
    mod.hookBranch engine config context = .muted := by
  rw [hookBranch_eq_muted_iff checked, ← senderMute_isSome_iff,
    senderMute_of_inside found inside]
  exact ⟨active, rfl⟩

theorem mutedAfter_mutedUntil (found : mod.senderMute engine context = some entry) :
    ∀ later ∈ mod.mutedAfter engine context, later.mutedUntil = entry.mutedUntil := by
  have noticed : ∀ later ∈ ((mod.senderMute engine context).filter fun entry =>
      mod.reading engine 1 < entry.mutedUntil).map fun entry =>
        if WordFilter.bannerDue (15 * nanosecondsPerSecond) (mod.reading engine 1) entry then
          { entry with lastNotify := mod.reading engine 1 }
        else entry, later.mutedUntil = entry.mutedUntil := by
    intro later member
    rw [found] at member
    rcases Option.map_eq_some_iff.mp member with ⟨kept, isKept, rfl⟩
    rcases Option.filter_eq_some_iff.mp isKept with ⟨same, -⟩
    cases same
    split <;> rfl
  unfold mutedAfter
  split
  · intro later member
    exact noticed later (Option.filter_eq_some_iff.mp member).1
  · exact noticed

/-- The entry that the muted branch leaves when the mute is still not over. -/
theorem mutedAfter_of_inside (found : mod.senderMute engine context = some entry)
    (first : mod.reading engine 1 < entry.mutedUntil)
    (second : mod.warns engine context = true → mod.reading engine 2 < entry.mutedUntil) :
    mod.mutedAfter engine context =
      some (if mod.warns engine context then { entry with lastNotify := mod.reading engine 1 }
        else entry) := by
  have warns : mod.warns engine context =
      WordFilter.bannerDue (15 * nanosecondsPerSecond) (mod.reading engine 1) entry := by
    simp [Mod.warns, found, Option.filter, first]
  unfold mutedAfter
  cases warned : mod.warns engine context with
  | false =>
      rw [warned] at warns
      simp [found, Option.filter, first, ← warns]
  | true =>
      have inside := second warned
      rw [warned] at warns
      simp [found, Option.filter, first, ← warns, inside]

theorem spaced_of_warns (found : mod.senderMute engine context = some entry)
    (warned : mod.warns engine context = true) (positive : 0 < entry.lastNotify) :
    entry.lastNotify + 15 * nanosecondsPerSecond ≤ mod.reading engine 1 := by
  unfold warns at warned
  rw [found] at warned
  have due : WordFilter.bannerDue (15 * nanosecondsPerSecond) (mod.reading engine 1)
      entry = true := by
    by_cases inside : mod.reading engine 1 < entry.mutedUntil
    · simpa [Option.filter, inside] using warned
    · simp [Option.filter, inside] at warned
  have apart := of_decide_eq_true due
  have notZero : entry.lastNotify ≠ 0 := Int.ne_of_gt positive
  have long : ¬mod.reading engine 1 - entry.lastNotify < 15 * nanosecondsPerSecond :=
    fun short => apart ⟨notZero, short⟩
  exact Int.add_le_of_le_sub_left (Int.not_lt.mp long)

theorem warns_of_hookActions (branch : mod.hookBranch engine config context = .muted)
    (shown : mod.hookActions engine config context ≠ []) :
    mod.warns engine context = true := by
  have active := active_of_hookBranch_eq_muted branch
  have key := HookContext.muteKey_readSender mod.capture context
  have filtered := screened_filter engine mod context
  have moment := screened_moment engine mod context
  rw [checkedAfter] at filtered
  simp only [active, if_true] at filtered moment
  have notified : ((mod.screened engine context).filter.tryConsumeMuteNotify context.muteKey
      (15 * nanosecondsPerSecond) (engine.now (mod.screened engine context).world.moment)).1 =
        mod.warns engine context := by
    rw [WordFilter.tryConsumeMuteNotify_eq context.muteKey_ne_nil, filtered, moment,
      WordFilter.activeMute_setMute context.muteKey_ne_nil]
    rfl
  unfold hookActions at shown
  rw [branch] at shown
  dsimp only [mutedActions] at shown
  rw [key, notified] at shown
  by_contra quiet
  simp [quiet] at shown

end OwnKey

end Mod

/-! ## The mute along a run -/

section Runs

variable (engine : Engine) (config : Config) (key : Bytes) (ends : Nanoseconds)

/-- The time of the banner that a line of the key gets before the end of the mute. -/
def bannerTime (world : World) (input : WorldInput) : Option Nanoseconds :=
  (input.hookCall.filter fun context =>
    context.muteKey = key ∧ world.mod.reading engine 0 < ends ∧
      world.mod.hookActions engine config context ≠ []).map fun _ =>
        world.mod.reading engine 1

def bannerTimes (start : World) (inputs : List WorldInput) : List Nanoseconds :=
  (Execution.trace (World.step engine config) (bannerTime engine config key ends) start
    inputs).filterMap id

def BeforeEnd (world : World) (input : WorldInput) : Prop :=
  ∀ context, input.hookCall = some context → context.muteKey = key →
    context.checked engine.codec = true → world.mod.reading engine 0 < ends

structure MuteState (banners : List Nanoseconds) (mod : Mod) : Prop where
  active : mod.filter.active = true
  spaced : banners.Pairwise fun earlier later =>
    earlier + 15 * nanosecondsPerSecond ≤ later
  held : mod.reading engine 0 < ends → ∃ entry, mod.filter.mutes key = some entry ∧
    entry.mutedUntil = ends ∧ 0 < entry.lastNotify ∧
    ∀ banner ∈ banners, banner ≤ entry.lastNotify

end Runs

section Run

variable {engine : Engine} {config : Config} {key : Bytes} {ends : Nanoseconds}
  {banners : List Nanoseconds} {mod : Mod} {context : HookContext}

namespace MuteState

/-- A step that leaves the entry of the key alone. -/
theorem keep {after : Mod} (clock : engine.SteadyClock)
    (state : MuteState engine key ends banners mod)
    (active : after.filter.active = mod.filter.active)
    (entry : after.filter.mutes key = mod.filter.mutes key)
    (moment : mod.world.moment ≤ after.world.moment) :
    MuteState engine key ends banners after where
  active := by rw [active, state.active]
  spaced := state.spaced
  held inside := by
    rw [entry]
    exact state.held (Int.lt_of_le_of_lt (clock.monotone moment) inside)

/-- A line of the key before the end of the mute. -/
theorem own (clock : engine.SteadyClock) (state : MuteState engine key ends banners mod)
    (checked : context.checked engine.codec = true) (same : context.muteKey = key)
    (before : mod.reading engine 0 < ends) :
    MuteState engine key ends
      (banners ++ if mod.hookActions engine config context ≠ [] then [mod.reading engine 1]
        else [])
      (mod.handleHook engine config context).1 := by
  subst same
  rcases state.held before with ⟨entry, found, rfl, positive, bounded⟩
  have branch : mod.hookBranch engine config context = .muted :=
    Mod.hookBranch_of_inside state.active checked found before
  have muted := Mod.senderMute_of_inside found before
  rcases Mod.handleHook_filter engine config mod context with ⟨filter, moment⟩
  refine ⟨by rw [filter, WordFilter.setMute_active, state.active], ?_, ?_⟩
  · split
    · rename_i shown
      have warned := Mod.warns_of_hookActions branch shown
      have apart := Mod.spaced_of_warns muted warned positive
      rw [List.pairwise_append]
      refine ⟨state.spaced, List.pairwise_singleton _ _, ?_⟩
      intro earlier member later isLast
      rw [List.mem_singleton] at isLast
      have bound := bounded earlier member
      subst isLast
      exact Int.le_trans (Int.add_le_add_right bound _) apart
    · rw [List.append_nil]
      exact state.spaced
  · intro inside
    have reads : mod.clockReads engine config context =
        if mod.warns engine context then 3 else 2 := by
      unfold Mod.clockReads
      rw [branch]
    have since : ∀ count ≤ mod.clockReads engine config context,
        mod.reading engine count ≤
          (mod.handleHook engine config context).1.reading engine 0 := by
      intro count few
      apply clock.monotone
      rw [moment]
      omega
    have first : mod.reading engine 1 < entry.mutedUntil := by
      refine Int.lt_of_le_of_lt (since 1 ?_) inside
      rw [reads]
      split <;> omega
    have second : mod.warns engine context = true →
        mod.reading engine 2 < entry.mutedUntil := by
      intro warned
      refine Int.lt_of_le_of_lt (since 2 ?_) inside
      rw [reads, if_pos warned]
      omega
    have left : (mod.handleHook engine config context).1.filter.mutes context.muteKey =
        some (if mod.warns engine context then { entry with lastNotify := mod.reading engine 1 }
          else entry) := by
      rw [filter, WordFilter.setMute_self, Mod.muteAfter, branch]
      exact Mod.mutedAfter_of_inside muted first second
    cases warned : mod.warns engine context with
    | true =>
        have apart := Mod.spaced_of_warns muted warned positive
        have later : entry.lastNotify ≤ mod.reading engine 1 :=
          Int.le_trans (Int.le_add_of_nonneg_right (by decide)) apart
        rw [warned, if_pos rfl] at left
        refine ⟨_, left, rfl, clock.positive _, ?_⟩
        intro banner member
        rcases List.mem_append.mp member with old | new
        · exact Int.le_trans (bounded banner old) later
        · split at new
          · exact Int.le_of_eq (List.mem_singleton.mp new)
          · cases new
    | false =>
        have quiet : ¬mod.hookActions engine config context ≠ [] := by
          intro shown
          rw [Mod.warns_of_hookActions branch shown] at warned
          cases warned
        rw [warned, if_neg Bool.false_ne_true] at left
        rw [if_neg quiet, List.append_nil]
        exact ⟨entry, left, rfl, positive, bounded⟩

/-- One step of a process. -/
theorem step (clock : engine.SteadyClock) {world : World}
    (state : MuteState engine key ends banners world.mod) (input : WorldInput) :
    MuteState engine key ends
      (banners ++ (bannerTime engine config key ends world input).toList)
      (world.step engine config input).mod := by
  cases call : input.hookCall with
  | none =>
      have elapses : Mod.Elapses world.mod (world.step engine config input).mod :=
        World.step_elapses call
      have noBanner : bannerTime engine config key ends world input = none := by
        simp [bannerTime, call]
      rw [noBanner, Option.toList_none, List.append_nil]
      exact state.keep clock (by rw [elapses.filter]) (by rw [elapses.filter]) elapses.moment
  | some context =>
      rw [World.step_hook call]
      rcases Mod.handleHook_filter engine config world.mod context with ⟨filter, moment⟩
      have active : (world.mod.handleHook engine config context).1.filter.active =
          world.mod.filter.active := by
        rw [filter, WordFilter.setMute_active]
      have elapsed : world.mod.world.moment ≤
          (world.mod.handleHook engine config context).1.world.moment := by
        rw [moment]
        exact Nat.le_add_right _ _
      by_cases own : context.muteKey = key ∧ world.mod.reading engine 0 < ends
      · rcases own with ⟨same, before⟩
        have banner : (bannerTime engine config key ends world input).toList =
            if world.mod.hookActions engine config context ≠ [] then
              [world.mod.reading engine 1] else [] := by
          by_cases quiet : world.mod.hookActions engine config context = [] <;>
            simp [bannerTime, call, same, before, quiet]
        rw [banner]
        cases checked : context.checked engine.codec with
        | true => exact state.own clock checked same before
        | false =>
            have quiet : world.mod.hookActions engine config context = [] := by
              unfold Mod.hookActions
              rcases Mod.hookBranch_of_unchecked checked with branch | ⟨connectCode, branch⟩ <;>
                rw [branch]
            have kept : (world.mod.handleHook engine config context).1.filter =
                world.mod.filter := (Mod.handleHook_of_unchecked checked).1
            rw [if_neg (not_not.mpr quiet), List.append_nil]
            exact state.keep clock active (by rw [kept]) elapsed
      · have noBanner : bannerTime engine config key ends world input = none := by
          simp only [bannerTime, call, Option.map_eq_none_iff, Option.filter_eq_none_iff]
          intro other isContext counted
          cases isContext
          have both := of_decide_eq_true counted
          exact own ⟨both.1, both.2.1⟩
        rw [noBanner, Option.toList_none, List.append_nil]
        by_cases same : context.muteKey = key
        · have late : ¬world.mod.reading engine 0 < ends := fun before => own ⟨same, before⟩
          refine ⟨active.trans state.active, state.spaced, fun inside => absurd ?_ late⟩
          exact Int.lt_of_le_of_lt (clock.monotone elapsed) inside
        · exact state.keep clock active (Mod.handleHook_mutes_other same) elapsed

theorem run (clock : engine.SteadyClock) {start : World} {begins : Nanoseconds}
    (state : MuteState engine key ends [begins] start.mod) (inputs : List WorldInput) :
    MuteState engine key ends
      (begins :: bannerTimes engine config key ends start inputs)
      (World.run engine config start inputs).mod := by
  apply Execution.run_history_invariant fun (inputs : List WorldInput) (world : World) =>
    MuteState engine key ends (begins :: bannerTimes engine config key ends start inputs)
      world.mod
  · exact state
  · intro past input held
    have counted : bannerTimes engine config key ends start (past ++ [input]) =
        bannerTimes engine config key ends start past ++
          (bannerTime engine config key ends (World.run engine config start past)
            input).toList := by
      unfold bannerTimes
      rw [Execution.trace_snoc, List.filterMap_append]
      cases bannerTime engine config key ends (World.run engine config start past) input <;> rfl
    rw [counted, ← List.cons_append]
    exact held.step clock input

end MuteState

/-- The line that starts the mute. -/
theorem muteState_of_hit (clock : engine.SteadyClock) {hit : FilterHit}
    (branch : mod.hookBranch engine config context = .filtered hit)
    (positive : 0 < hit.muteMinutes)
    (fits : mod.reading engine 1 + minutesLong hit.muteMinutes < 2 ^ 63) :
    (mod.handleHook engine config context).1.filter.mutes context.muteKey =
        some
          { mutedUntil := mod.reading engine 1 + minutesLong hit.muteMinutes
            reason := hit.muteMessage
            lastNotify := mod.reading engine 1 } ∧
      MuteState engine context.muteKey (mod.reading engine 1 + minutesLong hit.muteMinutes)
        [mod.reading engine 1] (mod.handleHook engine config context).1 := by
  have filter := (Mod.handleHook_filter engine config mod context).1
  have deadline : muteDeadline hit.muteMinutes (mod.reading engine 1) =
      mod.reading engine 1 + minutesLong hit.muteMinutes :=
    muteDeadline_eq positive (Int.le_of_lt (clock.positive _)) fits
  have entry : (mod.handleHook engine config context).1.filter.mutes context.muteKey =
      some
        { mutedUntil := mod.reading engine 1 + minutesLong hit.muteMinutes
          reason := hit.muteMessage
          lastNotify := mod.reading engine 1 } := by
    rw [filter, WordFilter.setMute_self, Mod.muteAfter, branch, ← deadline]
    exact if_pos positive
  refine ⟨entry, ?_, List.pairwise_singleton _ _, fun inside => ⟨_, entry, rfl, ?_, ?_⟩⟩
  · rw [filter, WordFilter.setMute_active]
    exact Mod.active_of_hookBranch_eq_filtered branch
  · exact clock.positive _
  · intro banner isFirst
    exact Int.le_of_eq (List.mem_singleton.mp isFirst)

/-- While all lines of the key come before the end of the mute, no other mute of the key
is in the table. -/
theorem entry_run (clock : engine.SteadyClock) {start : World} {begins : Nanoseconds}
    (state : MuteState engine key ends [begins] start.mod)
    (first : ∀ entry ∈ start.mod.filter.mutes key, entry.mutedUntil = ends)
    (inputs : List WorldInput)
    (before : Execution.Along (World.step engine config) (BeforeEnd engine key ends) start
      inputs) :
    ∀ entry ∈ (World.run engine config start inputs).mod.filter.mutes key,
      entry.mutedUntil = ends := by
  apply Execution.run_along_invariant (fun (_ : List WorldInput) (world : World) =>
    ∀ entry ∈ world.mod.filter.mutes key, entry.mutedUntil = ends) first _ inputs before
  intro past input allowed holds
  let world := World.run engine config start past
  have here : MuteState engine key ends _ world.mod := state.run clock past
  change ∀ entry ∈ (world.step engine config input).mod.filter.mutes key, _
  cases call : input.hookCall with
  | none =>
      have elapses : Mod.Elapses world.mod (world.step engine config input).mod :=
        World.step_elapses call
      rw [elapses.filter]
      exact holds
  | some context =>
      rw [World.step_hook call]
      by_cases same : context.muteKey = key
      · cases checked : context.checked engine.codec with
        | true =>
            have inside := allowed context call same checked
            subst same
            rcases here.held inside with ⟨entry, found, rfl, -⟩
            have branch : world.mod.hookBranch engine config context = .muted :=
              Mod.hookBranch_of_inside here.active checked found inside
            rw [(Mod.handleHook_filter engine config world.mod context).1,
              WordFilter.setMute_self, Mod.muteAfter, branch]
            exact Mod.mutedAfter_mutedUntil (Mod.senderMute_of_inside found inside)
        | false =>
            rw [(Mod.handleHook_of_unchecked checked).1]
            exact holds
      · rw [Mod.handleHook_mutes_other same]
        exact holds

structure StaysMuted (engine : Engine) (config : Config) (ends : Nanoseconds) (mod : Mod)
    (line : HookContext) : Prop where
  cleared : line.line engine.codec ≠ [] →
    (mod.handleHook engine config line).2 = line.clearMessage
  /-- It is not relayed, neither directly nor later. -/
  outbound : (mod.handleHook engine config line).1.outbound = mod.outbound
  pending : (mod.handleHook engine config line).1.capture.pendingChatRelays =
    mod.capture.pendingChatRelays
  notices : mod.world.inject.AppendsNotices (mod.handleHook engine config line).1.world.inject
  /-- The mute ends when it was to end. -/
  deadline : ∀ later, (mod.handleHook engine config line).1.reading engine 0 ≤ later →
    (((mod.handleHook engine config line).1.filter.isMuted line.muteKey later).1 = true ↔
      later < ends)

theorem MuteState.staysMuted (clock : engine.SteadyClock)
    (state : MuteState engine context.muteKey ends banners mod)
    (noCode : tryParseSetDiscord (context.line engine.codec) = none)
    (before : mod.reading engine 0 < ends) : StaysMuted engine config ends mod context := by
  rcases state.held before with ⟨entry, found, rfl, -⟩
  have inForce : ∀ later, TimedLock.InForce mod.filter.deadlines context.muteKey later ↔
      later < entry.mutedUntil := by
    intro later
    simp [TimedLock.InForce, WordFilter.deadlines, found]
  have muted (after : Mod) (later : Nanoseconds) :
      (after.filter.isMuted context.muteKey later).1 = true ↔
        TimedLock.InForce after.filter.deadlines context.muteKey later := by
    rw [WordFilter.isMuted_fst, WordFilter.activeMute_isSome_iff context.muteKey_ne_nil]
  by_cases empty : context.line engine.codec = []
  · have branch : mod.hookBranch engine config context = .empty := by
      simp [Mod.hookBranch, empty]
    have same : mod.handleHook engine config context = (mod, context) := by
      rw [Mod.handleHook_eq, branch]
    constructor
    · exact fun nonempty => absurd empty nonempty
    · rw [same]
    · rw [same]
    · rw [same]
      exact .refl _
    · intro later reached
      rw [muted, same]
      exact inForce later
  · have checked : context.checked engine.codec = true :=
      Mod.checked_iff.mpr ⟨empty, noCode⟩
    have branch : mod.hookBranch engine config context = .muted :=
      Mod.hookBranch_of_inside state.active checked found before
    have hook : mod.handleHook engine config context =
        ((mod.screened engine context).suppressMuted engine context
          (mod.capture.readSender context), context.clearMessage) := by
      rw [Mod.handleHook_eq, branch]
    rcases Mod.suppressMuted_eq engine (mod.screened engine context) context
      (mod.capture.readSender context) with ⟨filter, moment, inject, -, notices, equal⟩
    have deadline : ∀ later, (mod.handleHook engine config context).1.reading engine 0 ≤ later →
        (((mod.handleHook engine config context).1.filter.isMuted context.muteKey later).1 = true ↔
          later < entry.mutedUntil) := by
      intro later reached
      rw [Mod.reading_handleHook_eq] at reached
      rw [muted, (Mod.handleHook_filter engine config mod context).1,
        WordFilter.inForce_setMute,
        Mod.muteAfter_of_held clock checked ((inForce _).mpr before) reached, inForce]
    refine ⟨?_, ?_, ?_, ?_, deadline⟩
    · intro
      rw [hook]
    · rw [hook, equal]
      exact Mod.screened_outbound
    · rw [hook, equal]
      exact congrArg _ Mod.screened_capture
    · rw [hook, equal]
      rw [Mod.screened_inject] at notices
      exact notices

end Run

/-! ## Main result -/

/-- The life of a mute of a key, that has just begun and is to end then, along a run. -/
structure MuteLifecycle (engine : Engine) (config : Config) (key : Bytes)
    (begins ends : Nanoseconds) (muted : World) (between : List WorldInput) : Prop where
  suppressed : ∀ line : HookContext, line.muteKey = key →
    tryParseSetDiscord (line.line engine.codec) = none →
    (World.run engine config muted between).mod.reading engine 0 < ends →
    StaysMuted engine config ends (World.run engine config muted between).mod line
  spaced : (begins :: bannerTimes engine config key ends muted between).Pairwise
    fun earlier later => earlier + 15 * nanosecondsPerSecond ≤ later
  /-- The first line of the key after the end is treated as if there had been no mute. -/
  ended : Execution.Along (World.step engine config) (BeforeEnd engine key ends) muted between →
    ends ≤ (World.run engine config muted between).mod.reading engine 0 →
    ∀ line : HookContext, line.muteKey = key →
      (World.run engine config muted between).mod.senderMute engine line = none ∧
      (line.checked engine.codec = true →
        (World.run engine config muted between).mod.handleHook engine config line =
          ((World.run engine config muted between).mod.withMute key none).handleHook engine
            config line)
  /-- Lines of other keys do not change the entry, and do the same whatever it is. -/
  others : ∀ (line : HookContext) (entry : Option MuteEntry), line.muteKey ≠ key →
    ((World.run engine config muted between).mod.handleHook engine config
        line).1.filter.mutes key =
      (World.run engine config muted between).mod.filter.mutes key ∧
    ((World.run engine config muted between).mod.withMute key entry).handleHook engine
        config line =
      (((World.run engine config muted between).mod.handleHook engine config
          line).1.withMute key entry,
        ((World.run engine config muted between).mod.handleHook engine config line).2)

/-- From any state: a line that a pattern with minutes takes starts a mute, and the mute
takes its course in every run from there. -/
theorem mute_lifecycle (engine : Engine) (clock : engine.SteadyClock) (config : Config)
    (start : World) (line : HookContext) (hit : FilterHit) (between : List WorldInput)
    (starts : start.mod.hookBranch engine config line = .filtered hit)
    (positive : 0 < hit.muteMinutes)
    (fits : start.mod.reading engine 1 + minutesLong hit.muteMinutes < 2 ^ 63) :
    MuteLifecycle engine config line.muteKey (start.mod.reading engine 1)
      (start.mod.reading engine 1 + minutesLong hit.muteMinutes)
      (start.step engine config (.hook line)) between := by
  rcases muteState_of_hit clock starts positive fits with ⟨entry, begun⟩
  let muted := start.step engine config (.hook line)
  have only : ∀ other ∈ muted.mod.filter.mutes line.muteKey,
      other.mutedUntil = start.mod.reading engine 1 + minutesLong hit.muteMinutes := by
    intro other found
    have same := Option.some.inj (entry.symm.trans found)
    rw [← same]
  have state : MuteState engine line.muteKey _ _ (World.run engine config muted between).mod :=
    .run clock begun between
  constructor
  · intro other same noCode before
    rw [← same] at state
    exact state.staysMuted clock noCode before
  · exact state.spaced
  · intro before past other same
    have kept := entry_run clock begun only between before
    have ended : (World.run engine config muted between).mod.senderMute engine other = none := by
      rw [Mod.senderMute_eq, same, WordFilter.activeMute, if_neg (by simp [line.muteKey_ne_nil]),
        Option.filter_eq_none_iff]
      intro entry found still
      rw [kept entry found] at still
      exact absurd (of_decide_eq_true still) (Int.not_lt.mpr past)
    refine ⟨ended, fun checked => ?_⟩
    rw [← same]
    exact Mod.handleHook_of_ended state.active checked ended
  · intro other entry different
    exact ⟨Mod.handleHook_mutes_other different, Mod.handleHook_withMute different⟩

/-- A mute of five minutes, with another line of the player and a tick meanwhile. -/
theorem mute_lifecycle_spam :
    let start : World := .initial literalRegex mutingConfig 0 []
    MuteLifecycle quietEngine mutingConfig (typedBy 1 (ascii "spam")).muteKey
      (start.mod.reading quietEngine 1) (start.mod.reading quietEngine 1 + minutesLong 5)
      (start.step quietEngine mutingConfig (.hook (typedBy 1 (ascii "spam"))))
      [.hook (typedBy 1 (ascii "hello")), .update] :=
  mute_lifecycle quietEngine quietEngine_steadyClock mutingConfig
    (.initial literalRegex mutingConfig 0 []) (typedBy 1 (ascii "spam"))
    { patternSource := ascii "spam", muteMinutes := 5, muteMessage := [] }
    [.hook (typedBy 1 (ascii "hello")), .update] (by decide +kernel) (by decide) (by decide +kernel)

/-- A blank line of a muted player leaves the hook before the mute check, and is shown. -/
theorem blank_line_shown :
    let start : World := .initial literalRegex mutingConfig 0 []
    let muted := start.step quietEngine mutingConfig (.hook (typedBy 1 (ascii "spam")))
    let blank := typedBy 1 (ascii "  ")
    blank.muteKey = (typedBy 1 (ascii "spam")).muteKey ∧
      tryParseSetDiscord (blank.line quietEngine.codec) = none ∧
      muted.mod.reading quietEngine 0 < start.mod.reading quietEngine 1 + minutesLong 5 ∧
      (muted.mod.filter.isMuted blank.muteKey (muted.mod.reading quietEngine 0)).1 = true ∧
      (muted.mod.handleHook quietEngine mutingConfig blank).2.message = blank.message ∧
      blank.clearMessage.message ≠ blank.message := by
  decide +kernel

end PalCrosschat
