import PalCrosschat.ChatCapture

/-! # The branches of the chat hook

`handleHook` sends every line down one of eight branches. The branch is a
function of the state and the parameters before the call, and `handleHook_eq`
says once what each branch does; the theorems about the hook start from it. -/

namespace PalCrosschat

inductive HookBranch
  | empty
  | setDiscord (connectCode : Bytes)
  | muted
  | filtered (hit : FilterHit)
  | command
  | otherCategory
  | tagged
  | relayed
deriving DecidableEq, Repr

namespace Mod

variable (engine : Engine) (config : Config) (mod : Mod) (context : HookContext)

def senderMute : Option MuteEntry :=
  mod.filter.activeMute (mod.capture.readSender context).muteKey
    (engine.now mod.world.moment)

def passingBranch : HookBranch :=
  if isCommand (context.line engine.codec) then .command
  else if !isRelayedCategory context.categoryByte then .otherCategory
  else if startsWithAnyPrefix (context.line engine.codec) (loopGuardPrefixes config) then
    .tagged
  else .relayed

def hookBranch : HookBranch :=
  if (context.line engine.codec).isEmpty then .empty
  else
    match tryParseSetDiscord (context.line engine.codec) with
    | some connectCode => .setDiscord connectCode
    | none =>
        if mod.filter.active && (mod.senderMute engine context).isSome then .muted
        else
          match mod.filter.findMatch (context.line engine.codec) with
          | some hit => .filtered hit
          | none => passingBranch engine config context

def screened : Mod :=
  ((mod.rememberSender context).filterVerdict engine
    (mod.capture.readSender context).muteKey (context.line engine.codec)).2

/-! ## Screening -/

theorem filterVerdict_snd (muteKey message : Bytes) :
    (mod.filterVerdict engine muteKey message).2 =
      if mod.filter.active then
        { mod with
          filter := (mod.filter.isMuted muteKey (engine.now mod.world.moment)).2
          world := { mod.world with moment := mod.world.moment + 1 } }
      else mod := by
  unfold filterVerdict
  split
  · dsimp only [ask]
    split
    · rfl
    · split <;> rfl
  · rfl

theorem filterVerdict_fst (muteKey message : Bytes) :
    (mod.filterVerdict engine muteKey message).1 =
      if mod.filter.active &&
          (mod.filter.activeMute muteKey (engine.now mod.world.moment)).isSome then .muted
      else
        match mod.filter.findMatch message with
        | some hit => .hit hit
        | none => .pass := by
  have kept : (mod.filter.isMuted muteKey (engine.now mod.world.moment)).2.findMatch
      message = mod.filter.findMatch message :=
    WordFilter.findMatch_congr (WordFilter.isMuted_patterns _ _ _) message
  unfold filterVerdict
  cases active : mod.filter.active with
  | false => simp [WordFilter.findMatch_of_inactive active]
  | true =>
      simp only [ask, Bool.true_and, if_true, kept, WordFilter.isMuted_fst]
      split
      · rfl
      · cases mod.filter.findMatch message <;> rfl

theorem rememberSender_eq :
    ∃ audience, mod.rememberSender context =
      { mod with world := { mod.world with audience } } := by
  unfold rememberSender
  split
  · exact ⟨mod.world.audience, rfl⟩
  · exact ⟨_, rfl⟩

/-- Screening touches the roster, the clock and expired mutes only. -/
theorem screened_eq :
    ∃ filter audience moment, mod.screened engine context =
      { mod with filter, world := { mod.world with audience, moment } } ∧
      filter.patterns = mod.filter.patterns ∧
      filter.muteLogWebhook = mod.filter.muteLogWebhook ∧
      (mod.filter.active = false → filter = mod.filter) := by
  rcases mod.rememberSender_eq context with ⟨audience, remembered⟩
  unfold screened
  rw [remembered, filterVerdict_snd]
  split
  · rename_i active
    exact ⟨_, audience, mod.world.moment + 1, rfl, WordFilter.isMuted_patterns _ _ _,
      WordFilter.isMuted_muteLogWebhook _ _ _,
      fun inactive => absurd (active.symm.trans inactive) (by simp)⟩
  · exact ⟨mod.filter, audience, mod.world.moment, rfl, rfl, rfl, fun _ => rfl⟩

section Screened

variable {engine mod context}

@[simp] theorem screened_capture : (mod.screened engine context).capture = mod.capture := by
  rcases screened_eq engine mod context with ⟨filter, audience, moment, equal, -⟩
  rw [equal]

@[simp] theorem screened_outbound :
    (mod.screened engine context).outbound = mod.outbound := by
  rcases screened_eq engine mod context with ⟨filter, audience, moment, equal, -⟩
  rw [equal]

@[simp] theorem screened_webhook : (mod.screened engine context).webhook = mod.webhook := by
  rcases screened_eq engine mod context with ⟨filter, audience, moment, equal, -⟩
  rw [equal]

@[simp] theorem screened_journal : (mod.screened engine context).journal = mod.journal := by
  rcases screened_eq engine mod context with ⟨filter, audience, moment, equal, -⟩
  rw [equal]

@[simp] theorem screened_inject :
    (mod.screened engine context).world.inject = mod.world.inject := by
  rcases screened_eq engine mod context with ⟨filter, audience, moment, equal, -⟩
  rw [equal]

@[simp] theorem screened_patterns :
    (mod.screened engine context).filter.patterns = mod.filter.patterns := by
  rcases screened_eq engine mod context with ⟨filter, audience, moment, equal, kept, -⟩
  rw [equal]
  exact kept

@[simp] theorem screened_muteLogWebhook :
    (mod.screened engine context).filter.muteLogWebhook = mod.filter.muteLogWebhook := by
  rcases screened_eq engine mod context with ⟨filter, audience, moment, equal, -, kept, -⟩
  rw [equal]
  exact kept

end Screened

/-! ## The hook by branches -/

/-- The branch of a line that is neither empty nor a `!setdiscord`, by the
verdict of the filter block. -/
theorem hookBranch_of_verdict
    (nonempty : (context.line engine.codec).isEmpty = false)
    (noCode : tryParseSetDiscord (context.line engine.codec) = none) :
    mod.hookBranch engine config context =
      match ((mod.rememberSender context).filterVerdict engine
        (mod.capture.readSender context).muteKey (context.line engine.codec)).1 with
      | .muted => .muted
      | .hit hit => .filtered hit
      | .pass => passingBranch engine config context := by
  rcases mod.rememberSender_eq context with ⟨audience, remembered⟩
  have verdict : ((mod.rememberSender context).filterVerdict engine
      (mod.capture.readSender context).muteKey (context.line engine.codec)).1 =
      if mod.filter.active && (mod.senderMute engine context).isSome then .muted
      else
        match mod.filter.findMatch (context.line engine.codec) with
        | some hit => .hit hit
        | none => .pass := by
    rw [filterVerdict_fst, remembered]
    rfl
  rw [verdict]
  simp only [hookBranch, nonempty, noCode, Bool.false_eq_true, if_false]
  split
  · rfl
  · cases mod.filter.findMatch (context.line engine.codec) <;> rfl

/-- What the hook does, branch by branch. -/
theorem handleHook_eq :
    mod.handleHook engine config context =
      match mod.hookBranch engine config context with
      | .empty => (mod, context)
      | .setDiscord connectCode =>
          (mod.acceptSetDiscord context connectCode, context.clearMessage)
      | .muted =>
          ((mod.screened engine context).suppressMuted engine context
            (mod.capture.readSender context), context.clearMessage)
      | .filtered hit =>
          ((mod.screened engine context).suppressFiltered engine config context
            (mod.capture.readSender context) (context.line engine.codec) hit,
            context.clearMessage)
      | .command =>
          (mod.screened engine context, context.setCategory chatCategoryNone)
      | .otherCategory | .tagged => (mod.screened engine context, context)
      | .relayed =>
          ((mod.screened engine context).relayLine config context
            (mod.capture.readSender context) (context.line engine.codec),
            if localTag config context then context.clearMessage else context) := by
  cases nonempty : (context.line engine.codec).isEmpty with
  | true => simp [handleHook, hookBranch, nonempty]
  | false =>
      cases noCode : tryParseSetDiscord (context.line engine.codec) with
      | some connectCode => simp [handleHook, hookBranch, nonempty, noCode]
      | none =>
          rw [hookBranch_of_verdict engine config mod context nonempty noCode]
          simp only [handleHook, screened, nonempty, noCode, Bool.false_eq_true, if_false]
          generalize (mod.rememberSender context).filterVerdict engine
            (mod.capture.readSender context).muteKey (context.line engine.codec) = outcome
          rcases outcome with ⟨verdict, screened⟩
          cases verdict with
          | muted => rfl
          | hit hit => rfl
          | pass =>
              simp only [passingBranch]
              split
              · rfl
              · split
                · rfl
                · split <;> rfl

/-! ## Single branches -/

section Branches

variable {engine config mod context}

/-- The gates a relayed line has passed. -/
theorem hookBranch_eq_relayed_iff :
    mod.hookBranch engine config context = .relayed ↔
      context.line engine.codec ≠ [] ∧
      tryParseSetDiscord (context.line engine.codec) = none ∧
      (mod.filter.active && (mod.senderMute engine context).isSome) = false ∧
      mod.filter.findMatch (context.line engine.codec) = none ∧
      isCommand (context.line engine.codec) = false ∧
      context.categoryByte = chatCategoryGlobal ∧
      startsWithAnyPrefix (context.line engine.codec) (loopGuardPrefixes config) =
        false := by
  have passes : passingBranch engine config context = .relayed ↔
      isCommand (context.line engine.codec) = false ∧
      context.categoryByte = chatCategoryGlobal ∧
      startsWithAnyPrefix (context.line engine.codec) (loopGuardPrefixes config) =
        false := by
    rw [← isRelayedCategory_iff]
    unfold passingBranch
    cases isCommand (context.line engine.codec) <;>
      cases isRelayedCategory context.categoryByte <;>
      cases startsWithAnyPrefix (context.line engine.codec) (loopGuardPrefixes config) <;>
      simp
  rw [← passes]
  unfold hookBranch
  cases context.line engine.codec with
  | nil => simp
  | cons head tail =>
      cases tryParseSetDiscord (head :: tail) with
      | some connectCode => simp
      | none =>
          cases mod.filter.active && (mod.senderMute engine context).isSome with
          | true => simp
          | false => cases mod.filter.findMatch (head :: tail) <;> simp

/-- The branch of a line that only the loop guard can still take. -/
theorem hookBranch_of_passing (config : Config) (nonempty : context.line engine.codec ≠ [])
    (noCode : tryParseSetDiscord (context.line engine.codec) = none)
    (notMuted : mod.senderMute engine context = none)
    (noHit : mod.filter.findMatch (context.line engine.codec) = none)
    (notCommand : isCommand (context.line engine.codec) = false)
    (category : context.categoryByte = chatCategoryGlobal) :
    mod.hookBranch engine config context =
      if startsWithAnyPrefix (context.line engine.codec) (loopGuardPrefixes config) then
        .tagged
      else .relayed := by
  simp only [hookBranch, List.isEmpty_eq_false_iff.mpr nonempty, noCode, notMuted, noHit,
    passingBranch, notCommand, (isRelayedCategory_iff _).mpr category, Option.isSome_none,
    Bool.and_false, Bool.not_true, Bool.false_eq_true, if_false]

section Unmuted

variable (nonempty : context.line engine.codec ≠ [])
  (noCode : tryParseSetDiscord (context.line engine.codec) = none)
  (unmuted : (mod.filter.active && (mod.senderMute engine context).isSome) = false)
include nonempty noCode unmuted

theorem hookBranch_of_hit {hit : FilterHit}
    (found : mod.filter.findMatch (context.line engine.codec) = some hit) :
    mod.hookBranch engine config context = .filtered hit := by
  simp only [hookBranch, List.isEmpty_eq_false_iff.mpr nonempty, noCode, unmuted, found,
    Bool.false_eq_true, if_false]

theorem hookBranch_of_noHit
    (noHit : mod.filter.findMatch (context.line engine.codec) = none) :
    mod.hookBranch engine config context = passingBranch engine config context := by
  simp only [hookBranch, List.isEmpty_eq_false_iff.mpr nonempty, noCode, unmuted, noHit,
    Bool.false_eq_true, if_false]

end Unmuted

theorem passingBranch_cases (engine : Engine) (config : Config) (context : HookContext) :
    passingBranch engine config context ∈
      [HookBranch.command, .otherCategory, .tagged, .relayed] := by
  unfold passingBranch
  split
  · simp
  · split
    · simp
    · split <;> simp

theorem hookBranch_of_inactive (inactive : mod.filter.active = false) :
    mod.hookBranch engine config context ≠ .muted ∧
      ∀ hit, mod.hookBranch engine config context ≠ .filtered hit := by
  simp only [hookBranch, passingBranch, inactive, Bool.false_and, Bool.false_eq_true, if_false,
    WordFilter.findMatch_of_inactive inactive]
  repeat' split
  all_goals exact ⟨by simp, by simp⟩

theorem active_of_hookBranch_eq_muted
    (branch : mod.hookBranch engine config context = .muted) :
    mod.filter.active = true := by
  cases active : mod.filter.active with
  | true => rfl
  | false => exact absurd branch (hookBranch_of_inactive active).1

theorem active_of_hookBranch_eq_filtered {hit : FilterHit}
    (branch : mod.hookBranch engine config context = .filtered hit) :
    mod.filter.active = true := by
  cases active : mod.filter.active with
  | true => rfl
  | false => exact absurd branch ((hookBranch_of_inactive active).2 hit)

end Branches

/-! ## Banners -/

theorem showMuteBanner_eq (sender : Sender) (banner : Bytes) :
    ∃ inject, mod.world.inject.AppendsNotices inject ∧
      mod.showMuteBanner context sender banner =
        { mod with world := { mod.world with inject } } := by
  refine ⟨_, ?_, rfl⟩
  refine ChatInject.AppendsNotices.trans ?_ (.enqueueScreenLog _ _ _)
  split
  · exact .refl _
  · exact .enqueuePrivateChat _ _ _

/-- A muted line changes the mutes, the clock and the notices. -/
theorem suppressMuted_eq (sender : Sender) :
    ∃ filter moment inject, filter.patterns = mod.filter.patterns ∧
      mod.world.inject.AppendsNotices inject ∧
      mod.suppressMuted engine context sender =
        { mod with filter, world := { mod.world with moment, inject } } := by
  simp only [suppressMuted, ask]
  by_cases notify : (mod.filter.tryConsumeMuteNotify sender.muteKey
      (15 * nanosecondsPerSecond) (engine.now mod.world.moment)).1 = true
  · simp only [notify, if_true]
    rcases showMuteBanner_eq _ context sender _ with ⟨inject, notices, equal⟩
    rw [equal]
    exact ⟨_, _, inject, by simp, notices, rfl⟩
  · simp only [notify, Bool.false_eq_true, if_false]
    exact ⟨_, _, _, WordFilter.tryConsumeMuteNotify_patterns _ _ _ _, .refl _, rfl⟩

theorem enqueueWebhook_journal {mod : Mod} {webhookUrl content : Bytes}
    (url : webhookUrl ≠ []) (text : content ≠ []) :
    (mod.enqueueWebhook webhookUrl content).journal =
      mod.journal ++ [.webhookQueued { webhookUrl, content }] := by
  simp [enqueueWebhook, url, text]

theorem muteSender_eq (sender : Sender) (hit : FilterHit) :
    ∃ filter moment, filter.patterns = mod.filter.patterns ∧
      filter.muteLogWebhook = mod.filter.muteLogWebhook ∧
      mod.muteSender engine sender hit =
        { mod with filter, world := { mod.world with moment } } := by
  unfold muteSender
  split
  · exact ⟨_, _, WordFilter.mute_patterns _ _ _ _ _,
      WordFilter.mute_muteLogWebhook _ _ _ _ _, rfl⟩
  · exact ⟨_, _, rfl, rfl, rfl⟩

/-- A filter hit changes the mutes, the clock and the notices, and logs the line
when a webhook is set. -/
theorem suppressFiltered_eq (sender : Sender) (message : Bytes) (hit : FilterHit) :
    ∃ filter moment inject, filter.patterns = mod.filter.patterns ∧
      mod.world.inject.AppendsNotices inject ∧
      mod.suppressFiltered engine config context sender message hit =
        Mod.enqueueWebhook
          { mod with filter, world := { mod.world with moment, inject } }
          mod.filter.muteLogWebhook
          (filterLogContent config sender.name sender.id message hit) := by
  rcases muteSender_eq engine mod sender hit with
    ⟨filter, moment, patterns, webhook, muted⟩
  rcases showMuteBanner_eq (mod.muteSender engine sender hit) context sender
    (initialMuteBanner (mod.muteSender engine sender hit).filter hit) with
    ⟨inject, notices, shown⟩
  rw [muted] at notices
  refine ⟨filter, moment, inject, patterns, notices, ?_⟩
  simp only [suppressFiltered, shown]
  rw [muted]
  simp only [webhook]
  split
  · rename_i noWebhook
    simp [enqueueWebhook, noWebhook]
  · rfl

end Mod

end PalCrosschat
