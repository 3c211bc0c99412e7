import PalCrosschat.FilterReach
import PalCrosschat.RelayDesk
import PalCrosschat.StackFrame

/-! # The native line behind a tagged rebroadcast

With ShowLocalServerTag the hook clears a Global line and puts a tagged copy in
line. It does so whether or not the clearing succeeds, and clearing refuses layouts
that reading accepts; then the game shows the native line and the copy. -/

namespace PalCrosschat

open Bytes (ascii)

def taggedRelays (journal : List ModEvent) : List PendingChatRelay :=
  journal.filterMap fun
    | .relayDeferred pending => if pending.localTag then some pending else none
    | _ => none

theorem taggedRelays_append (journal added : List ModEvent) :
    taggedRelays (journal ++ added) = taggedRelays journal ++ taggedRelays added :=
  List.filterMap_append

namespace Mod

def Retags (before after : Mod) : Prop :=
  enqueuedLines after.world.inject.journal ≠ enqueuedLines before.world.inject.journal ∨
    taggedRelays after.journal ≠ taggedRelays before.journal

variable (engine : Engine) (config : Config) (mod : Mod) (call : HookCall)

/-- The hook cleared the native Message: `TryClearMessage` succeeded on the frame, what it
left is what the hook leaves, and the game shows nothing of it. -/
structure ClearsNative : Prop where
  cleared : call.tryClearMessage.1 = true
  left : (mod.handleHook engine config call.context).2 = call.tryClearMessage.2.context
  unseen : (mod.handleHook engine config call.context).2.shownText = []

/-- A tagged copy comes in place of the native line. -/
def ReplacesNative : Prop :=
  mod.Retags (mod.handleHook engine config call.context).1 →
    mod.ClearsNative engine config call

section Retags

variable {engine config mod} {context : HookContext}

theorem taggedRelays_handleHook (other : mod.hookBranch engine config context ≠ .relayed) :
    taggedRelays (mod.handleHook engine config context).1.journal = taggedRelays mod.journal := by
  rw [handleHook_eq]
  cases branch : mod.hookBranch engine config context with
  | empty => rfl
  | setDiscord connectCode => rfl
  | muted =>
      rcases suppressMuted_eq engine (mod.screened engine context) context
        (mod.capture.readSender context) with ⟨filter, moment, inject, -, -, equal⟩
      dsimp only
      rw [equal]
      exact congrArg taggedRelays screened_journal
  | filtered hit =>
      rcases suppressFiltered_eq engine config (mod.screened engine context) context
        (mod.capture.readSender context) (context.line engine.codec) hit with
        ⟨filter, moment, inject, -, -, equal⟩
      dsimp only
      rw [equal]
      unfold enqueueWebhook
      split
      · exact congrArg taggedRelays screened_journal
      · dsimp only
        rw [taggedRelays_append, screened_journal]
        exact List.append_nil _
  | command => exact congrArg taggedRelays screened_journal
  | otherCategory => exact congrArg taggedRelays screened_journal
  | tagged => exact congrArg taggedRelays screened_journal
  | relayed => exact absurd branch other

theorem retags_relayLine (config : Config) (mod : Mod) (context : HookContext)
    (sender : Sender) (message : Bytes) :
    mod.Retags (mod.relayLine config context sender message) ↔
      localTag config context = true := by
  unfold relayLine Retags
  cases known : sender.haveDisplayName with
  | false =>
      cases tag : localTag config context with
      | false =>
          simp [deferRelay, taggedRelays, pendingRelay, tag]
      | true => simp [deferRelay, taggedRelays, pendingRelay, tag]
  | true =>
      cases tag : localTag config context with
      | false => simp [pushOutbound, taggedRelays]
      | true =>
          simp [pushOutbound, taggedRelays, updateInject, ChatInject.enqueueLocalTagged,
            ChatInject.enqueue, ChatInject.note, enqueuedLines]

theorem localTag_of_relayed (branch : mod.hookBranch engine config context = .relayed) :
    localTag config context = config.showLocalServerTag := by
  rcases hookBranch_eq_relayed_iff.mp branch with ⟨-, -, -, -, -, category, -⟩
  simp [localTag, category]

theorem retags_handleHook :
    mod.Retags (mod.handleHook engine config context).1 ↔
      mod.hookBranch engine config context = .relayed ∧ localTag config context = true := by
  by_cases branch : mod.hookBranch engine config context = .relayed
  · have relayed : (mod.handleHook engine config context).1 =
        (mod.screened engine context).relayLine config context
          (mod.capture.readSender context) (context.line engine.codec) := by
      rw [handleHook_eq, branch]
    rw [relayed, ← retags_relayLine config (mod.screened engine context) context
      (mod.capture.readSender context) (context.line engine.codec)]
    simp [Retags, branch]
  · have aside := handleHook_aside branch
    simp [Retags, branch, aside.lines, taggedRelays_handleHook branch]

end Retags

/-- The tagged copy replaces the native line if and only if the layout of the Message
string allows the truncation, or the line is not relayed, or local tags are off. -/
theorem replacesNative_iff :
    mod.ReplacesNative engine config call ↔
      (config.showLocalServerTag = true →
        mod.hookBranch engine config call.context = .relayed →
        call.context.message.clearable = true) := by
  unfold ReplacesNative
  rw [retags_handleHook]
  constructor
  · intro replaces tagging branch
    have tag : localTag config call.context = true :=
      (localTag_of_relayed branch).trans tagging
    have cleared := (replaces ⟨branch, tag⟩).cleared
    rw [call.tryClearMessage_eq.1, MessageParam.tryClear_fst] at cleared
    exact cleared
  · intro clears relayed
    rcases relayed with ⟨branch, tag⟩
    have clearable := clears ((localTag_of_relayed branch).symm.trans tag) branch
    have left : (mod.handleHook engine config call.context).2 = call.context.clearMessage := by
      rw [handleHook_eq, branch]
      exact if_pos tag
    constructor
    · rw [call.tryClearMessage_eq.1, MessageParam.tryClear_fst]
      exact clearable
    · rw [left, call.tryClearMessage_eq.2]
    · rw [left]
      exact HookContext.shownText_clearMessage clearable

/-- A call whose Message reads `hi` from a buffer of more than 0x100000 characters. -/
def wideBuffer : HookCall where
  stack :=
    { outParms := [{
        property := some
          { name := ascii "Message", referenceOrOutParm := true, valuePtr := some }
        propAddr := some 0 }]
      node := some { properties := [{ name := ascii "Category", valuePtr := some }] }
      locals := some 1 }
  memory :=
    { fstring := fun _ => { data := some [0x68, 0x69, 0], num := 3, max := 0x100001 }
      pointer := fun _ => none
      byte := fun _ => chatCategoryGlobal }

/-- The hook puts a tagged copy in line and the native line stays. -/
theorem replacesNative_fails :
    ¬(Mod.initial literalRegex taggingConfig).ReplacesNative quietEngine taggingConfig
      wideBuffer := by
  intro replaces
  have retags : (Mod.initial literalRegex taggingConfig).Retags
      ((Mod.initial literalRegex taggingConfig).handleHook quietEngine taggingConfig
        wideBuffer.context).1 := by
    right
    decide +kernel
  have stuck : wideBuffer.tryClearMessage.1 = false := by decide
  exact absurd (replaces retags).cleared (by simp [stuck])

end Mod

end PalCrosschat
