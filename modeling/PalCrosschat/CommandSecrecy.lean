import PalCrosschat.HookBranches
import PalCrosschat.World

/-! # Secrecy and integrity of command lines

A command must reach the game as typed and its text must stay on the server.
The hook keeps both promises once it knows that the line is a command, but the
mute check and the filter run before that. -/

namespace PalCrosschat

open Bytes (ascii)

def SharesPart (text content : Bytes) : Prop :=
  ∃ part, part ≠ [] ∧ part.IsInfix text ∧ part.IsInfix content

/-- What the hook owes to a command line: the Message parameter stays as it is
and no part of the line is handed to the outbound queue, to a rebroadcast or to
the webhook. -/
structure CommandKept (line : Bytes) (before : Mod) (context : HookContext)
    (after : Mod × HookContext) : Prop where
  message : after.2.message = context.message
  pending : after.1.capture.pendingChatRelays = before.capture.pendingChatRelays
  journal : ∃ added, after.1.journal = before.journal ++ added ∧
    (∀ msg, .outboundPushed msg ∉ added) ∧ (∀ pending, .relayDeferred pending ∉ added) ∧
    ∀ job, .webhookQueued job ∈ added → ¬SharesPart line job.content
  inject : ∃ added, after.1.world.inject.journal = before.world.inject.journal ++ added ∧
    ∀ action, .enqueued action ∈ added → action.kind ≠ .localTagged

section Branches

variable {engine : Engine} {config : Config} {mod : Mod} {context : HookContext}

theorem line_ne_nil_of_isCommand {line : Bytes} (command : isCommand line = true) :
    line ≠ [] := by
  intro equal
  rcases equal with rfl
  simp [isCommand] at command

theorem sharesPart_filterLogContent {line : Bytes} (nonempty : line ≠ [])
    (senderName senderId : Bytes) (hit : FilterHit) :
    SharesPart line (filterLogContent config senderName senderId line hit) := by
  refine ⟨line.take 200, by simpa using nonempty, (List.take_prefix 200 line).isInfix, ?_⟩
  have quoted : (line.take 200).IsInfix (truncateForLog line 200) := by
    unfold truncateForLog
    split
    · exact (List.take_prefix 200 line).isInfix
    · exact (List.prefix_append _ _).isInfix
  refine quoted.trans ?_
  unfold filterLogContent
  exact List.infix_append _ _ _

theorem filterLogContent_ne_nil {senderName senderId message : Bytes} {hit : FilterHit} :
    filterLogContent config senderName senderId message hit ≠ [] := by
  intro isEmpty
  have closingQuote : ascii "`" = [] := (List.append_eq_nil_iff.mp isEmpty).2
  exact absurd closingQuote (by decide)

/-- The branches of a command line, each with its condition. -/
theorem hookBranch_of_isCommand (config : Config) (mod : Mod)
    (command : isCommand (context.line engine.codec) = true)
    (noCode : tryParseSetDiscord (context.line engine.codec) = none) :
    (mod.filter.active = true ∧ (mod.senderMute engine context).isSome = true ∧
      mod.hookBranch engine config context = .muted) ∨
    (mod.filter.active = true ∧ (mod.senderMute engine context).isSome = false ∧
      ∃ hit, mod.filter.findMatch (context.line engine.codec) = some hit ∧
        mod.hookBranch engine config context = .filtered hit) ∨
    ((mod.filter.active = false ∨ (mod.senderMute engine context).isSome = false) ∧
      mod.filter.findMatch (context.line engine.codec) = none ∧
      mod.hookBranch engine config context = .command) := by
  have nonempty := line_ne_nil_of_isCommand command
  have branch : mod.hookBranch engine config context =
      if mod.filter.active && (mod.senderMute engine context).isSome then .muted
      else (mod.filter.findMatch (context.line engine.codec)).elim .command .filtered := by
    simp only [Mod.hookBranch, noCode, Mod.passingBranch, command,
      List.isEmpty_eq_false_iff.mpr nonempty, Bool.false_eq_true, if_false, if_true]
    cases mod.filter.findMatch (context.line engine.codec) <;> rfl
  rw [branch]
  cases active : mod.filter.active with
  | false => simp [WordFilter.findMatch_of_inactive active]
  | true =>
      cases (mod.senderMute engine context).isSome with
      | true => simp
      | false => cases mod.filter.findMatch (context.line engine.codec) <;> simp

theorem commandKept_of_command
    (branch : mod.hookBranch engine config context = .command) :
    CommandKept (context.line engine.codec) mod context
      (mod.handleHook engine config context) := by
  rw [Mod.handleHook_eq, branch]
  exact
    { message := rfl
      pending := by simp
      journal := ⟨[], by simp, by simp, by simp, by simp⟩
      inject := ⟨[], by simp, by simp⟩ }

/-- A muted sender's command is kept unless its Message can be cleared. -/
theorem commandKept_of_muted
    (nonempty : context.line engine.codec ≠ [])
    (branch : mod.hookBranch engine config context = .muted) :
    CommandKept (context.line engine.codec) mod context
        (mod.handleHook engine config context) ↔
      context.message.clearable = false := by
  rcases Mod.suppressMuted_eq engine (mod.screened engine context) context
    (mod.capture.readSender context) with
    ⟨filter, moment, inject, -, notices, suppressed⟩
  rw [Mod.handleHook_eq, branch, ← HookContext.clearMessage_message_eq_iff nonempty]
  constructor
  · exact fun kept => kept.message
  · intro unchanged
    exact
      { message := unchanged
        pending := by simp [suppressed]
        journal := ⟨[], by simp [suppressed], by simp, by simp, by simp⟩
        inject := by simpa [suppressed] using notices.journal }

/-- A command that a pattern matches is kept only when its Message cannot be
cleared and no webhook is set. -/
theorem commandKept_of_filtered {hit : FilterHit}
    (nonempty : context.line engine.codec ≠ [])
    (branch : mod.hookBranch engine config context = .filtered hit) :
    CommandKept (context.line engine.codec) mod context
        (mod.handleHook engine config context) ↔
      context.message.clearable = false ∧ mod.filter.muteLogWebhook = [] := by
  rcases Mod.suppressFiltered_eq engine config (mod.screened engine context) context
    (mod.capture.readSender context) (context.line engine.codec) hit with
    ⟨filter, moment, inject, -, notices, suppressed⟩
  have logged : SharesPart (context.line engine.codec)
      (filterLogContent config (mod.capture.readSender context).name
        (mod.capture.readSender context).id (context.line engine.codec) hit) :=
    sharesPart_filterLogContent nonempty _ _ hit
  rw [Mod.handleHook_eq, branch, ← HookContext.clearMessage_message_eq_iff nonempty]
  dsimp only
  rw [suppressed]
  constructor
  · intro kept
    refine ⟨kept.message, ?_⟩
    by_contra webhookSet
    rcases kept.journal with ⟨added, extends_, -, -, secret⟩
    rw [Mod.enqueueWebhook_journal (by simpa using webhookSet) filterLogContent_ne_nil]
      at extends_
    rw [Mod.screened_journal] at extends_
    have isJob := List.append_cancel_left extends_
    rw [← isJob] at secret
    exact secret _ (List.mem_singleton_self _) logged
  · intro given
    rcases given with ⟨unchanged, noWebhook⟩
    exact
      { message := unchanged
        pending := by simp [Mod.enqueueWebhook, noWebhook]
        journal := ⟨[], by simp [Mod.enqueueWebhook, noWebhook], by simp, by simp, by simp⟩
        inject := by simpa [Mod.enqueueWebhook, noWebhook] using notices.journal }

end Branches

/-- The hook keeps a command exactly when no branch in front of the command gate
takes the line, or when such a branch cannot clear the Message and has no
webhook to log to. -/
theorem commandKept_iff (engine : Engine) (config : Config) (mod : Mod)
    (context : HookContext)
    (command : isCommand (context.line engine.codec) = true)
    (noCode : tryParseSetDiscord (context.line engine.codec) = none) :
    CommandKept (context.line engine.codec) mod context
        (mod.handleHook engine config context) ↔
      mod.filter.active = false ∨
      (if (mod.senderMute engine context).isSome then
        context.message.clearable = false
      else
        mod.filter.findMatch (context.line engine.codec) = none ∨
        context.message.clearable = false ∧ mod.filter.muteLogWebhook = []) := by
  have nonempty := line_ne_nil_of_isCommand command
  rcases hookBranch_of_isCommand config mod command noCode with
    ⟨active, muted, branch⟩ | ⟨active, unmuted, hit, found, branch⟩ | ⟨unmuted, missed, branch⟩
  · rw [commandKept_of_muted nonempty branch]
    simp [active, muted]
  · rw [commandKept_of_filtered nonempty branch]
    simp [active, unmuted, found]
  · have kept := commandKept_of_command branch
    rcases unmuted with inactive | unmuted
    · simp [kept, inactive]
    · simp [kept, unmuted, missed]

/-! ## An administrator's password -/

def secretConfig : Config where
  serverOrigin := ascii "pal-na"
  muteLogWebhook := ascii "webhook"
  filterPatterns := [{ pattern := ascii "2" }]

theorem commandKept_help :
    CommandKept (ascii "/help") (.initial literalRegex secretConfig)
      (typed (ascii "/help"))
      ((Mod.initial literalRegex secretConfig).handleHook quietEngine secretConfig
        (typed (ascii "/help"))) :=
  (commandKept_iff quietEngine secretConfig (.initial literalRegex secretConfig)
    (typed (ascii "/help")) (by decide) (by decide)).mpr (.inr (by decide))

/-- With a pattern for the digit 2 the login command of an administrator is
cleared before the game sees it, and logged with its password. -/
theorem adminPassword_not_kept :
    isCommand ((typed (ascii "/adminpassword hunter2")).line quietEngine.codec) = true ∧
    tryParseSetDiscord
      ((typed (ascii "/adminpassword hunter2")).line quietEngine.codec) = none ∧
    ¬CommandKept ((typed (ascii "/adminpassword hunter2")).line quietEngine.codec)
      (World.run quietEngine secretConfig
        (.initial literalRegex secretConfig 0 []) []).mod
      (typed (ascii "/adminpassword hunter2"))
      ((World.run quietEngine secretConfig
        (.initial literalRegex secretConfig 0 []) []).mod.handleHook quietEngine
          secretConfig (typed (ascii "/adminpassword hunter2"))) := by
  refine ⟨by decide, by decide, fun kept => ?_⟩
  exact absurd kept.message (by decide)

end PalCrosschat
