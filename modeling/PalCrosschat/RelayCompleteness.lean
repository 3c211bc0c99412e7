import PalCrosschat.RelaySoundness

/-! # Relay completeness

A Global line that passes every other gate must be handed on unless it looks
like a tagged crosschat line. The loop guard also drops the lines that merely
begin with the letters of a prefix. -/

namespace PalCrosschat

open Bytes (ascii)

/-- The tag with which a line of a prefix begins: the prefix in brackets, or the
prefix itself when it starts with a bracket. -/
def tagOf (configured : Bytes) : Bytes :=
  if configured.head? = some 0x5B then configured else ascii "[" ++ configured ++ ascii "]"

/-- The text is handed on once: one message with it enters the outbound queue,
or one relay with it waits for the display name. -/
def HandedOn (text : Bytes) (before after : Mod) : Prop :=
  (∃ msg : OutboundMessage, msg.message = text ∧
    after.outbound = before.outbound.push msg ∧
    after.journal = before.journal ++ [.outboundPushed msg] ∧
    after.capture.pendingChatRelays = before.capture.pendingChatRelays) ∨
  (∃ pending : PendingChatRelay, pending.message = text ∧
    after.capture.pendingChatRelays = before.capture.pendingChatRelays.push pending ∧
    after.outbound = before.outbound ∧
    after.journal = before.journal ++ [.relayDeferred pending])

/-- The line starts with the bare text of a prefix that needs brackets. -/
def StartsBare (config : Config) (line : Bytes) : Prop :=
  ∃ configured ∈ config.prefixes, configured ≠ [] ∧ configured.head? ≠ some 0x5B ∧
    configured.IsPrefix line

instance (config : Config) (line : Bytes) : Decidable (StartsBare config line) :=
  inferInstanceAs (Decidable (∃ configured ∈ config.prefixes, _))

theorem looksTagged_iff {config : Config} {line : Bytes} :
    LooksTagged config line ↔
      (∃ configured ∈ config.prefixes, configured ≠ [] ∧
        (tagOf configured).IsPrefix line) ∨ StartsBare config line := by
  constructor
  · intro given
    rcases given with ⟨configured, member, nonempty, bare | ⟨noBracket, bracketed⟩⟩
    · by_cases bracket : configured.head? = some 0x5B
      · exact .inl ⟨configured, member, nonempty, by simpa [tagOf, bracket] using bare⟩
      · exact .inr ⟨configured, member, nonempty, bracket, bare⟩
    · exact .inl ⟨configured, member, nonempty, by simpa [tagOf, noBracket] using bracketed⟩
  · intro either
    rcases either with
      ⟨configured, member, nonempty, tagged⟩ | ⟨configured, member, nonempty, -, bare⟩
    · by_cases bracket : configured.head? = some 0x5B
      · exact ⟨configured, member, nonempty, .inl (by simpa [tagOf, bracket] using tagged)⟩
      · refine ⟨configured, member, nonempty, .inr ⟨bracket, ?_⟩⟩
        simpa only [tagOf, if_neg bracket] using tagged
    · exact ⟨configured, member, nonempty, .inl bare⟩

theorem toLower_eq_bang {byte : UInt8} (lowered : Bytes.toLower byte = 0x21) :
    byte = 0x21 := by
  unfold Bytes.toLower at lowered
  split at lowered
  · rename_i upper
    simp only [Bool.and_eq_true, decide_eq_true_eq, UInt8.le_iff_toNat_le] at upper
    have wide : (byte + 0x20).toNat = 0x21 := by rw [lowered]; rfl
    rw [UInt8.toNat_add] at wide
    simp at upper wide
    omega
  · exact lowered

/-- A `!setdiscord` line is a command line. -/
theorem tryParseSetDiscord_of_not_isCommand {line : Bytes}
    (notCommand : isCommand line = false) : tryParseSetDiscord line = none := by
  cases line with
  | nil => rfl
  | cons head tail =>
      have first : Bytes.toLower head ≠ 0x21 := by
        intro lowered
        rw [toLower_eq_bang lowered] at notCommand
        simp [isCommand] at notCommand
      unfold tryParseSetDiscord
      dsimp only
      split
      · rfl
      · split
        · rfl
        · rename_i same
          exfalso
          apply first
          have lowered := congrArg List.head? (Decidable.not_not.mp same)
          exact Option.some.inj lowered

section Branches

variable {engine : Engine} {config : Config} {mod : Mod} {context : HookContext}

theorem handedOn_of_relayed (branch : mod.hookBranch engine config context = .relayed) :
    HandedOn (context.line engine.codec) mod (mod.handleHook engine config context).1 := by
  rw [Mod.handleHook_eq, branch]
  dsimp only
  rw [Mod.relayLine_eq]
  split
  · exact .inl ⟨_, rfl, congrArg (BoundedQueue.push · _) Mod.screened_outbound,
      congrArg (· ++ _) Mod.screened_journal, congrArg _ Mod.screened_capture⟩
  · exact .inr ⟨_, rfl,
      congrArg (fun capture : ChatCapture => capture.pendingChatRelays.push _)
        Mod.screened_capture, Mod.screened_outbound, congrArg (· ++ _) Mod.screened_journal⟩

theorem not_handedOn_of_tagged (branch : mod.hookBranch engine config context = .tagged) :
    ¬HandedOn (context.line engine.codec) mod
      (mod.handleHook engine config context).1 := by
  rw [Mod.handleHook_eq, branch]
  intro either
  rcases either with ⟨msg, -, -, journal, -⟩ | ⟨pending, -, -, -, journal⟩
  · simp at journal
  · simp at journal

end Branches

/-- A line that passes the other gates and is not tagged is handed on exactly
when it does not begin with the bare text of a prefix. -/
theorem handedOn_iff (engine : Engine) (config : Config) (mod : Mod) (context : HookContext)
    (category : context.categoryByte = chatCategoryGlobal)
    (nonempty : context.line engine.codec ≠ [])
    (notCommand : isCommand (context.line engine.codec) = false)
    (noHit : mod.filter.findMatch (context.line engine.codec) = none)
    (notMuted : mod.senderMute engine context = none)
    (untagged : ∀ configured ∈ config.prefixes, configured ≠ [] →
      ¬(tagOf configured).IsPrefix (context.line engine.codec)) :
    HandedOn (context.line engine.codec) mod (mod.handleHook engine config context).1 ↔
      ¬StartsBare config (context.line engine.codec) := by
  have guarded : startsWithAnyPrefix (context.line engine.codec) (loopGuardPrefixes config) =
      true ↔ StartsBare config (context.line engine.codec) := by
    rw [startsWithAnyPrefix_loopGuard_iff, looksTagged_iff]
    constructor
    · intro either
      rcases either with ⟨configured, member, hasText, tagged⟩ | bare
      · exact absurd tagged (untagged configured member hasText)
      · exact bare
    · exact .inr
  have branch := Mod.hookBranch_of_passing config nonempty
    (tryParseSetDiscord_of_not_isCommand notCommand) notMuted noHit notCommand category
  by_cases bare : StartsBare config (context.line engine.codec)
  · rw [if_pos (guarded.mpr bare)] at branch
    exact iff_of_false (not_handedOn_of_tagged branch) (not_not.mpr bare)
  · rw [if_neg (fun guard => bare (guarded.mp guard))] at branch
    exact iff_of_true (handedOn_of_relayed branch) bare

theorem handedOn_greeting :
    HandedOn (ascii "hello") (.initial literalRegex plainConfig)
      ((Mod.initial literalRegex plainConfig).handleHook quietEngine plainConfig
        (typed (ascii "hello"))).1 :=
  (handedOn_iff quietEngine plainConfig (.initial literalRegex plainConfig)
    (typed (ascii "hello")) (by decide) (by decide) (by decide) (by decide) (by decide)
    (by decide)).mpr (by decide)

/-- An ordinary sentence that begins with the letters of the prefix `NA`. -/
theorem narwhals_not_handedOn :
    (typed (ascii "NArwhals!")).categoryByte = chatCategoryGlobal ∧
    isCommand ((typed (ascii "NArwhals!")).line quietEngine.codec) = false ∧
    (Mod.initial literalRegex plainConfig).filter.findMatch
      ((typed (ascii "NArwhals!")).line quietEngine.codec) = none ∧
    (Mod.initial literalRegex plainConfig).senderMute quietEngine
      (typed (ascii "NArwhals!")) = none ∧
    (∀ configured ∈ plainConfig.prefixes, configured ≠ [] →
      ¬(tagOf configured).IsPrefix
        ((typed (ascii "NArwhals!")).line quietEngine.codec)) ∧
    ¬HandedOn ((typed (ascii "NArwhals!")).line quietEngine.codec)
      (.initial literalRegex plainConfig)
      ((Mod.initial literalRegex plainConfig).handleHook quietEngine plainConfig
        (typed (ascii "NArwhals!"))).1 :=
  ⟨by decide, by decide, by decide, by decide, by decide,
    not_handedOn_of_tagged (by decide)⟩

end PalCrosschat
