import PalCrosschat.RelayCompleteness

/-! # What the filter gets to see

The patterns are matched against the sanitized copy of a line, which ends after 512
bytes. The game shows the Message string itself unless the hook clears it. -/

namespace PalCrosschat

open Bytes (ascii)

namespace HookContext

/-- What the game shows of a call: the text of the Message string. -/
def shownText (context : HookContext) : WideText :=
  (context.message.fstring.map RawFString.text).getD []

variable {codec : TextCodec} {context : HookContext}

theorem shownText_clearMessage (clearable : context.message.clearable = true) :
    context.clearMessage.shownText = [] := by
  unfold shownText clearMessage
  rw [MessageParam.fstring_tryClear]
  cases found : context.message.fstring with
  | none => rfl
  | some raw =>
      have sane : raw.saneLayout = true := by simpa [MessageParam.clearable, found] using clearable
      simp [text_truncateMessageInPlace sane]

theorem shownText_ne_nil (nonempty : context.line codec ≠ []) : context.shownText ≠ [] := by
  rcases fstring_of_line_ne_nil nonempty with ⟨raw, found, hasText⟩
  simpa [shownText, found] using hasText

def fullText (codec : TextCodec) (context : HookContext) : Bytes :=
  stripControlAndTrim (context.rawMessage codec)

end HookContext

namespace WordFilter

/-- Some pattern matches the text. -/
def Matches (filter : WordFilter) (text : Bytes) : Prop :=
  ∃ pattern ∈ filter.patterns, pattern.re text = some true

instance (filter : WordFilter) (text : Bytes) : Decidable (filter.Matches text) :=
  inferInstanceAs (Decidable (∃ pattern ∈ filter.patterns, _))

variable {filter : WordFilter} {text : Bytes}

/-- `FindMatch` finds what matches, in a text that is not empty. -/
theorem findMatch_isSome_iff :
    (filter.findMatch text).isSome = true ↔ text ≠ [] ∧ filter.Matches text := by
  unfold findMatch Matches
  by_cases empty : text = []
  · simp [empty]
  · by_cases noPatterns : filter.patterns = []
    · simp [noPatterns]
    · simp [empty, noPatterns]

end WordFilter

namespace Mod

variable {engine : Engine} {config : Config} {mod : Mod} {context : HookContext}

/-- The line is rebroadcast with this server's tag, and cleared for that. -/
def Retagged (engine : Engine) (config : Config) (context : HookContext) : Prop :=
  context.line engine.codec ≠ [] ∧ localTag config context = true ∧
    startsWithAnyPrefix (context.line engine.codec) (loopGuardPrefixes config) = false

instance : Decidable (Retagged engine config context) :=
  inferInstanceAs (Decidable (_ ∧ _ ∧ _))

/-- The call as the game gets it back, for a line that no pattern takes. -/
theorem handleHook_of_noHit (nonempty : context.line engine.codec ≠ [])
    (notCommand : isCommand (context.line engine.codec) = false)
    (unmuted : mod.senderMute engine context = none)
    (noHit : mod.filter.findMatch (context.line engine.codec) = none) :
    (mod.handleHook engine config context).2 =
      if localTag config context = true ∧
          startsWithAnyPrefix (context.line engine.codec) (loopGuardPrefixes config) = false
      then context.clearMessage else context := by
  rw [handleHook_eq, hookBranch_of_noHit nonempty
    (tryParseSetDiscord_of_not_isCommand notCommand) (by simp [unmuted]) noHit]
  simp only [passingBranch, notCommand, Bool.false_eq_true, if_false]
  cases relayed : isRelayedCategory context.categoryByte with
  | false =>
      have untagged : localTag config context = false := by
        cases tag : localTag config context with
        | false => rfl
        | true =>
            have category : context.categoryByte = chatCategoryGlobal := by
              simpa using (Bool.and_eq_true_iff.mp tag).2
            rw [(isRelayedCategory_iff _).mpr category] at relayed
            cases relayed
      simp [untagged]
  | true =>
      cases startsWithAnyPrefix (context.line engine.codec) (loopGuardPrefixes config) with
      | false => simp
      | true => simp

/-- When the hook leaves nothing to show. -/
theorem shownText_handleHook_eq_nil_iff
    (notCommand : isCommand (context.line engine.codec) = false)
    (unmuted : mod.senderMute engine context = none)
    (clearable : context.message.clearable = true) :
    (mod.handleHook engine config context).2.shownText = [] ↔
      context.shownText = [] ∨
        (context.line engine.codec ≠ [] ∧ mod.filter.Matches (context.line engine.codec)) ∨
        Retagged engine config context := by
  have cleared := HookContext.shownText_clearMessage clearable
  by_cases nonempty : context.line engine.codec ≠ []
  · have shown := HookContext.shownText_ne_nil nonempty
    rw [← WordFilter.findMatch_isSome_iff]
    cases hit : mod.filter.findMatch (context.line engine.codec) with
    | some hit =>
        rw [handleHook_eq, hookBranch_of_hit nonempty
          (tryParseSetDiscord_of_not_isCommand notCommand) (by simp [unmuted]) hit]
        simp [cleared]
    | none =>
        rw [handleHook_of_noHit nonempty notCommand unmuted hit]
        unfold Retagged
        split
        · rename_i tagged
          simp [cleared, nonempty, tagged]
        · rename_i untagged
          have none : ¬(none : Option FilterHit).isSome = true := nofun
          constructor
          · exact fun empty => absurd empty shown
          · intro either
            rcases either with empty | matched | ⟨-, tagged⟩
            · exact empty
            · exact absurd matched none
            · exact absurd tagged untagged
  · have empty := not_not.mp nonempty
    have branch : mod.hookBranch engine config context = .empty := by
      simp [hookBranch, empty]
    rw [handleHook_eq, branch]
    simp [empty, Retagged]

/-- What a pattern matches is not shown exactly when the cut copy is matched too, or the
line is not shown anyway. -/
theorem filterReach_iff (notCommand : isCommand (context.line engine.codec) = false)
    (unmuted : mod.senderMute engine context = none)
    (clearable : context.message.clearable = true) :
    (mod.filter.Matches (context.fullText engine.codec) →
        (mod.handleHook engine config context).2.shownText = []) ↔
      ¬mod.filter.Matches (context.fullText engine.codec) ∨ context.shownText = [] ∨
        (context.line engine.codec ≠ [] ∧ mod.filter.Matches (context.line engine.codec)) ∨
        Retagged engine config context := by
  rw [shownText_handleHook_eq_nil_iff notCommand unmuted clearable, imp_iff_not_or]

/-- A server with the pattern `spam$`. -/
def blockingConfig : Config :=
  { plainConfig with filterPatterns := [{ pattern := ascii "spam$" }] }

/-- The compiler on patterns that end with a `$` and have no other special character. -/
def endingRegex : RegexCompiler := fun pattern =>
  some fun text => some (pattern.dropLast.isSuffixOf text)

theorem filterReach_spam :
    let mod : Mod := .initial endingRegex blockingConfig
    let context := typed (ascii "buy spam")
    (mod.filter.Matches (context.fullText quietEngine.codec) →
        (mod.handleHook quietEngine blockingConfig context).2.shownText = []) ↔
      ¬mod.filter.Matches (context.fullText quietEngine.codec) ∨ context.shownText = [] ∨
        (context.line quietEngine.codec ≠ [] ∧
          mod.filter.Matches (context.line quietEngine.codec)) ∨
        Retagged quietEngine blockingConfig context :=
  filterReach_iff (by decide) (by decide) (by decide)

def hiddenSpam : HookContext := typed (List.replicate 512 0x61 ++ ascii " spam")

/-- The filter takes the line for a harmless one, and the game shows all of it. -/
theorem hiddenSpam_shown :
    let mod : Mod := .initial endingRegex blockingConfig
    isCommand (hiddenSpam.line quietEngine.codec) = false ∧
      mod.senderMute quietEngine hiddenSpam = none ∧
      hiddenSpam.message.clearable = true ∧
      (mod.handleHook quietEngine blockingConfig hiddenSpam).2.message = hiddenSpam.message ∧
      ¬(mod.filter.Matches (hiddenSpam.fullText quietEngine.codec) →
        (mod.handleHook quietEngine blockingConfig hiddenSpam).2.shownText = []) := by
  dsimp only
  decide +kernel

end Mod

end PalCrosschat
