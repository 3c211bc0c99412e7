import PalCrosschat.Callbacks
import PalCrosschat.HookBranches

/-! # The grammar of `!setdiscord CODE`

The scanner of `TryParseSetDiscord` skips the white space between the command
and the code and does not ask whether there was any. -/

namespace PalCrosschat

open Bytes (ascii)

structure SetDiscordParts (message gap code : Bytes) : Prop where
  split : ∃ word rest, message = word ++ (gap ++ (code ++ rest)) ∧
    word.map Bytes.toLower = ascii "!setdiscord" ∧ rest.head?.all Bytes.isSpace = true
  gap : ∀ byte ∈ gap, Bytes.isSpace byte = true
  solid : ∀ byte ∈ code, Bytes.isSpace byte = false
  nonempty : code ≠ []

def SetDiscordLine (message code : Bytes) : Prop :=
  ∃ gap, gap ≠ [] ∧ SetDiscordParts message gap code

/-- The command is the beginning of a longer word. -/
def LongerCommandWord (message : Bytes) : Prop :=
  ∃ word byte rest, message = word ++ byte :: rest ∧
    word.map Bytes.toLower = ascii "!setdiscord" ∧ Bytes.isSpace byte = false

/-- The scanner and the hook follow the grammar on this message. -/
structure FollowsGrammar (message : Bytes) : Prop where
  accepts : ∀ code, tryParseSetDiscord message = some code ↔ SetDiscordLine message code
  taken : ∀ (engine : Engine) (config : Config) (mod : Mod) (context : HookContext),
    context.line engine.codec = message →
      ∀ code, mod.hookBranch engine config context = .setDiscord code ↔
        SetDiscordLine message code
  leftAlone : ∀ (engine : Engine) (config : Config) (mod : Mod) (context : HookContext),
    context.line engine.codec = message → (∀ code, ¬SetDiscordLine message code) →
      (mod.handleHook engine config context).1.capture.pendingSetDiscord =
        mod.capture.pendingSetDiscord

/-! ## The scanner -/

section Scanner

variable {message word tail gap code : Bytes}

theorem tryParseSetDiscord_of_word (command : word.map Bytes.toLower = ascii "!setdiscord") :
    tryParseSetDiscord (word ++ tail) =
      if (tail.dropWhile Bytes.isSpace).isEmpty then none
      else some ((tail.dropWhile Bytes.isSpace).takeWhile fun byte => !Bytes.isSpace byte) := by
  have length : word.length = (ascii "!setdiscord").length := by
    rw [← command, List.length_map]
  rw [tryParseSetDiscord]
  dsimp only
  rw [if_neg (by rw [List.length_append, length]; omega), ← length, List.take_left,
    List.drop_left, if_neg (by simpa using command)]

theorem word_of_tryParseSetDiscord (accepted : tryParseSetDiscord message = some code) :
    ∃ word tail, message = word ++ tail ∧ word.map Bytes.toLower = ascii "!setdiscord" := by
  rw [tryParseSetDiscord] at accepted
  dsimp only at accepted
  split at accepted
  · cases accepted
  · split at accepted
    · cases accepted
    · rename_i command
      exact ⟨_, _, (List.take_append_drop _ _).symm, Decidable.not_not.mp command⟩

theorem head?_dropWhile_all (holds : UInt8 → Bool) (text : Bytes) :
    (text.dropWhile holds).head?.all (fun byte => !holds byte) = true := by
  induction text with
  | nil => rfl
  | cons byte rest induction =>
      cases skipped : holds byte with
      | true => rwa [List.dropWhile_cons_of_pos skipped]
      | false => simp [skipped]

theorem takeWhile_of_boundary {holds : UInt8 → Bool} {front rest : Bytes}
    (inside : ∀ byte ∈ front, holds byte = true)
    (boundary : rest.head?.all (fun byte => !holds byte) = true) :
    (front ++ rest).takeWhile holds = front ∧ (front ++ rest).dropWhile holds = rest := by
  rw [List.takeWhile_append_of_pos inside, List.dropWhile_append_of_pos inside]
  cases rest with
  | nil => simp
  | cons byte tail =>
      have stops : holds byte = false := by simpa using boundary
      simp [stops]

theorem tryParseSetDiscord_eq_some_iff :
    tryParseSetDiscord message = some code ↔ ∃ gap, SetDiscordParts message gap code := by
  constructor
  · intro accepted
    rcases word_of_tryParseSetDiscord accepted with ⟨word, tail, rfl, command⟩
    rw [tryParseSetDiscord_of_word command] at accepted
    split at accepted
    · cases accepted
    · rename_i something
      rw [Option.some.injEq] at accepted
      have boundary := head?_dropWhile_all (fun byte => !Bytes.isSpace byte)
        (tail.dropWhile Bytes.isSpace)
      simp only [Bool.not_not] at boundary
      refine ⟨tail.takeWhile Bytes.isSpace, ⟨word, _, ?_, command, boundary⟩, ?_, ?_, ?_⟩
      · rw [← accepted, List.takeWhile_append_dropWhile, List.takeWhile_append_dropWhile]
      · exact fun byte member => List.mem_takeWhile_imp member
      · intro byte member
        rw [← accepted] at member
        simpa using List.mem_takeWhile_imp member
      · have starts := head?_dropWhile_all Bytes.isSpace tail
        rw [← accepted]
        cases onward : tail.dropWhile Bytes.isSpace with
        | nil => simp [onward] at something
        | cons byte rest =>
            rw [onward] at starts
            simp only [List.head?_cons, Option.all_some] at starts
            simp [starts]
  · rintro ⟨gap, ⟨⟨word, rest, rfl, command, ends⟩, blank, solid, nonempty⟩⟩
    have starts : (code ++ rest).head?.all (fun byte => !Bytes.isSpace byte) = true := by
      cases code with
      | nil => exact absurd rfl nonempty
      | cons byte bytes => simp [solid byte List.mem_cons_self]
    have skipped := (takeWhile_of_boundary blank starts).2
    have taken : (code ++ rest).takeWhile (fun byte => !Bytes.isSpace byte) = code :=
      (takeWhile_of_boundary (fun byte member => by simp [solid byte member])
        (by simpa using ends)).1
    rw [tryParseSetDiscord_of_word command, skipped, taken]
    simp [nonempty]

/-- The blanks behind the command are determined by the message. -/
theorem SetDiscordParts.unique {otherGap otherCode : Bytes}
    (parts : SetDiscordParts message gap code)
    (other : SetDiscordParts message otherGap otherCode) : gap = otherGap := by
  have blanks : ∀ {gap code : Bytes}, SetDiscordParts message gap code →
      gap = (message.drop (ascii "!setdiscord").length).takeWhile Bytes.isSpace := by
    rintro gap code ⟨⟨word, rest, rfl, command, -⟩, blank, solid, nonempty⟩
    have length : word.length = (ascii "!setdiscord").length := by
      rw [← command, List.length_map]
    rw [← length, List.drop_left]
    cases code with
    | nil => exact absurd rfl nonempty
    | cons byte bytes =>
        exact (takeWhile_of_boundary blank
          (by simp [solid byte List.mem_cons_self])).1.symm
  rw [blanks parts, blanks other]

theorem longerCommandWord_iff :
    LongerCommandWord message ↔ ∃ code, SetDiscordParts message [] code := by
  constructor
  · rintro ⟨word, byte, rest, rfl, command, solid⟩
    have skipped : (byte :: rest).dropWhile Bytes.isSpace = byte :: rest := by
      rw [List.dropWhile_cons_of_neg (by simp [solid])]
    have accepted : tryParseSetDiscord (word ++ byte :: rest) = _ :=
      tryParseSetDiscord_of_word command
    rw [skipped, if_neg (by simp)] at accepted
    rcases tryParseSetDiscord_eq_some_iff.mp accepted with ⟨gap, parts⟩
    have none : gap = [] := by
      rcases parts with ⟨⟨other, behind, split, otherCommand, -⟩, blank, -, -⟩
      have lengths : word.length = other.length := by
        rw [← List.length_map Bytes.toLower, command, ← otherCommand, List.length_map]
      have same := (List.append_inj split lengths).2
      cases gap with
      | nil => rfl
      | cons first more =>
          have isFirst : byte = first := (List.cons.inj same).1
          have isBlank := blank first List.mem_cons_self
          rw [← isFirst, solid] at isBlank
          cases isBlank
    rw [none] at parts
    exact ⟨_, parts⟩
  · rintro ⟨code, ⟨⟨word, rest, rfl, command, -⟩, -, solid, nonempty⟩⟩
    cases code with
    | nil => exact absurd rfl nonempty
    | cons byte bytes =>
        exact ⟨word, byte, bytes ++ rest, rfl, command, solid byte List.mem_cons_self⟩

theorem accepts_iff :
    (∀ code, tryParseSetDiscord message = some code ↔ SetDiscordLine message code) ↔
      ¬LongerCommandWord message := by
  constructor
  · intro accepts longer
    rcases longerCommandWord_iff.mp longer with ⟨code, parts⟩
    rcases (accepts code).mp (tryParseSetDiscord_eq_some_iff.mpr ⟨[], parts⟩) with
      ⟨gap, blanks, otherParts⟩
    exact blanks (otherParts.unique parts)
  · intro notLonger code
    rw [tryParseSetDiscord_eq_some_iff]
    constructor
    · rintro ⟨gap, parts⟩
      refine ⟨gap, ?_, parts⟩
      rintro rfl
      exact notLonger (longerCommandWord_iff.mpr ⟨code, parts⟩)
    · rintro ⟨gap, -, parts⟩
      exact ⟨gap, parts⟩

end Scanner

/-! ## The hook -/

namespace Mod

variable {engine : Engine} {config : Config} {mod : Mod} {context : HookContext}

theorem hookBranch_eq_setDiscord_iff {code : Bytes} :
    mod.hookBranch engine config context = .setDiscord code ↔
      tryParseSetDiscord (context.line engine.codec) = some code := by
  have passing : passingBranch engine config context ≠ .setDiscord code := by
    intro taken
    have cases := passingBranch_cases engine config context
    rw [taken] at cases
    simp at cases
  unfold hookBranch
  cases context.line engine.codec with
  | nil =>
      constructor
      · intro taken
        cases taken
      · intro accepted
        cases accepted
  | cons head tail =>
      cases tryParseSetDiscord (head :: tail) with
      | some other => simp
      | none =>
          cases mod.filter.active && (mod.senderMute engine context).isSome with
          | true => simp
          | false => cases mod.filter.findMatch (head :: tail) <;> simp [passing]

/-- Every other branch leaves the `!setdiscord` deque alone. -/
theorem pendingSetDiscord_of_notTaken
    (notTaken : tryParseSetDiscord (context.line engine.codec) = none) :
    (mod.handleHook engine config context).1.capture.pendingSetDiscord =
      mod.capture.pendingSetDiscord := by
  have other : ∀ code, mod.hookBranch engine config context ≠ .setDiscord code := by
    intro code taken
    rw [hookBranch_eq_setDiscord_iff, notTaken] at taken
    cases taken
  have screened : (mod.screened engine context).capture.pendingSetDiscord =
      mod.capture.pendingSetDiscord := by rw [screened_capture]
  rw [handleHook_eq]
  cases branch : mod.hookBranch engine config context with
  | setDiscord code => exact absurd branch (other code)
  | empty => rfl
  | muted =>
      rcases suppressMuted_eq engine (mod.screened engine context) context
        (mod.capture.readSender context) with ⟨filter, moment, inject, -, -, equal⟩
      dsimp only
      rw [equal]
      exact screened
  | filtered hit =>
      rcases suppressFiltered_eq engine config (mod.screened engine context) context
        (mod.capture.readSender context) (context.line engine.codec) hit with
        ⟨filter, moment, inject, -, -, equal⟩
      dsimp only
      rw [equal]
      unfold enqueueWebhook
      split
      · exact screened
      · exact screened
  | relayed =>
      dsimp only
      rw [relayLine_eq]
      split
      · exact screened
      · exact screened
  | _ => exact screened

end Mod

/-! ## The grammar -/

/-- The code parses `!setdiscord CODE` as documented except where the command is
the beginning of a longer word. -/
theorem followsGrammar_iff (message : Bytes) :
    FollowsGrammar message ↔ ¬LongerCommandWord message := by
  constructor
  · intro follows
    exact accepts_iff.mp follows.accepts
  · intro notLonger
    have accepts := accepts_iff.mpr notLonger
    refine ⟨accepts, ?_, ?_⟩
    · intro engine config mod context line code
      rw [Mod.hookBranch_eq_setDiscord_iff, line]
      exact accepts code
    · intro engine config mod context line noCode
      apply Mod.pendingSetDiscord_of_notTaken
      rw [line, Option.eq_none_iff_forall_ne_some]
      intro code accepted
      exact noCode code ((accepts code).mp accepted)

/-- `!setdiscordhelp` is taken as the command with the code `help`. -/
theorem followsGrammar_fails :
    tryParseSetDiscord (ascii "!setdiscordhelp") = some (ascii "help") ∧
      ¬FollowsGrammar (ascii "!setdiscordhelp") := by
  refine ⟨by decide +kernel, fun follows => accepts_iff.mp follows.accepts ?_⟩
  exact ⟨ascii "!setdiscord", 0x68, ascii "elp", by decide, by decide, by decide⟩

end PalCrosschat
