import PalCrosschat.HookBranches
import PalCrosschat.NormalForm
import PalCrosschat.World

/-! # The text of the moderation log

A filter hit is logged with its message, its pattern and its mute message.
`TruncateForLog` shortens these at a byte, wherever that byte is in a character,
unlike `TruncateUtf8`. -/

namespace PalCrosschat

open Bytes (ascii)

/-- The texts a filter hit is logged with are UTF-8. -/
structure LoggedTexts (config : Config) (senderName message : Bytes) (hit : FilterHit) :
    Prop where
  origin : config.serverOrigin = ascii "pal-na" ∨ config.serverOrigin = ascii "pal-eu"
  senderName : Utf8.Valid senderName
  message : Utf8.Valid message
  patternSource : Utf8.Valid hit.patternSource
  muteMessage : Utf8.Valid hit.muteMessage

/-- No field goes on inside of a character where it is cut. -/
structure CutsNoCharacter (message : Bytes) (hit : FilterHit) : Prop where
  message : continuesAt message 200 = false
  patternSource : continuesAt hit.patternSource 120 = false
  muteMessage : continuesAt hit.muteMessage 120 = false

/-- Whatever the hook queues for the webhook in this call is UTF-8. -/
def LogsUtf8 (engine : Engine) (config : Config) (mod : Mod) (context : HookContext) : Prop :=
  ∀ added, (mod.handleHook engine config context).1.journal = mod.journal ++ added →
    ∀ job, .webhookQueued job ∈ added → Utf8.Valid job.content

/-! ## ASCII fields -/

theorem hexField_ascii (width value : Nat) : ∀ byte ∈ hexField width value, byte < 0x80 := by
  have digit : ∀ value < 16, hexDigit value < 0x80 := by decide
  induction width generalizing value with
  | zero => nofun
  | succ width induction =>
      intro byte member
      rcases List.mem_append.mp member with high | low
      · exact induction _ byte high
      · rw [List.mem_singleton.mp low]
        exact digit _ (Nat.mod_lt _ (by omega))

theorem valid_formatGuid (guid : Guid) : Utf8.Valid (formatGuid guid) := by
  have field (width value : Nat) : Utf8.Valid (hexField width value) :=
    Utf8.Valid.of_ascii (hexField_ascii width value)
  have dash : Utf8.Valid (ascii "-") := Utf8.Valid.of_all_ascii (by decide)
  unfold formatGuid
  refine .append (.append (.append (.append (.append (.append (.append (.append (.append ?_ dash)
    ?_) dash) ?_) dash) ?_) dash) ?_) ?_
  all_goals exact field _ _

theorem toUInt8_of_isDigit {char : Char} (digit : char.isDigit = true) :
    char.toUInt8 < 0x80 := by
  have small : char.toNat ≤ 57 := (Char.isDigit_iff_toNat.mp digit).2
  rw [UInt8.lt_iff_toNat_lt]
  change char.toNat % 256 < 128
  omega

theorem decimal_ascii (value : Int) : ∀ byte ∈ Bytes.decimal value, byte < 0x80 := by
  have digits : ∀ (count : Nat), ∀ char ∈ count.repr.toList, char.toUInt8 < 0x80 := by
    intro count char member
    rw [Nat.toList_repr] at member
    exact toUInt8_of_isDigit (Nat.isDigit_of_mem_toDigits (by decide) (by decide) member)
  intro byte member
  rcases List.mem_map.mp member with ⟨char, inText, rfl⟩
  cases value with
  | ofNat count => exact digits count char inText
  | negSucc count =>
      change char ∈ ("-" ++ (count + 1).repr).toList at inText
      rw [String.toList_append] at inText
      rcases List.mem_append.mp inText with sign | digit
      · rw [List.mem_singleton.mp sign]
        decide
      · exact digits _ char digit

theorem valid_senderId (context : HookContext) : Utf8.Valid context.senderId := by
  unfold HookContext.senderId
  split
  · exact Utf8.Valid.nil
  · exact valid_formatGuid _

/-! ## Fields that are shortened -/

theorem valid_truncateForLog_iff {text : Bytes} (valid : Utf8.Valid text) (limit : Nat) :
    Utf8.Valid (truncateForLog text limit) ↔ continuesAt text limit = false := by
  have dots : Utf8.Valid (ascii "...") := Utf8.Valid.of_all_ascii (by decide)
  rw [truncateForLog]
  split
  · rename_i short
    have behind : continuesAt text limit = false := by
      rw [continuesAt, List.getElem?_eq_none short, Option.any_none]
    exact iff_of_true valid behind
  · rw [Utf8.valid_append_iff dots.head_starts, valid.take_iff limit, continuesAt]
    exact and_iff_left dots

/-! ## The content -/

def logHead (config : Config) (senderName senderId : Bytes) (muteMinutes : Int) : Bytes :=
  ascii "**[PalCrosschat] ChatFilter**\n" ++
    ascii "Server: `" ++ config.serverOrigin ++ ascii "`\n" ++
    ascii "Player: `" ++ senderName ++ ascii "`" ++
    (if senderId.isEmpty then [] else ascii " (`" ++ senderId ++ ascii "`)") ++
    ascii "\n" ++
    (if 0 < muteMinutes then ascii "Muted: `" ++ Bytes.decimal muteMinutes ++ ascii "m`\n"
    else ascii "Action: `blocked` (MuteMinutes=0)\n")

def logMuteLine (hit : FilterHit) : Bytes :=
  if hit.muteMessage.isEmpty then []
  else ascii "MuteMessage: `" ++ truncateForLog hit.muteMessage 120 ++ ascii "`\n"

def logPatternLine (hit : FilterHit) : Bytes :=
  ascii "Pattern: `" ++ truncateForLog hit.patternSource 120 ++ ascii "`\n"

def logMessageLine (message : Bytes) : Bytes :=
  ascii "Message: `" ++ truncateForLog message 200 ++ ascii "`"

theorem filterLogContent_eq (config : Config) (senderName senderId message : Bytes)
    (hit : FilterHit) :
    filterLogContent config senderName senderId message hit =
      logHead config senderName senderId hit.muteMinutes ++
        (logMuteLine hit ++ (logPatternLine hit ++ logMessageLine message)) := by
  simp only [filterLogContent, logHead, logMuteLine, logPatternLine, logMessageLine,
    List.append_assoc]

theorem valid_logHead {config : Config} {senderName senderId : Bytes} (muteMinutes : Int)
    (origin : Utf8.Valid config.serverOrigin) (name : Utf8.Valid senderName)
    (id : Utf8.Valid senderId) :
    Utf8.Valid (logHead config senderName senderId muteMinutes) := by
  have literal : ∀ {text : Bytes}, text.all (fun byte => byte < 0x80) = true → Utf8.Valid text :=
    fun small => Utf8.Valid.of_all_ascii small
  have idPart : Utf8.Valid
      (if senderId.isEmpty then [] else ascii " (`" ++ senderId ++ ascii "`)") := by
    split
    · exact Utf8.Valid.nil
    · exact ((literal (by decide)).append id).append (literal (by decide))
  have action : Utf8.Valid (if 0 < muteMinutes then
      ascii "Muted: `" ++ Bytes.decimal muteMinutes ++ ascii "m`\n"
      else ascii "Action: `blocked` (MuteMinutes=0)\n") := by
    split
    · have minutes : Utf8.Valid (Bytes.decimal muteMinutes) :=
        Utf8.Valid.of_ascii (decimal_ascii _)
      exact ((literal (by decide)).append minutes).append (literal (by decide))
    · exact literal (by decide)
  unfold logHead
  refine .append (.append (.append (.append (.append (.append (.append (.append (.append ?_ ?_)
    origin) ?_) ?_) name) ?_) idPart) ?_) action
  all_goals exact literal (by decide)

/-- A field between two literals. -/
theorem valid_line_iff {label text close : Bytes}
    (labelAscii : label.all (fun byte => byte < 0x80) = true)
    (closeAscii : close.all (fun byte => byte < 0x80) = true) (valid : Utf8.Valid text)
    (limit : Nat) :
    Utf8.Valid (label ++ truncateForLog text limit ++ close) ↔
      continuesAt text limit = false := by
  rw [Utf8.valid_surrounded_iff (Utf8.Valid.of_all_ascii labelAscii)
    (Utf8.Valid.of_all_ascii closeAscii)]
  exact valid_truncateForLog_iff valid limit

theorem valid_logMuteLine_iff {hit : FilterHit} (valid : Utf8.Valid hit.muteMessage) :
    Utf8.Valid (logMuteLine hit) ↔ continuesAt hit.muteMessage 120 = false := by
  unfold logMuteLine
  split
  · rename_i empty
    rw [List.isEmpty_iff.mp empty]
    exact iff_of_true Utf8.Valid.nil rfl
  · exact valid_line_iff (by decide) (by decide) valid 120

/-- Each line starts with a letter, so the lines can be looked at one by one. -/
theorem valid_filterLogContent_iff {config : Config} {senderName message : Bytes}
    {hit : FilterHit} (texts : LoggedTexts config senderName message hit) {senderId : Bytes}
    (id : Utf8.Valid senderId) :
    Utf8.Valid (filterLogContent config senderName senderId message hit) ↔
      CutsNoCharacter message hit := by
  have origin : Utf8.Valid config.serverOrigin := by
    rcases texts.origin with na | eu
    · rw [na]
      exact Utf8.Valid.of_all_ascii (by decide)
    · rw [eu]
      exact Utf8.Valid.of_all_ascii (by decide)
  have head := valid_logHead hit.muteMinutes origin texts.senderName id
  have messageStarts : (logMessageLine message).head?.any Bytes.isContinuation = false := rfl
  have patternStarts : (logPatternLine hit ++ logMessageLine message).head?.any
      Bytes.isContinuation = false := rfl
  have mute := valid_logMuteLine_iff texts.muteMessage
  have pattern : Utf8.Valid (logPatternLine hit) ↔ continuesAt hit.patternSource 120 = false :=
    valid_line_iff (by decide) (by decide) texts.patternSource 120
  have line : Utf8.Valid (logMessageLine message) ↔ continuesAt message 200 = false :=
    valid_line_iff (by decide) (by decide) texts.message 200
  have behind : Utf8.Valid (logHead config senderName senderId hit.muteMinutes ++
      (logMuteLine hit ++ (logPatternLine hit ++ logMessageLine message))) ↔
      Utf8.Valid (logMuteLine hit ++ (logPatternLine hit ++ logMessageLine message)) :=
    ⟨head.of_append, head.append⟩
  rw [filterLogContent_eq, behind, Utf8.valid_append_iff patternStarts,
    Utf8.valid_append_iff messageStarts, mute, pattern, line]
  constructor
  · rintro ⟨muteCut, patternCut, messageCut⟩
    exact ⟨messageCut, patternCut, muteCut⟩
  · rintro ⟨messageCut, patternCut, muteCut⟩
    exact ⟨muteCut, patternCut, messageCut⟩

/-! ## The hook -/

section Hook

variable {engine : Engine} {config : Config} {mod : Mod} {context : HookContext} {hit : FilterHit}

/-- A hit logs one text when a webhook is set. -/
theorem handleHook_filtered_journal
    (branch : mod.hookBranch engine config context = .filtered hit) :
    (mod.handleHook engine config context).1.journal = mod.journal ++
      (if mod.filter.muteLogWebhook = [] then [] else
        [ModEvent.webhookQueued
          { webhookUrl := mod.filter.muteLogWebhook
            content := filterLogContent config (mod.capture.readSender context).name
              context.senderId (context.line engine.codec) hit }]) := by
  rcases mod.screened_eq engine context with ⟨filter, audience, moment, screened, -, webhook, -⟩
  rcases Mod.suppressFiltered_eq engine config (mod.screened engine context) context
    (mod.capture.readSender context) (context.line engine.codec) hit with
    ⟨muted, later, inject, -, -, logged⟩
  have something : (filterLogContent config (mod.capture.readSender context).name
      (mod.capture.readSender context).id (context.line engine.codec) hit).isEmpty = false := by
    rw [filterLogContent_eq]
    rfl
  have kept : (mod.screened engine context).filter.muteLogWebhook =
      mod.filter.muteLogWebhook := by
    rw [screened]
    exact webhook
  rw [Mod.handleHook_eq, branch]
  dsimp only
  rw [logged, kept, Mod.enqueueWebhook, something, Bool.or_false]
  by_cases unset : mod.filter.muteLogWebhook = []
  · rw [if_pos (by rw [unset]; rfl), if_pos unset, List.append_nil]
    exact Mod.screened_journal
  · rw [if_neg (by rwa [List.isEmpty_iff]), if_neg unset]
    change (mod.screened engine context).journal ++ _ = _
    rw [Mod.screened_journal]
    rfl

theorem logsUtf8_iff (branch : mod.hookBranch engine config context = .filtered hit) :
    LogsUtf8 engine config mod context ↔
      mod.filter.muteLogWebhook = [] ∨
        Utf8.Valid (filterLogContent config (mod.capture.readSender context).name
          context.senderId (context.line engine.codec) hit) := by
  unfold LogsUtf8
  rw [handleHook_filtered_journal branch]
  generalize filterLogContent config (mod.capture.readSender context).name context.senderId
    (context.line engine.codec) hit = content
  by_cases unset : mod.filter.muteLogWebhook = []
  · rw [if_pos unset]
    refine iff_of_true ?_ (Or.inl unset)
    intro added same job member
    rw [← List.append_cancel_left same] at member
    cases member
  · rw [if_neg unset]
    constructor
    · intro logs
      exact Or.inr (logs _ rfl _ List.mem_cons_self)
    · intro either added same job member
      rw [← List.append_cancel_left same, List.mem_singleton] at member
      cases member
      exact either.resolve_left unset

/-- The moderation log of a filter hit is UTF-8 except where a field goes on
inside of a character at the byte it is shortened at. -/
theorem logsUtf8_iff_cutsNoCharacter
    (branch : mod.hookBranch engine config context = .filtered hit)
    (texts : LoggedTexts config (mod.capture.readSender context).name
      (context.line engine.codec) hit) :
    LogsUtf8 engine config mod context ↔
      mod.filter.muteLogWebhook = [] ∨ CutsNoCharacter (context.line engine.codec) hit := by
  rw [logsUtf8_iff branch, valid_filterLogContent_iff texts (valid_senderId context)]

end Hook

/-! ## One server -/

/-- A server that logs lines with the word `spam`. -/
def loggingConfig (muteMessage : Bytes) : Config :=
  { plainConfig with
    muteLogWebhook := ascii "webhook"
    filterPatterns := [{ pattern := ascii "spam", muteMessage }] }

def loggingMod (muteMessage : Bytes) : Mod := .initial literalRegex (loggingConfig muteMessage)

def loggedHit (muteMessage : Bytes) : FilterHit where
  patternSource := ascii "spam"
  muteMinutes := 5
  muteMessage

theorem loggedTexts_spam {muteMessage : Bytes} (valid : Utf8.Valid muteMessage) :
    LoggedTexts (loggingConfig muteMessage)
      ((loggingMod muteMessage).capture.readSender (typed (ascii "spam"))).name
      ((typed (ascii "spam")).line quietEngine.codec) (loggedHit muteMessage) where
  origin := Or.inl rfl
  senderName := by
    rw [show ((loggingMod muteMessage).capture.readSender (typed (ascii "spam"))).name =
      ascii "Unknown" from rfl]
    exact Utf8.Valid.of_all_ascii (by decide)
  message := by
    rw [show (typed (ascii "spam")).line quietEngine.codec = ascii "spam" by decide +kernel]
    exact Utf8.Valid.of_all_ascii (by decide)
  patternSource := by
    rw [show (loggedHit muteMessage).patternSource = ascii "spam" from rfl]
    exact Utf8.Valid.of_all_ascii (by decide)
  muteMessage := valid

theorem logsUtf8_iff_cutsNoCharacter_spam :
    LogsUtf8 quietEngine (loggingConfig (ascii "Mind your words"))
        (loggingMod (ascii "Mind your words")) (typed (ascii "spam")) ↔
      (loggingMod (ascii "Mind your words")).filter.muteLogWebhook = [] ∨
        CutsNoCharacter ((typed (ascii "spam")).line quietEngine.codec)
          (loggedHit (ascii "Mind your words")) :=
  logsUtf8_iff_cutsNoCharacter (by decide +kernel)
    (loggedTexts_spam (Utf8.Valid.of_all_ascii (by decide)))

def longMuteMessage : Bytes := List.replicate 119 0x61 ++ [0xC3, 0xA9]

/-- The last letter of this mute message is cut in two. -/
theorem logsUtf8_fails :
    (loggingMod longMuteMessage).hookBranch quietEngine (loggingConfig longMuteMessage)
        (typed (ascii "spam")) = .filtered (loggedHit longMuteMessage) ∧
      LoggedTexts (loggingConfig longMuteMessage)
        ((loggingMod longMuteMessage).capture.readSender (typed (ascii "spam"))).name
        ((typed (ascii "spam")).line quietEngine.codec) (loggedHit longMuteMessage) ∧
      ¬LogsUtf8 quietEngine (loggingConfig longMuteMessage) (loggingMod longMuteMessage)
        (typed (ascii "spam")) := by
  have branch : (loggingMod longMuteMessage).hookBranch quietEngine
      (loggingConfig longMuteMessage) (typed (ascii "spam")) =
      .filtered (loggedHit longMuteMessage) := by decide +kernel
  have letters : Utf8.Valid (List.replicate 119 0x61) := by
    apply Utf8.Valid.of_ascii
    intro byte member
    rw [List.eq_of_mem_replicate member]
    decide
  have letter : Utf8.Valid [0xC3, 0xA9] := ⟨[Char.ofNat 0xE9], by decide +kernel⟩
  have muteMessage : Utf8.Valid longMuteMessage := letters.append letter
  have texts := loggedTexts_spam muteMessage
  refine ⟨branch, texts, ?_⟩
  rw [logsUtf8_iff branch, valid_filterLogContent_iff texts (valid_senderId _), not_or]
  refine ⟨by decide +kernel, fun cuts => ?_⟩
  have inside : continuesAt longMuteMessage 120 = true := by decide +kernel
  exact absurd (inside.symm.trans cuts.muteMessage) (by decide)

end PalCrosschat
