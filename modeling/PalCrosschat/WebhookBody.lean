import PalCrosschat.Foundation.JsonText
import PalCrosschat.LogContent

/-! # The body of a webhook request

`PostDiscordWebhookSync` writes the content into a JSON object by hand.
`EscapeJsonString` escapes the two bytes that end a string and three of the control
characters; the others stay in the body as they are. -/

namespace PalCrosschat

open Bytes (ascii)

/-- What `EscapeJsonString` appends for one byte. -/
def escapeJsonByte (byte : UInt8) : Bytes :=
  if byte = 0x5C then ascii "\\\\"
  else if byte = 0x22 then ascii "\\\""
  else if byte = 0x0A then ascii "\\n"
  else if byte = 0x0D then ascii "\\r"
  else if byte = 0x09 then ascii "\\t"
  else [byte]

def escapeJsonString (input : Bytes) : Bytes := input.flatMap escapeJsonByte

/-- The request body of `PostDiscordWebhookSync`. -/
def webhookBody (content : Bytes) : Bytes :=
  ascii "\x7b\"content\":\"" ++ escapeJsonString content ++ ascii "\"\x7d"

/-- The body is a JSON text, and a reader finds the content in it. -/
structure EncodesContent (content : Bytes) : Prop where
  utf8 : Utf8.Valid (webhookBody content)
  decoded : JsonText.parse (webhookBody content) =
    some (.object [(ascii "content", .string content)])

def isBareControl (byte : UInt8) : Bool :=
  byte < 0x20 && byte != 0x0A && byte != 0x0D && byte != 0x09

/-! ## The string -/

/-- One byte is escaped, plain, or a bare control character. -/
theorem escapeJsonByte_cases (byte : UInt8) :
    (isBareControl byte = false ∧
        ∃ letter, JsonText.escaped letter = some byte ∧ escapeJsonByte byte = [0x5C, letter]) ∨
      (isBareControl byte = false ∧ JsonText.isUnescaped byte = true ∧
        escapeJsonByte byte = [byte]) ∨
      (isBareControl byte = true ∧ byte < 0x20 ∧ escapeJsonByte byte = [byte]) := by
  have classes : ∀ byte : UInt8,
      (byte = 0x5C ∨ byte = 0x22 ∨ byte = 0x0A ∨ byte = 0x0D ∨ byte = 0x09) ∨
        (isBareControl byte = false ∧ JsonText.isUnescaped byte = true ∧
          escapeJsonByte byte = [byte]) ∨
        (isBareControl byte = true ∧ byte < 0x20 ∧ escapeJsonByte byte = [byte]) := by
    apply Bytes.forall_byte
    decide +kernel
  rcases classes byte with (rfl | rfl | rfl | rfl | rfl) | others
  · exact Or.inl ⟨rfl, 0x5C, rfl, rfl⟩
  · exact Or.inl ⟨rfl, 0x22, rfl, rfl⟩
  · exact Or.inl ⟨rfl, 0x6E, rfl, rfl⟩
  · exact Or.inl ⟨rfl, 0x72, rfl, rfl⟩
  · exact Or.inl ⟨rfl, 0x74, rfl, rfl⟩
  · exact Or.inr others

theorem escapeJsonString_cons (byte : UInt8) (input : Bytes) :
    escapeJsonString (byte :: input) = escapeJsonByte byte ++ escapeJsonString input :=
  List.flatMap_cons

theorem readString_escapeJsonByte {byte : UInt8} (notBare : isBareControl byte = false)
    (rest : Bytes) :
    JsonText.readString (escapeJsonByte byte ++ rest) =
      JsonText.after [byte] (JsonText.readString rest) := by
  rcases escapeJsonByte_cases byte with ⟨-, letter, stands, written⟩ | ⟨-, plain, written⟩ |
    ⟨bare, -⟩
  · rw [written]
    exact JsonText.readString_escaped stands rest
  · rw [written]
    exact JsonText.readString_unescaped plain rest
  · exact absurd (notBare.symm.trans bare) (by decide)

theorem readString_bareControl {byte : UInt8} (bare : isBareControl byte = true)
    (rest : Bytes) : JsonText.readString (escapeJsonByte byte ++ rest) = none := by
  rcases escapeJsonByte_cases byte with ⟨notBare, -⟩ | ⟨notBare, -⟩ | ⟨-, control, written⟩
  · exact absurd (notBare.symm.trans bare) (by decide)
  · exact absurd (notBare.symm.trans bare) (by decide)
  · rw [written]
    exact JsonText.readString_control control rest

theorem readString_escapeJsonString {input : Bytes}
    (noneBare : ∀ byte ∈ input, isBareControl byte = false) (rest : Bytes) :
    JsonText.readString (escapeJsonString input ++ 0x22 :: rest) = some (input, rest) := by
  induction input with
  | nil => exact JsonText.readString_close rest
  | cons byte input induction =>
      rw [List.forall_mem_cons] at noneBare
      rw [escapeJsonString_cons, List.append_assoc, readString_escapeJsonByte noneBare.1,
        induction noneBare.2]
      rfl

theorem readString_escapeJsonString_none {input : Bytes} {byte : UInt8} (member : byte ∈ input)
    (bare : isBareControl byte = true) (rest : Bytes) :
    JsonText.readString (escapeJsonString input ++ rest) = none := by
  induction input with
  | nil => cases member
  | cons head input induction =>
      rw [escapeJsonString_cons, List.append_assoc]
      cases headBare : isBareControl head with
      | true => exact readString_bareControl headBare _
      | false =>
          rw [readString_escapeJsonByte headBare, JsonText.after_eq_none_iff]
          apply induction
          rcases List.mem_cons.mp member with rfl | inInput
          · exact absurd (headBare.symm.trans bare) (by decide)
          · exact inInput

theorem valid_escapeJsonString {input : Bytes} (valid : Utf8.Valid input) :
    Utf8.Valid (escapeJsonString input) := by
  have ascii : ∀ byte : UInt8, byte < 0x80 → ∀ other ∈ escapeJsonByte byte, other < 0x80 := by
    apply Bytes.forall_byte
    decide +kernel
  have others : ∀ byte : UInt8, 0x80 ≤ byte → escapeJsonByte byte = [byte] := by
    apply Bytes.forall_byte
    decide +kernel
  exact valid.flatMap (fun byte low => Utf8.Valid.of_ascii (ascii byte low)) others

/-! ## The body -/

theorem readString_contentName (valueText : Bytes) :
    JsonText.readString (ascii "content\":\"" ++ valueText) =
      some (ascii "content", 0x3A :: 0x22 :: valueText) := by
  have letters : (ascii "content").all (fun byte => !isBareControl byte) = true := by decide
  have noneBare : ∀ byte ∈ ascii "content", isBareControl byte = false := by
    intro byte member
    exact Bool.eq_false_of_not_eq_true' (List.all_eq_true.mp letters byte member)
  exact readString_escapeJsonString noneBare (0x3A :: 0x22 :: valueText)

theorem webhookBody_eq (content : Bytes) :
    webhookBody content =
      0x7B :: 0x22 :: (ascii "content\":\"" ++ (escapeJsonString content ++ [0x22, 0x7D])) := by
  rw [webhookBody, List.append_assoc]
  rfl

theorem parse_webhookBody_none {content : Bytes} {byte : UInt8} (member : byte ∈ content)
    (bare : isBareControl byte = true) : JsonText.parse (webhookBody content) = none := by
  rw [webhookBody_eq]
  exact JsonText.parse_member_none (readString_contentName _)
    (readString_escapeJsonString_none member bare _)

theorem parse_webhookBody {content : Bytes}
    (noneBare : ∀ byte ∈ content, isBareControl byte = false) :
    JsonText.parse (webhookBody content) =
      some (.object [(ascii "content", .string content)]) := by
  rw [webhookBody_eq]
  exact JsonText.parse_member (readString_contentName _)
    (readString_escapeJsonString noneBare [0x7D])

/-- The body carries the content exactly when the content has no control character
other than line breaks and tabs. -/
theorem encodesContent_iff {content : Bytes} (valid : Utf8.Valid content) :
    EncodesContent content ↔ ∀ byte ∈ content, isBareControl byte = false := by
  constructor
  · intro encodes byte member
    by_contra bare
    have decoded := encodes.decoded
    rw [parse_webhookBody_none member (Bool.eq_true_of_not_eq_false bare)] at decoded
    cases decoded
  · intro noneBare
    constructor
    · have front : Utf8.Valid (ascii "\x7b\"content\":\"") := Utf8.Valid.of_all_ascii (by decide)
      have back : Utf8.Valid (ascii "\"\x7d") := Utf8.Valid.of_all_ascii (by decide)
      exact (front.append (valid_escapeJsonString valid)).append back
    · exact parse_webhookBody noneBare

theorem encodesContent_iff_lines :
    EncodesContent (ascii "Server: `pal-eu`\nMessage: `\\o/ \"hi\"`") ↔
      ∀ byte ∈ ascii "Server: `pal-eu`\nMessage: `\\o/ \"hi\"`", isBareControl byte = false :=
  encodesContent_iff (Utf8.Valid.of_all_ascii (by decide))

def bellMessage : Bytes := [0x07]

def bellLog : Bytes :=
  filterLogContent (loggingConfig bellMessage)
    ((loggingMod bellMessage).capture.readSender (typed (ascii "spam"))).name
    (typed (ascii "spam")).senderId ((typed (ascii "spam")).line quietEngine.codec)
    (loggedHit bellMessage)

/-- A log with a bare control byte is queued for the webhook, and its body is no JSON text. -/
theorem encodesContent_fails :
    ModEvent.webhookQueued { webhookUrl := ascii "webhook", content := bellLog } ∈
        ((loggingMod bellMessage).handleHook quietEngine (loggingConfig bellMessage)
          (typed (ascii "spam"))).1.journal ∧
      Utf8.Valid bellLog ∧ JsonText.parse (webhookBody bellLog) = none ∧
        ¬EncodesContent bellLog := by
  have branch : (loggingMod bellMessage).hookBranch quietEngine (loggingConfig bellMessage)
      (typed (ascii "spam")) = .filtered (loggedHit bellMessage) := by decide +kernel
  have bell : (0x07 : UInt8) ∈ bellLog := by decide +kernel
  have unread := parse_webhookBody_none bell (by decide)
  have cuts : CutsNoCharacter ((typed (ascii "spam")).line quietEngine.codec)
      (loggedHit bellMessage) :=
    { message := by decide +kernel
      patternSource := by decide +kernel
      muteMessage := by decide +kernel }
  have mute : Utf8.Valid bellMessage := Utf8.Valid.of_all_ascii (by decide)
  have texts := loggedTexts_spam mute
  refine ⟨?_, (valid_filterLogContent_iff texts (valid_senderId _)).mpr cuts, unread, ?_⟩
  · rw [handleHook_filtered_journal branch]
    apply List.mem_append_right
    exact List.mem_singleton.mpr rfl
  · intro encodes
    cases unread.symm.trans encodes.decoded

end PalCrosschat
