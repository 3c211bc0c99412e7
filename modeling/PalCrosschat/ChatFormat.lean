import PalCrosschat.Foundation.Bytes

/-! # Chat line templates

`ChatFormat.cpp`: a template with `{prefix}`, `{guild}`, `{player}` and
`{message}` placeholders is split into the Sender and the Message field of
Palworld's `[Sender]:Message` line. -/

namespace PalCrosschat

open Bytes (ascii)

/-- The `while ((pos = text.find(from, pos)) != npos)` loop. Every round but
the last consumes at least one byte of the original text, so a fuel above its
length is never used up. -/
def replaceAllLoop (pattern replacement : Bytes) : Nat → Bytes → Nat → Bytes
  | 0, text, _ => text
  | fuel + 1, text, position =>
      match Bytes.find text pattern position with
      | none => text
      | some index =>
          replaceAllLoop pattern replacement fuel
            (text.take index ++ replacement ++ text.drop (index + pattern.length))
            (index + replacement.length)

def replaceAll (text pattern replacement : Bytes) : Bytes :=
  if pattern.isEmpty then text
  else replaceAllLoop pattern replacement (text.length + 1) text 0

/-- The character loop of `CollapseSpaces` with its `prev_space` flag. -/
def collapseLoop : Bool → Bytes → Bytes
  | _, [] => []
  | previousSpace, byte :: rest =>
      if byte == 0x20 || byte == 0x09 then
        if previousSpace then collapseLoop true rest
        else 0x20 :: collapseLoop true rest
      else byte :: collapseLoop false rest

def collapseSpaces (text : Bytes) : Bytes :=
  Bytes.trimBoth (fun byte => byte == 0x20) (collapseLoop false text)

def cleanupEmptyGuildBrackets (text : Bytes) : Bytes :=
  let text := replaceAll text (ascii " []") (ascii " ")
  let text := replaceAll text (ascii "[] ") (ascii " ")
  let text := replaceAll text (ascii "[]") []
  let text := replaceAll text (ascii "[ ]") []
  collapseSpaces text

/-- The colon peeling in front of `{message}`: a trailing `": "` moves into the
message as one space, a trailing `":"` is dropped. -/
def peelColon (senderPart message : Bytes) : Bytes × Bytes :=
  if (ascii ": ").isSuffixOf senderPart then
    (senderPart.dropLast.dropLast,
      match message with
      | [] => []
      | first :: _ => if first == 0x20 then message else 0x20 :: message)
  else if senderPart.getLast? = some 0x3A then (senderPart.dropLast, message)
  else (senderPart, message)

def unformattedSender (chatPrefix player : Bytes) : Bytes :=
  let sender :=
    if chatPrefix.isEmpty then []
    else if player.isEmpty then chatPrefix
    else chatPrefix ++ ascii " "
  let sender := sender ++ player
  if sender.isEmpty then ascii "Unknown" else sender

def applyChatFormat (format chatPrefix guild player message : Bytes) :
    Bytes × Bytes :=
  if format.isEmpty then
    (unformattedSender chatPrefix player, message)
  else
    let (senderPart, messagePart) :=
      match Bytes.find format (ascii "\x7bmessage\x7d") 0 with
      | some placeholder => peelColon (format.take placeholder) message
      | none => (format, message)
    let senderPart := replaceAll senderPart (ascii "\x7bprefix\x7d") chatPrefix
    let senderPart := replaceAll senderPart (ascii "\x7bguild\x7d") guild
    let senderPart := replaceAll senderPart (ascii "\x7bplayer\x7d") player
    let senderPart := cleanupEmptyGuildBrackets senderPart
    let senderPart :=
      if senderPart.head? = some 0x5B then senderPart.tail else senderPart
    let senderPart :=
      if senderPart.isEmpty then
        if player.isEmpty then ascii "Unknown" else player
      else senderPart
    let messagePart := if messagePart.isEmpty then message else messagePart
    (senderPart, messagePart)

/-- The Xbox line: the native `[Name]: hello`, without any tag. The format,
prefix and guild parameters are ignored. -/
def applyChatFormatAttributed (_format _chatPrefix _guild player message : Bytes) :
    Bytes × Bytes :=
  (if player.isEmpty then ascii "Unknown" else player, message)

theorem fallback_ne_nil {fallback : Bytes} (nonempty : fallback ≠ []) (text : Bytes) :
    (if text.isEmpty then fallback else text) ≠ [] := by
  split
  · exact nonempty
  · rename_i notEmpty
    simpa using notEmpty

/-- The message field is never empty for a non-empty message: an empty one
would make the line invisible. -/
theorem applyChatFormat_message_ne_nil
    (format chatPrefix guild player : Bytes) {message : Bytes}
    (nonempty : message ≠ []) :
    (applyChatFormat format chatPrefix guild player message).2 ≠ [] := by
  unfold applyChatFormat
  split
  · exact nonempty
  · exact fallback_ne_nil nonempty _

end PalCrosschat
