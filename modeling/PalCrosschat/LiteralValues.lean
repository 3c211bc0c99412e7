import PalCrosschat.Config
import PalCrosschat.Templates

/-! # Placeholder values in the sender

The values of `{prefix}`, `{guild}` and `{player}` should go into the line as
they are. The three replacements run one after the other over the whole text, so
a value that spells a later placeholder is itself filled in. -/

namespace PalCrosschat

open Bytes (ascii)

inductive Placeholder
  | chatPrefix
  | guild
  | player
deriving DecidableEq, Repr

def placeholders : Vocabulary UInt8 Placeholder where
  spelling
    | .chatPrefix => ascii "\x7bprefix\x7d"
    | .guild => ascii "\x7bguild\x7d"
    | .player => ascii "\x7bplayer\x7d"
  nonempty name := by cases name <;> decide

theorem placeholders_delimited : placeholders.Delimited 0x7B where
  opens name := by
    cases name
    · exact ⟨ascii "prefix\x7d", by decide, by decide⟩
    · exact ⟨ascii "guild\x7d", by decide, by decide⟩
    · exact ⟨ascii "player\x7d", by decide, by decide⟩
  prefixFree := by
    intro name other
    rw [← List.isPrefixOf_iff_prefix]
    cases name <;> cases other <;> decide

def allPlaceholders : List Placeholder := [.chatPrefix, .guild, .player]

theorem mem_allPlaceholders (name : Placeholder) : name ∈ allPlaceholders := by
  cases name <;> decide

def templateTokens (template : Bytes) : List (Token UInt8 Placeholder) :=
  placeholders.scan allPlaceholders template

def placeholderValue (chatPrefix guild player : Bytes) : Placeholder → Bytes
  | .chatPrefix => chatPrefix
  | .guild => guild
  | .player => player

def simultaneous (chatPrefix guild player template : Bytes) : Bytes :=
  Token.fill (placeholderValue chatPrefix guild player) (templateTokens template)

/-! ## The three replacements -/

theorem replaceAll_chatPrefix (text value : Bytes) :
    replaceAll text (ascii "\x7bprefix\x7d") value =
      placeholders.substitute .chatPrefix value text :=
  replaceAll_eq placeholders .chatPrefix value text

theorem replaceAll_guild (text value : Bytes) :
    replaceAll text (ascii "\x7bguild\x7d") value =
      placeholders.substitute .guild value text :=
  replaceAll_eq placeholders .guild value text

theorem replaceAll_player (text value : Bytes) :
    replaceAll text (ascii "\x7bplayer\x7d") value =
      placeholders.substitute .player value text :=
  replaceAll_eq placeholders .player value text

theorem fill_chatPrefix (chatPrefix template : Bytes) :
    replaceAll template (ascii "\x7bprefix\x7d") chatPrefix =
      simultaneous chatPrefix (ascii "\x7bguild\x7d") (ascii "\x7bplayer\x7d") template := by
  have whole : Token.fill placeholders.spelling (templateTokens template) = template :=
    placeholders.fill_scan template
  have own : placeholders.occurrences .chatPrefix
      (Token.fill placeholders.spelling (templateTokens template)) =
      Token.keyCount .chatPrefix (templateTokens template) := by
    rw [whole]
    exact placeholders_delimited.occurrences_eq (mem_allPlaceholders .chatPrefix) template
  have filled := placeholders_delimited.substitute_fill rfl chatPrefix own
  rw [whole] at filled
  rw [replaceAll_chatPrefix, filled, simultaneous]
  congr 1
  funext name
  cases name <;> rfl

/-- A step that replaces one more placeholder, if the text spells it nowhere
but where the template does. -/
theorem fill_guild {chatPrefix template : Bytes} (guild : Bytes)
    (own : placeholders.occurrences .guild
        (simultaneous chatPrefix (ascii "\x7bguild\x7d") (ascii "\x7bplayer\x7d") template) =
      placeholders.occurrences .guild template) :
    replaceAll
        (simultaneous chatPrefix (ascii "\x7bguild\x7d") (ascii "\x7bplayer\x7d") template)
        (ascii "\x7bguild\x7d") guild =
      simultaneous chatPrefix guild (ascii "\x7bplayer\x7d") template := by
  rw [placeholders_delimited.occurrences_eq (mem_allPlaceholders .guild) template] at own
  have spelled : placeholderValue chatPrefix (ascii "\x7bguild\x7d") (ascii "\x7bplayer\x7d")
      .guild = placeholders.spelling .guild := rfl
  rw [replaceAll_guild, simultaneous, placeholders_delimited.substitute_fill spelled guild own,
    simultaneous]
  congr 1
  funext name
  cases name <;> rfl

theorem fill_player {chatPrefix guild template : Bytes} (player : Bytes)
    (own : placeholders.occurrences .player
        (simultaneous chatPrefix guild (ascii "\x7bplayer\x7d") template) =
      placeholders.occurrences .player template) :
    replaceAll (simultaneous chatPrefix guild (ascii "\x7bplayer\x7d") template)
        (ascii "\x7bplayer\x7d") player =
      simultaneous chatPrefix guild player template := by
  rw [placeholders_delimited.occurrences_eq (mem_allPlaceholders .player) template] at own
  have spelled : placeholderValue chatPrefix guild (ascii "\x7bplayer\x7d") .player =
      placeholders.spelling .player := rfl
  rw [replaceAll_player, simultaneous, placeholders_delimited.substitute_fill spelled player own,
    simultaneous]
  congr 1
  funext name
  cases name <;> rfl

/-! ## When values stay as they are -/

/-- The sender is the simultaneous replacement, and no replacement is made but
at the placeholders of the template. -/
structure LiteralValues (format chatPrefix guild player : Bytes) : Prop where
  sender : ∀ message, (applyChatFormat format chatPrefix guild player message).1 =
    finishSender player (simultaneous chatPrefix guild player (senderTemplate format))
  guildPass : placeholders.occurrences .guild
      (replaceAll (senderTemplate format) (ascii "\x7bprefix\x7d") chatPrefix) =
    placeholders.occurrences .guild (senderTemplate format)
  playerPass : placeholders.occurrences .player
      (replaceAll (replaceAll (senderTemplate format) (ascii "\x7bprefix\x7d") chatPrefix)
        (ascii "\x7bguild\x7d") guild) =
    placeholders.occurrences .player (senderTemplate format)

/-- With the prefix filled in, the template spells no new `{guild}`, and with
prefix and guild filled in no new `{player}`. -/
structure NoNewPlaceholders (chatPrefix guild template : Bytes) : Prop where
  ownGuilds : placeholders.occurrences .guild
      (simultaneous chatPrefix (ascii "\x7bguild\x7d") (ascii "\x7bplayer\x7d") template) =
    placeholders.occurrences .guild template
  ownPlayers : placeholders.occurrences .player
      (simultaneous chatPrefix guild (ascii "\x7bplayer\x7d") template) =
    placeholders.occurrences .player template

theorem filledSender_eq {format chatPrefix guild : Bytes} (player : Bytes)
    (noNew : NoNewPlaceholders chatPrefix guild (senderTemplate format)) :
    filledSender format chatPrefix guild player =
      simultaneous chatPrefix guild player (senderTemplate format) := by
  rw [filledSender, fill_chatPrefix, fill_guild guild noNew.ownGuilds,
    fill_player player noNew.ownPlayers]

theorem literalValues_iff {format : Bytes} (nonempty : format ≠ [])
    (chatPrefix guild player : Bytes) :
    LiteralValues format chatPrefix guild player ↔
      NoNewPlaceholders chatPrefix guild (senderTemplate format) := by
  constructor
  · intro literal
    have own := literal.guildPass
    rw [fill_chatPrefix] at own
    refine ⟨own, ?_⟩
    have later := literal.playerPass
    rwa [fill_chatPrefix, fill_guild guild own] at later
  · intro noNew
    refine ⟨fun message => ?_, ?_, ?_⟩
    · rw [applyChatFormat_eq nonempty, filledSender_eq player noNew]
    · rw [fill_chatPrefix]
      exact noNew.ownGuilds
    · rw [fill_chatPrefix, fill_guild guild noNew.ownGuilds]
      exact noNew.ownPlayers

theorem literalValues_iff_default :
    LiteralValues plainConfig.chatFormat (ascii "EU") (ascii "\x7bprefix\x7d") (ascii "Bob") :=
  (literalValues_iff (by decide) _ _ _).mpr ⟨by decide +kernel, by decide +kernel⟩

/-- A guild called `{player}` shows its member's name twice. -/
theorem literalValues_fails :
    (applyChatFormat plainConfig.chatFormat (ascii "EU") (ascii "\x7bplayer\x7d")
        (ascii "Bob") (ascii "hi")).1 ≠
      finishSender (ascii "Bob") (simultaneous (ascii "EU") (ascii "\x7bplayer\x7d")
        (ascii "Bob") (senderTemplate plainConfig.chatFormat)) := by
  decide +kernel

end PalCrosschat
