import PalCrosschat.ChatFormat
import PalCrosschat.Foundation.Substitution

/-! # Filling a chat line template

`ApplyChatFormat` splits the template at its first `{message}` and fills the
text in front of it, one placeholder after the other. -/

namespace PalCrosschat

open Bytes (ascii)

/-! ## `std::string::find` -/

section Find

variable {text pattern : Bytes} {position : Nat}

theorem find_eq_none (inside : position ≤ text.length)
    (absent : Bytes.find text pattern position = none) :
    ∀ index, position ≤ index → index ≤ text.length → ¬pattern <+: text.drop index := by
  intro index behind inText isPrefix
  rw [Bytes.find, if_neg (Nat.not_lt.mpr inside)] at absent
  have nowhere := List.find?_eq_none.mp absent index
    (List.mem_range'_1.mpr ⟨behind, by omega⟩)
  exact nowhere (List.isPrefixOf_iff_prefix.mpr isPrefix)

theorem find_eq_some {index : Nat} (found : Bytes.find text pattern position = some index) :
    position ≤ index ∧ index ≤ text.length ∧ pattern <+: text.drop index ∧
      ∀ earlier, position ≤ earlier → earlier < index → ¬pattern <+: text.drop earlier := by
  rw [Bytes.find] at found
  split at found
  · cases found
  · rename_i inside
    rw [List.find?_range'_eq_some] at found
    rcases found with ⟨isPrefix, inRange, before⟩
    have bounds := List.mem_range'_1.mp inRange
    refine ⟨bounds.1, by omega, List.isPrefixOf_iff_prefix.mp isPrefix, ?_⟩
    intro earlier behind below isPrefix
    have differs := before earlier behind below
    simp [List.isPrefixOf_iff_prefix.mpr isPrefix] at differs

end Find

/-! ## `ReplaceAll` -/

section ReplaceAll

variable {κ : Type} (vocabulary : Vocabulary UInt8 κ) (name : κ) (value : Bytes)

theorem substitute_skip {text : Bytes} {count : Nat} (inside : count ≤ text.length)
    (absent : ∀ index < count, ¬vocabulary.spelling name <+: text.drop index) :
    vocabulary.substitute name value text =
      text.take count ++ vocabulary.substitute name value (text.drop count) := by
  induction count generalizing text with
  | zero => rfl
  | succ count induction =>
      cases text with
      | nil => simp at inside
      | cons byte rest =>
          have noKey : vocabulary.keyAt [name] (byte :: rest) = none := by
            apply List.find?_eq_none.mpr
            intro other member
            rw [List.mem_singleton.mp member, List.isPrefixOf_iff_prefix]
            exact absent 0 (by omega)
          have later := induction (show count ≤ rest.length by simpa using inside)
            fun index below => absent (index + 1) (by omega)
          rw [Vocabulary.substitute, vocabulary.scan_of_plain noKey, Token.fill_plain]
          exact congrArg (byte :: ·) later

theorem substitute_of_prefix {text : Bytes} (isPrefix : vocabulary.spelling name <+: text) :
    vocabulary.substitute name value text = value ++
      vocabulary.substitute name value (text.drop (vocabulary.spelling name).length) := by
  have found : vocabulary.keyAt [name] text = some name := by
    rw [Vocabulary.keyAt, List.find?_cons, List.isPrefixOf_iff_prefix.mpr isPrefix]
  rw [Vocabulary.substitute, vocabulary.scan_of_key found, Token.fill_key]
  rfl

theorem replaceAllLoop_eq (fuel : Nat) {text : Bytes} {position : Nat}
    (inside : position ≤ text.length) (enough : text.length - position < fuel) :
    replaceAllLoop (vocabulary.spelling name) value fuel text position =
      text.take position ++ vocabulary.substitute name value (text.drop position) := by
  induction fuel generalizing text position with
  | zero => omega
  | succ fuel induction =>
      rw [replaceAllLoop]
      cases found : Bytes.find text (vocabulary.spelling name) position with
      | none =>
          have nowhere := find_eq_none inside found
          have kept := substitute_skip vocabulary name value
            (show text.length - position ≤ (text.drop position).length by simp) (by
              intro index below
              rw [List.drop_drop]
              exact nowhere _ (by omega) (by omega))
          rw [kept, List.drop_drop, show position + (text.length - position) = text.length by omega,
            List.drop_length, List.take_of_length_le (l := text.drop position) (by simp)]
          change text = text.take position ++ (text.drop position ++ [])
          rw [List.append_nil, List.take_append_drop]
      | some index =>
          rcases find_eq_some found with ⟨behind, inText, isPrefix, before⟩
          have positive := List.length_pos_iff.mpr (vocabulary.nonempty name)
          have fits := isPrefix.length_le
          rw [List.length_drop] at fits
          have front : (text.take index ++ value).length = index + value.length := by
            rw [List.length_append, List.length_take, Nat.min_eq_left inText]
          have kept := substitute_skip vocabulary name value
            (show index - position ≤ (text.drop position).length by simp; omega) (by
              intro offset below
              rw [List.drop_drop]
              exact before _ (by omega) (by omega))
          rw [List.drop_drop, show position + (index - position) = index by omega,
            substitute_of_prefix vocabulary name value isPrefix, List.drop_drop] at kept
          dsimp only
          rw [induction (by rw [List.length_append, front]; omega)
              (by rw [List.length_append, front, List.length_drop]; omega),
            ← front, List.take_left, List.drop_left, kept, ← List.append_assoc,
            ← List.append_assoc, ← List.take_add,
            show position + (index - position) = index by omega]

theorem replaceAll_eq (text : Bytes) :
    replaceAll text (vocabulary.spelling name) value =
      vocabulary.substitute name value text := by
  have notEmpty : (vocabulary.spelling name).isEmpty = false :=
    List.isEmpty_eq_false_iff.mpr (vocabulary.nonempty name)
  rw [replaceAll, notEmpty]
  exact replaceAllLoop_eq vocabulary name value _ (Nat.zero_le _) (by omega)

end ReplaceAll

/-! ## The parts of `ApplyChatFormat` -/

/-- The template text in front of the first `{message}`. -/
def beforeMessage (format : Bytes) : Option Bytes :=
  (Bytes.find format (ascii "\x7bmessage\x7d") 0).map format.take

def templateParts (format message : Bytes) : Bytes × Bytes :=
  match Bytes.find format (ascii "\x7bmessage\x7d") 0 with
  | some place => peelColon (format.take place) message
  | none => (format, message)

/-- The template of the Sender field: the text in front of `{message}` without
its colon, or the whole template. -/
def senderTemplate (format : Bytes) : Bytes :=
  match beforeMessage format with
  | some front => (peelColon front []).1
  | none => format

/-- The space of a `": "` in front of `{message}` moves into the message. -/
def spaceMoves (format message : Bytes) : Bool :=
  (beforeMessage format).any (fun front => (ascii ": ").isSuffixOf front) &&
    !message.isEmpty && message.head? != some 0x20

def filledSender (format chatPrefix guild player : Bytes) : Bytes :=
  replaceAll
    (replaceAll
      (replaceAll (senderTemplate format) (ascii "\x7bprefix\x7d") chatPrefix)
      (ascii "\x7bguild\x7d") guild)
    (ascii "\x7bplayer\x7d") player

/-- What happens to the filled text: the bracket cleanup, the leading bracket
that the game adds itself, and the name alone when nothing is left. -/
def finishSender (player filled : Bytes) : Bytes :=
  let cleaned := cleanupEmptyGuildBrackets filled
  let opened := if cleaned.head? = some 0x5B then cleaned.tail else cleaned
  if opened.isEmpty then
    if player.isEmpty then ascii "Unknown" else player
  else opened

theorem peelColon_fst (front message : Bytes) :
    (peelColon front message).1 = (peelColon front []).1 := by
  unfold peelColon
  split
  · rfl
  · split <;> rfl

theorem peelColon_snd (front message : Bytes) :
    (peelColon front message).2 =
      if (ascii ": ").isSuffixOf front && !message.isEmpty && message.head? != some 0x20 then
        0x20 :: message
      else message := by
  unfold peelColon
  cases ends : (ascii ": ").isSuffixOf front with
  | false =>
      simp only [Bool.false_and, Bool.false_eq_true, if_false]
      split <;> rfl
  | true =>
      cases message with
      | nil => rfl
      | cons first rest =>
          by_cases space : first = 0x20 <;> simp [space]

theorem templateParts_eq (format message : Bytes) :
    templateParts format message =
      (senderTemplate format, if spaceMoves format message then 0x20 :: message else message) := by
  unfold templateParts senderTemplate spaceMoves beforeMessage
  cases Bytes.find format (ascii "\x7bmessage\x7d") 0 with
  | none => rfl
  | some place => exact Prod.ext (peelColon_fst _ message) (peelColon_snd _ message)

theorem applyChatFormat_eq {format : Bytes} (nonempty : format ≠ [])
    (chatPrefix guild player message : Bytes) :
    applyChatFormat format chatPrefix guild player message =
      (finishSender player (filledSender format chatPrefix guild player),
        if spaceMoves format message then 0x20 :: message else message) := by
  have notEmpty : format.isEmpty = false := List.isEmpty_eq_false_iff.mpr nonempty
  have parts := templateParts_eq format message
  have sender := congrArg Prod.fst parts
  have field := congrArg Prod.snd parts
  have kept : (if (templateParts format message).2.isEmpty then message
      else (templateParts format message).2) = (templateParts format message).2 := by
    rw [field]
    cases message with
    | nil => simp [spaceMoves]
    | cons first rest => cases spaceMoves format (first :: rest) <;> rfl
  have folded : applyChatFormat format chatPrefix guild player message =
      (finishSender player
        (replaceAll
          (replaceAll
            (replaceAll (templateParts format message).1 (ascii "\x7bprefix\x7d") chatPrefix)
            (ascii "\x7bguild\x7d") guild)
          (ascii "\x7bplayer\x7d") player),
        if (templateParts format message).2.isEmpty then message
        else (templateParts format message).2) := by
    unfold applyChatFormat
    rw [notEmpty, if_neg Bool.false_ne_true]
    rfl
  rw [folded, kept, field, sender, filledSender]

theorem finishSender_ne_nil (player filled : Bytes) : finishSender player filled ≠ [] :=
  fallback_ne_nil (fallback_ne_nil (by decide) player) _

theorem unformattedSender_ne_nil (chatPrefix player : Bytes) :
    unformattedSender chatPrefix player ≠ [] :=
  fallback_ne_nil (by decide) _

/-! ## The message field -/

theorem spaceMoves_nil (message : Bytes) : spaceMoves [] message = false := by
  have nowhere : beforeMessage [] = none := by decide
  rw [spaceMoves, nowhere]
  rfl

theorem applyChatFormat_snd (format chatPrefix guild player message : Bytes) :
    (applyChatFormat format chatPrefix guild player message).2 =
      if spaceMoves format message then 0x20 :: message else message := by
  cases format with
  | nil =>
      rw [spaceMoves_nil]
      rfl
  | cons first rest => rw [applyChatFormat_eq (List.cons_ne_nil first rest)]

theorem applyChatFormat_fst (format chatPrefix guild player message : Bytes) :
    (applyChatFormat format chatPrefix guild player message).1 =
      if format.isEmpty then unformattedSender chatPrefix player
      else finishSender player (filledSender format chatPrefix guild player) := by
  cases format with
  | nil => simp only [applyChatFormat, List.isEmpty_nil, if_true]
  | cons first rest =>
      rw [applyChatFormat_eq (List.cons_ne_nil first rest), List.isEmpty_cons,
        if_neg Bool.false_ne_true]

/-- The message stays in its field: as it is, or with the space of the template
in front of it. The sender is never empty and has nothing of the message. -/
theorem messageField (format chatPrefix guild player message : Bytes) :
    ((applyChatFormat format chatPrefix guild player message).2 = message ∨
      ((∃ front, beforeMessage format = some front ∧ ascii ": " <:+ front) ∧
        message ≠ [] ∧ message.head? ≠ some 0x20 ∧
        (applyChatFormat format chatPrefix guild player message).2 = 0x20 :: message)) ∧
    (applyChatFormat format chatPrefix guild player message).1 ≠ [] ∧
    ∀ other, (applyChatFormat format chatPrefix guild player other).1 =
      (applyChatFormat format chatPrefix guild player message).1 := by
  refine ⟨?_, ?_, fun other => ?_⟩
  · rw [applyChatFormat_snd]
    cases moves : spaceMoves format message with
    | false => exact Or.inl rfl
    | true =>
        right
        rw [spaceMoves, Bool.and_eq_true, Bool.and_eq_true] at moves
        rcases moves with ⟨⟨ends, hasText⟩, noSpace⟩
        rcases (Option.any_eq_true _ _).mp ends with ⟨front, found, isSuffix⟩
        exact ⟨⟨front, found, List.isSuffixOf_iff_suffix.mp isSuffix⟩,
          by simpa using hasText, by simpa using noSpace, rfl⟩
  · rw [applyChatFormat_fst]
    split
    · exact unformattedSender_ne_nil chatPrefix player
    · exact finishSender_ne_nil player _
  · rw [applyChatFormat_fst, applyChatFormat_fst]

end PalCrosschat
