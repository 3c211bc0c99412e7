import PalCrosschat.EmptyBrackets
import PalCrosschat.LiteralValues
import PalCrosschat.NormalForm

/-! # Whose name the sender shows

The cleanup runs over the whole line, the player's name included. A name it does
not touch can be read off the sender; but to every template there are names that
it makes equal. -/

namespace PalCrosschat

open Bytes (ascii)

/-- The template text in front of `{message}` names the player. -/
def namesPlayer (format : Bytes) : Prop :=
  ascii "\x7bplayer\x7d" <:+: (beforeMessage format).getD format

structure SanitizedName (name : Bytes) : Prop where
  nonempty : name ≠ []
  clean : ∃ maxBytes, sanitizeMessage name maxBytes = name

/-- A clean name that the cleanup leaves alone in every line: without an empty
bracket pair or two spaces in a row, and with no bracket at its ends that could
pair with one of the template. -/
structure ShownAsIs (name : Bytes) : Prop extends SanitizedName name where
  noPair : ¬ascii "[]" <:+: name
  noBlankPair : ¬ascii "[ ]" <:+: name
  single : name.IsChain fun left right => left ≠ 0x20 ∨ right ≠ 0x20
  firstOpening : name.head? ≠ some 0x5B
  firstClosing : name.head? ≠ some 0x5D
  lastOpening : name.getLast? ≠ some 0x5B

/-- Two different players never share a sender. -/
def DistinctSenders (format chatPrefix guild : Bytes) : Prop :=
  ∀ name other message otherMessage, SanitizedName name → SanitizedName other → name ≠ other →
    (applyChatFormat format chatPrefix guild name message).1 ≠
      (applyChatFormat format chatPrefix guild other otherMessage).1

/-! ## Clean names -/

namespace SanitizedName

variable {name : Bytes} (sanitized : SanitizedName name)
include sanitized

theorem stripped : stripControlAndTrim name = name := by
  rcases sanitized.clean with ⟨maxBytes, clean⟩
  have isPrefix := sanitizeMessage_isPrefix name maxBytes
  rw [clean] at isPrefix
  have shorter : (stripControlAndTrim name).length ≤ name.length :=
    (Bytes.length_trimBoth_le _ _).trans (List.length_filter_le _ _)
  exact (isPrefix.eq_of_length_le shorter).symm

theorem noControl : ∀ byte ∈ name, Bytes.isControl byte = false := by
  intro byte member
  rw [← sanitized.stripped] at member
  exact not_isControl_of_mem_strip member

theorem first {byte : UInt8} (isFirst : name.head? = some byte) :
    Bytes.isSpace byte = false := by
  rcases sanitized.clean with ⟨maxBytes, clean⟩
  rw [← clean] at isFirst
  exact head_sanitizeMessage isFirst

theorem last {byte : UInt8} (isLast : name.getLast? = some byte) :
    Bytes.isSpace byte = false := by
  rw [← sanitized.stripped] at isLast
  exact getLast?_stripControlAndTrim isLast

theorem head_ne_space : name.head? ≠ some 0x20 := fun isFirst =>
  absurd (sanitized.first isFirst) (by decide)

theorem getLast_ne_space : name.getLast? ≠ some 0x20 := fun isLast =>
  absurd (sanitized.last isLast) (by decide)

end SanitizedName

theorem eq_space_of_isBlank {byte : UInt8} (kept : Bytes.isControl byte = false)
    (blank : isBlank byte = true) : byte = 0x20 := by
  rcases (Bool.or_eq_true _ _).mp blank with space | tab
  · exact beq_iff_eq.mp space
  · rw [beq_iff_eq.mp tab] at kept
    cases kept

/-! ## The patterns around a name -/

theorem isolated_of_ends {key part : Bytes} {first last : UInt8}
    (isFirst : part.head? = some first) (isLast : part.getLast? = some last)
    (freshFirst : first ∉ key.tail) (freshLast : last ∉ key.dropLast) : Isolated key part where
  left front back hasFront hasBack split := by
    have nonempty : part ≠ [] := by
      rintro rfl
      cases isFirst
    have notHead : back.head? ≠ some first := by
      intro same
      apply freshFirst
      rw [split, List.tail_append_of_ne_nil hasFront]
      exact List.mem_append_right _ (List.mem_of_head? same)
    constructor
    · rintro ⟨rest, rfl⟩
      rw [List.head?_append_of_ne_nil _ hasBack] at isFirst
      exact notHead isFirst
    · rintro ⟨rest, rfl⟩
      rw [List.head?_append_of_ne_nil _ nonempty] at notHead
      exact notHead isFirst
  right front back hasFront hasBack split := by
    have nonempty : part ≠ [] := by
      rintro rfl
      cases isFirst
    have notLast : front.getLast? ≠ some last := by
      intro same
      apply freshLast
      rw [split, List.dropLast_append_of_ne_nil hasBack]
      exact List.mem_append_left _ (List.mem_of_getLast? same)
    constructor
    · rintro ⟨rest, rfl⟩
      rw [List.getLast?_append_of_ne_nil _ hasFront] at isLast
      exact notLast isLast
    · rintro ⟨rest, rfl⟩
      rw [List.getLast?_append_of_ne_nil _ nonempty] at notLast
      exact notLast isLast

namespace ShownAsIs

variable {name : Bytes} (shown : ShownAsIs name)
include shown

theorem isolated_pair : Isolated (brackets.spelling .pair) name := by
  cases isFirst : name.head? with
  | none => exact absurd (List.head?_eq_none_iff.mp isFirst) shown.nonempty
  | some first =>
      cases isLast : name.getLast? with
      | none => exact absurd (List.getLast?_eq_none_iff.mp isLast) shown.nonempty
      | some last =>
          have notClosing : first ≠ 0x5D := fun same => shown.firstClosing (same ▸ isFirst)
          have notOpening : last ≠ 0x5B := fun same => shown.lastOpening (same ▸ isLast)
          apply isolated_of_ends isFirst isLast
          · rw [show (brackets.spelling .pair).tail = [0x5D] by rfl, List.mem_singleton]
            exact notClosing
          · rw [show (brackets.spelling .pair).dropLast = [0x5B] by rfl, List.mem_singleton]
            exact notOpening

theorem isolated_blankPair : Isolated (brackets.spelling .blankPair) name := by
  cases isFirst : name.head? with
  | none => exact absurd (List.head?_eq_none_iff.mp isFirst) shown.nonempty
  | some first =>
      cases isLast : name.getLast? with
      | none => exact absurd (List.getLast?_eq_none_iff.mp isLast) shown.nonempty
      | some last =>
          have notClosing : first ≠ 0x5D := fun same => shown.firstClosing (same ▸ isFirst)
          have firstSpace : first ≠ 0x20 := fun same => shown.head_ne_space (same ▸ isFirst)
          have notOpening : last ≠ 0x5B := fun same => shown.lastOpening (same ▸ isLast)
          have lastSpace : last ≠ 0x20 := fun same => shown.getLast_ne_space (same ▸ isLast)
          apply isolated_of_ends isFirst isLast
          · rw [show (brackets.spelling .blankPair).tail = [0x20, 0x5D] by rfl]
            simp [firstSpace, notClosing]
          · rw [show (brackets.spelling .blankPair).dropLast = [0x5B, 0x20] by rfl]
            simp [lastSpace, notOpening]

theorem dropPairs_join (runs : Runs UInt8) :
    dropBlankPairs (dropPairs (runs.join name)) =
      ((runs.map dropPairs).map dropBlankPairs).join name := by
  have pair : dropPairs name = name := delete_eq_self shown.noPair
  have blankPair : dropBlankPairs name = name := delete_eq_self shown.noBlankPair
  have first : dropPairs (runs.join name) = (runs.map dropPairs).join (dropPairs name) :=
    brackets.substitute_join shown.isolated_pair [] runs
  have second : dropBlankPairs ((runs.map dropPairs).join name) =
      ((runs.map dropPairs).map dropBlankPairs).join (dropBlankPairs name) :=
    brackets.substitute_join shown.isolated_blankPair [] _
  rw [first, pair, second, blankPair]

end ShownAsIs

/-! ## Blanks around a name -/

theorem Collapsed.of_chain {text : Bytes}
    (single : text.IsChain fun left right => left ≠ 0x20 ∨ right ≠ 0x20)
    (noControl : ∀ byte ∈ text, Bytes.isControl byte = false) {previousSpace : Bool}
    (starts : previousSpace = true → text.head? ≠ some 0x20) : Collapsed previousSpace text := by
  induction text generalizing previousSpace with
  | nil => exact .nil previousSpace
  | cons byte rest induction =>
      rcases List.isChain_cons.mp single with ⟨next, restSingle⟩
      have restKept : ∀ later ∈ rest, Bytes.isControl later = false :=
        fun later member => noControl later (List.mem_cons_of_mem _ member)
      cases blank : isBlank byte with
      | true =>
          have space := eq_space_of_isBlank (noControl byte List.mem_cons_self) blank
          subst space
          cases previousSpace with
          | true => exact absurd rfl (starts rfl)
          | false =>
              apply Collapsed.space
              apply induction restSingle restKept
              intro _ again
              exact (next 0x20 again).elim (fun different => different rfl)
                (fun different => different rfl)
      | false => exact .other blank (induction restSingle restKept (by simp))

theorem Collapsed.collapseLoop_append {part : Bytes} {previousSpace : Bool}
    (collapsed : Collapsed previousSpace part) (nonempty : part ≠ [])
    (ends : part.getLast? ≠ some 0x20) (rest : Bytes) :
    collapseLoop previousSpace (part ++ rest) = part ++ collapseLoop false rest := by
  induction collapsed with
  | nil => exact absurd rfl nonempty
  | @space later collapsed induction =>
      cases later with
      | nil => exact absurd rfl ends
      | cons byte later =>
          rw [List.cons_append, collapseLoop_blank rfl, if_neg Bool.false_ne_true,
            induction (List.cons_ne_nil _ _) (by simpa using ends)]
          rfl
  | @other previousSpace byte later other collapsed induction =>
      rw [List.cons_append, collapseLoop_other other]
      cases later with
      | nil => rfl
      | cons next later =>
          rw [induction (List.cons_ne_nil _ _) (by simpa using ends)]
          rfl

theorem collapseLoop_append (previousSpace : Bool) (front : Bytes) {part : Bytes}
    (starts : ∀ byte, part.head? = some byte → isBlank byte = false) :
    collapseLoop previousSpace (front ++ part) =
      collapseLoop previousSpace front ++ collapseLoop true part := by
  induction front generalizing previousSpace with
  | nil =>
      cases part with
      | nil => rfl
      | cons byte rest =>
          have other := starts byte rfl
          rw [List.nil_append, collapseLoop_other other, collapseLoop_other other]
          rfl
  | cons byte rest induction =>
      rw [List.cons_append]
      cases blank : isBlank byte with
      | true =>
          rw [collapseLoop_blank blank, collapseLoop_blank blank]
          cases previousSpace with
          | true => exact induction true
          | false => exact congrArg (0x20 :: ·) (induction true)
      | false =>
          rw [collapseLoop_other blank, collapseLoop_other blank, induction]
          rfl

theorem trimEnd_append {left : Bytes} (nonempty : left ≠ [])
    (ends : left.getLast? ≠ some 0x20) (right : Bytes) :
    trimEnd (left ++ right) = left ++ trimEnd right := by
  have stops : (left.reverse.dropWhile fun byte => byte == 0x20) = left.reverse := by
    cases reversed : left.reverse with
    | nil => exact absurd (List.reverse_eq_nil_iff.mp reversed) nonempty
    | cons byte rest =>
        have isLast : left.getLast? = some byte := by
          rw [← List.head?_reverse, reversed]
          rfl
        have notSpace : byte ≠ 0x20 := fun same => ends (same ▸ isLast)
        rw [List.dropWhile_cons_of_neg (by simpa using notSpace)]
  rw [trimEnd, List.reverse_append, List.dropWhile_append]
  split
  · rename_i allSpaces
    rw [stops, List.reverse_reverse, trimEnd, List.isEmpty_iff.mp allSpaces, List.reverse_nil,
      List.append_nil]
  · rw [List.reverse_append, List.reverse_reverse]
    rfl

/-! ## The line around the names -/

namespace ShownAsIs

variable {name : Bytes} (shown : ShownAsIs name)
include shown

theorem collapsed (previousSpace : Bool) : Collapsed previousSpace name :=
  .of_chain shown.single shown.noControl fun _ => shown.head_ne_space

theorem head_append {rest : Bytes} {byte : UInt8} (first : (name ++ rest).head? = some byte) :
    isBlank byte = false ∧ byte ≠ 0x20 ∧ byte ≠ 0x5B := by
  rw [List.head?_append_of_ne_nil _ shown.nonempty] at first
  have notSpace : byte ≠ 0x20 := fun same => shown.head_ne_space (same ▸ first)
  have notOpening : byte ≠ 0x5B := fun same => shown.firstOpening (same ▸ first)
  refine ⟨?_, notSpace, notOpening⟩
  rw [← Bool.not_eq_true]
  intro blank
  exact notSpace (eq_space_of_isBlank (shown.noControl byte (List.mem_of_head? first)) blank)

theorem collapseLoop_join (runs : Runs UInt8) :
    collapseLoop false (runs.join name) = (runs.map (collapseLoop false)).join name := by
  have behind : ∀ (rest : List Bytes) (first : Bytes),
      collapseLoop false (first ++ rest.flatMap fun run => name ++ run) =
        collapseLoop false first ++
          (rest.map (collapseLoop false)).flatMap fun run => name ++ run := by
    intro rest
    induction rest with
    | nil => simp
    | cons run rest induction =>
        intro first
        rw [List.flatMap_cons, List.append_assoc,
          collapseLoop_append false first fun byte isFirst => (shown.head_append isFirst).1,
          (shown.collapsed true).collapseLoop_append shown.nonempty shown.getLast_ne_space,
          induction run, List.map_cons, List.flatMap_cons, List.append_assoc]
  exact behind runs.rest runs.first

theorem dropWhile_append (front rest : Bytes) :
    ((front ++ (name ++ rest)).dropWhile fun byte => byte == 0x20) =
      (front.dropWhile fun byte => byte == 0x20) ++ (name ++ rest) := by
  rw [List.dropWhile_append]
  split
  · rename_i allSpaces
    rw [List.isEmpty_iff.mp allSpaces, List.nil_append]
    cases whole : name ++ rest with
    | nil => rfl
    | cons byte later =>
        have starts : (name ++ rest).head? = some byte := by
          rw [whole]
          rfl
        have notSpace := (shown.head_append starts).2.1
        rw [List.dropWhile_cons_of_neg (by simpa using notSpace)]
  · rfl

end ShownAsIs

theorem exists_trimEnd_join {rest : List Bytes} (occurs : rest ≠ []) :
    ∃ trimmed : List Bytes, trimmed ≠ [] ∧ ∀ {name : Bytes}, ShownAsIs name → ∀ front,
      trimEnd (front ++ rest.flatMap fun run => name ++ run) =
        front ++ trimmed.flatMap fun run => name ++ run := by
  induction rest with
  | nil => exact absurd rfl occurs
  | cons run rest induction =>
      cases rest with
      | nil =>
          refine ⟨[trimEnd run], List.cons_ne_nil _ _, fun {name} shown front => ?_⟩
          have ends : (front ++ name).getLast? ≠ some 0x20 := by
            rw [List.getLast?_append_of_ne_nil _ shown.nonempty]
            exact shown.getLast_ne_space
          rw [List.flatMap_singleton, List.flatMap_singleton, ← List.append_assoc,
            trimEnd_append (by simp [shown.nonempty]) ends, List.append_assoc]
      | cons next rest =>
          rcases induction (List.cons_ne_nil _ _) with ⟨trimmed, occursLater, later⟩
          refine ⟨run :: trimmed, List.cons_ne_nil _ _, fun {name} shown front => ?_⟩
          have whole := later shown (front ++ (name ++ run))
          rw [List.append_assoc] at whole
          change trimEnd (front ++ ((name ++ run) ++
            (next :: rest).flatMap fun run => name ++ run)) = _
          rw [whole, List.append_assoc]
          rfl

theorem exists_collapseSpaces_join {runs : Runs UInt8} (occurs : runs.rest ≠ []) :
    ∃ collapsed : Runs UInt8, collapsed.rest ≠ [] ∧ ∀ {name : Bytes}, ShownAsIs name →
      collapseSpaces (runs.join name) = collapsed.join name := by
  rcases runs with ⟨first, rest⟩
  have more : rest.map (collapseLoop false) ≠ [] := by simpa using occurs
  rcases exists_trimEnd_join more with ⟨trimmed, occursLater, ends⟩
  refine ⟨⟨(collapseLoop false first).dropWhile fun byte => byte == 0x20, trimmed⟩, occursLater,
    fun {name} shown => ?_⟩
  rw [collapseSpaces_eq, shown.collapseLoop_join]
  rcases List.exists_cons_of_ne_nil more with ⟨run, later, shape⟩
  have starts : ((collapseLoop false first ++
      (rest.map (collapseLoop false)).flatMap fun run => name ++ run).dropWhile
        fun byte => byte == 0x20) =
      ((collapseLoop false first).dropWhile fun byte => byte == 0x20) ++
        (rest.map (collapseLoop false)).flatMap fun run => name ++ run := by
    rw [shape, List.flatMap_cons, List.append_assoc, shown.dropWhile_append]
  have whole := ends shown ((collapseLoop false first).dropWhile fun byte => byte == 0x20)
  rw [← starts] at whole
  exact whole

theorem exists_openedSender_join {runs : Runs UInt8} (occurs : runs.rest ≠ []) :
    ∃ opened : Runs UInt8, opened.rest ≠ [] ∧ ∀ {name : Bytes}, ShownAsIs name →
      openedSender (runs.join name) = opened.join name := by
  have deleted : ((runs.map dropPairs).map dropBlankPairs).rest ≠ [] := by
    simpa [Runs.map] using occurs
  rcases exists_collapseSpaces_join deleted with ⟨⟨first, rest⟩, occursLater, collapsed⟩
  have cleaned : ∀ {name : Bytes}, ShownAsIs name →
      cleanupEmptyGuildBrackets (runs.join name) = (Runs.mk first rest).join name := by
    intro name shown
    rw [cleanupEmptyGuildBrackets_eq, shown.dropPairs_join, collapsed shown]
  by_cases opening : first.head? = some 0x5B
  · refine ⟨⟨first.tail, rest⟩, occursLater, fun {name} shown => ?_⟩
    rw [openedSender, cleaned shown]
    cases first with
    | nil => cases opening
    | cons byte first => exact if_pos opening
  · refine ⟨⟨first, rest⟩, occursLater, fun {name} shown => ?_⟩
    rw [openedSender, cleaned shown]
    apply if_neg
    cases first with
    | nil =>
        rcases List.exists_cons_of_ne_nil occursLater with ⟨run, later, shape⟩
        rw [Runs.join, List.nil_append]
        intro starts
        change (rest.flatMap fun run => name ++ run).head? = some 0x5B at starts
        rw [show rest = run :: later from shape, List.flatMap_cons, List.append_assoc] at starts
        exact (shown.head_append starts).2.2 rfl
    | cons byte first => exact opening

/-! ## The sender of a template -/

theorem infix_of_append_singleton {pattern text : Bytes} {last : UInt8}
    (inText : pattern <:+: text ++ [last]) (nonempty : pattern ≠ [])
    (different : pattern.getLast? ≠ some last) : pattern <:+: text := by
  rcases inText with ⟨front, back, split⟩
  rcases List.eq_nil_or_concat back with rfl | ⟨back, final, rfl⟩
  · exfalso
    apply different
    have lasts := congrArg List.getLast? split
    rw [List.append_nil, List.getLast?_append_of_ne_nil _ nonempty] at lasts
    simpa using lasts
  · rw [List.concat_eq_append, ← List.append_assoc] at split
    exact ⟨front, back, (List.append_inj' split rfl).1⟩

theorem infix_senderTemplate {format : Bytes} (names : namesPlayer format) :
    ascii "\x7bplayer\x7d" <:+: senderTemplate format := by
  unfold namesPlayer at names
  unfold senderTemplate
  cases split : beforeMessage format with
  | none => simpa [split] using names
  | some front =>
      rw [split, Option.getD_some] at names
      dsimp only
      unfold peelColon
      split
      · rename_i colonSpace
        rcases List.isSuffixOf_iff_suffix.mp colonSpace with ⟨start, rfl⟩
        have whole : start ++ ascii ": " = (start ++ [0x3A]) ++ [0x20] := by
          rw [List.append_assoc]
          rfl
        rw [whole, List.dropLast_concat, List.dropLast_concat]
        rw [whole] at names
        exact infix_of_append_singleton
          (infix_of_append_singleton names (by decide) (by decide)) (by decide) (by decide)
      · split
        · rename_i colon
          have nonempty : front ≠ [] := by
            rintro rfl
            cases colon
          have whole : front.dropLast ++ [0x3A] = front := by
            have last : front.getLast nonempty = 0x3A := by
              rw [List.getLast?_eq_some_getLast nonempty] at colon
              exact Option.some.inj colon
            rw [← last, List.dropLast_append_getLast nonempty]
          rw [← whole] at names
          exact infix_of_append_singleton names (by decide) (by decide)
        · exact names

theorem ne_nil_of_namesPlayer {format : Bytes} (names : namesPlayer format) : format ≠ [] := by
  rintro rfl
  have nowhere : beforeMessage [] = none := by decide
  rw [namesPlayer, nowhere, Option.getD_none, List.infix_nil] at names
  exact absurd names (by decide)

theorem exists_filledSender_join {format : Bytes} (names : namesPlayer format)
    (chatPrefix guild : Bytes) :
    ∃ runs : Runs UInt8, runs.rest ≠ [] ∧ ∀ player,
      filledSender format chatPrefix guild player = runs.join player := by
  have inTemplate : 0 < placeholders.occurrences .player (senderTemplate format) := by
    apply Nat.pos_of_ne_zero
    intro none
    exact (placeholders.occurrences_eq_zero_iff .player _).mp none (infix_senderTemplate names)
  have afterPrefix := placeholders_delimited.occurrences_le_substitute
    (show Placeholder.player ≠ .chatPrefix by decide) chatPrefix (senderTemplate format)
  have afterGuild := placeholders_delimited.occurrences_le_substitute
    (show Placeholder.player ≠ .guild by decide) guild
    (placeholders.substitute .chatPrefix chatPrefix (senderTemplate format))
  refine ⟨Token.runs (placeholders.scan [.player] (placeholders.substitute .guild guild
    (placeholders.substitute .chatPrefix chatPrefix (senderTemplate format)))), ?_, ?_⟩
  · exact Token.runs_rest_ne_nil
      (Nat.lt_of_lt_of_le inTemplate (afterPrefix.trans afterGuild))
  · intro player
    rw [← Token.fill_eq_join, filledSender, replaceAll_chatPrefix, replaceAll_guild,
      replaceAll_player]
    rfl

/-- The opened line around a name that is shown as it is. -/
theorem exists_openedSender {format : Bytes} (names : namesPlayer format)
    (chatPrefix guild : Bytes) :
    ∃ runs : Runs UInt8, runs.rest ≠ [] ∧ ∀ {name : Bytes}, ShownAsIs name →
      openedSender (filledSender format chatPrefix guild name) = runs.join name ∧
        openedSender (filledSender format chatPrefix guild name) ≠ [] := by
  rcases exists_filledSender_join names chatPrefix guild with ⟨runs, occurs, filled⟩
  rcases exists_openedSender_join occurs with ⟨opened, occursLater, shownLine⟩
  refine ⟨opened, occursLater, fun {name} shown => ?_⟩
  have line : openedSender (filledSender format chatPrefix guild name) = opened.join name := by
    rw [filled, shownLine shown]
  refine ⟨line, ?_⟩
  rw [line]
  intro nothing
  have length := congrArg List.length nothing
  rw [Runs.length_join, List.length_nil] at length
  have positive := Nat.mul_pos (List.length_pos_iff.mpr occursLater)
    (List.length_pos_iff.mpr shown.nonempty)
  omega

/-- A line that keeps something is the sender. -/
theorem sender_eq_openedSender {format : Bytes} (names : namesPlayer format)
    {chatPrefix guild player : Bytes} (message : Bytes)
    (something : openedSender (filledSender format chatPrefix guild player) ≠ []) :
    (applyChatFormat format chatPrefix guild player message).1 =
      openedSender (filledSender format chatPrefix guild player) := by
  rw [applyChatFormat_eq (ne_nil_of_namesPlayer names)]
  dsimp only
  rw [finishSender_eq, List.isEmpty_eq_false_iff.mpr something, if_neg Bool.false_ne_true]

theorem openedSender_imitated {format : Bytes} (names : namesPlayer format)
    (chatPrefix guild : Bytes) :
    openedSender (filledSender format chatPrefix guild (ascii "a[]b")) =
      openedSender (filledSender format chatPrefix guild (ascii "ab")) := by
  rcases exists_filledSender_join names chatPrefix guild with ⟨runs, -, filled⟩
  have isolated : ∀ name : Bytes, name.head? = some 0x61 → name.getLast? = some 0x62 →
      dropPairs (runs.join name) = (runs.map dropPairs).join (dropPairs name) := by
    intro name first last
    exact brackets.substitute_join
      (isolated_of_ends first last (by decide) (by decide)) [] runs
  have same : dropPairs (ascii "a[]b") = dropPairs (ascii "ab") := by decide
  rw [openedSender_eq, openedSender_eq, filled, filled, isolated (ascii "a[]b") (by decide)
    (by decide), isolated (ascii "ab") (by decide) (by decide), same]

theorem shownAsIs_ab : ShownAsIs (ascii "ab") where
  nonempty := by decide
  clean := ⟨2, by decide⟩
  noPair := by decide
  noBlankPair := by decide
  single := by decide
  firstOpening := by decide
  firstClosing := by decide
  lastOpening := by decide

theorem sanitizedName_imitator : SanitizedName (ascii "a[]b") where
  nonempty := by decide
  clean := ⟨4, by decide⟩

/-- No template keeps all names apart. Two names that are shown as they are have
different senders. -/
theorem senderNames {format : Bytes} (names : namesPlayer format) (chatPrefix guild : Bytes) :
    ¬DistinctSenders format chatPrefix guild ∧
    ∀ name other message otherMessage, ShownAsIs name → ShownAsIs other → name ≠ other →
      (applyChatFormat format chatPrefix guild name message).1 ≠
        (applyChatFormat format chatPrefix guild other otherMessage).1 := by
  rcases exists_openedSender names chatPrefix guild with ⟨runs, occurs, opened⟩
  constructor
  · intro distinct
    have something := (opened shownAsIs_ab).2
    have imitated := openedSender_imitated names chatPrefix guild
    have imitatedSomething :
        openedSender (filledSender format chatPrefix guild (ascii "a[]b")) ≠ [] := by
      rw [imitated]
      exact something
    apply distinct (ascii "a[]b") (ascii "ab") [] [] sanitizedName_imitator
      shownAsIs_ab.toSanitizedName (by decide)
    rw [sender_eq_openedSender names [] something,
      sender_eq_openedSender names [] imitatedSomething, imitated]
  · intro name other message otherMessage shown otherShown different same
    rcases opened shown with ⟨line, something⟩
    rcases opened otherShown with ⟨otherLine, otherSomething⟩
    rw [sender_eq_openedSender names message something,
      sender_eq_openedSender names otherMessage otherSomething, line, otherLine] at same
    exact different (Runs.join_injective occurs same)

theorem senderNames_default :
    ¬DistinctSenders plainConfig.chatFormat (ascii "EU") (ascii "Guild") ∧
    ∀ name other message otherMessage, ShownAsIs name → ShownAsIs other → name ≠ other →
      (applyChatFormat plainConfig.chatFormat (ascii "EU") (ascii "Guild") name message).1 ≠
        (applyChatFormat plainConfig.chatFormat (ascii "EU") (ascii "Guild") other
          otherMessage).1 :=
  senderNames (by unfold namesPlayer; decide +kernel) _ _

/-- The members `Bob[]` and `Bob` of one guild have one sender. -/
theorem senderNames_fails :
    ¬DistinctSenders plainConfig.chatFormat (ascii "EU") (ascii "Guild") := by
  intro distinct
  apply distinct (ascii "Bob[]") (ascii "Bob") (ascii "hi") (ascii "hi")
    ⟨by decide, 5, by decide +kernel⟩ ⟨by decide, 3, by decide +kernel⟩ (by decide)
  decide +kernel

end PalCrosschat
