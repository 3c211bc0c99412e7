import Mathlib.Data.List.Chain
import PalCrosschat.BracketCleanup
import PalCrosschat.Config

/-! # What the cleanup leaves of an empty guild

One round of the cleanup takes out the pairs that are empty when it starts.
Pairs around them are empty afterwards and stay, and what is done to the line
behind the cleanup can put a space at its start again. -/

namespace PalCrosschat

open Bytes (ascii)

/-! ## Hollow brackets -/

/-- Scan for a `[` that is followed by blanks only, up to a `]`. -/
def hollowFrom : (pending : Bool) → Bytes → Bool
  | _, [] => false
  | pending, byte :: rest =>
      if byte == 0x5B then hollowFrom true rest
      else if isBlank byte then hollowFrom pending rest
      else if byte == 0x5D then pending || hollowFrom false rest
      else hollowFrom false rest

def hollow (text : Bytes) : Bool := hollowFrom false text

theorem hollowFrom_blank {byte : UInt8} (blank : isBlank byte = true) (pending : Bool)
    (rest : Bytes) : hollowFrom pending (byte :: rest) = hollowFrom pending rest := by
  have notOpening : (byte == 0x5B) = false := by
    cases opening : byte == 0x5B with
    | false => rfl
    | true =>
        rw [beq_iff_eq.mp opening] at blank
        cases blank
  rw [hollowFrom, notOpening, blank]
  rfl

theorem hollowFrom_other {byte : UInt8} (other : isBlank byte = false) (pending : Bool)
    (rest : Bytes) :
    hollowFrom pending (byte :: rest) =
      if byte == 0x5B then hollowFrom true rest
      else if byte == 0x5D then pending || hollowFrom false rest
      else hollowFrom false rest := by
  rw [hollowFrom, other]
  rfl

theorem hollowFrom_collapseLoop (previousSpace pending : Bool) (text : Bytes) :
    hollowFrom pending (collapseLoop previousSpace text) = hollowFrom pending text := by
  induction text generalizing previousSpace pending with
  | nil => rfl
  | cons byte rest induction =>
      cases blank : isBlank byte with
      | true =>
          rw [collapseLoop_blank blank, hollowFrom_blank blank]
          cases previousSpace with
          | true => exact induction true pending
          | false =>
              rw [if_neg Bool.false_ne_true, hollowFrom_blank rfl]
              exact induction true pending
      | false =>
          rw [collapseLoop_other blank, hollowFrom_other blank, hollowFrom_other blank]
          simp only [induction]

theorem hollowFrom_append_spaces (pending : Bool) (text : Bytes) {spaces : Bytes}
    (onlySpaces : ∀ byte ∈ spaces, byte = 0x20) :
    hollowFrom pending (text ++ spaces) = hollowFrom pending text := by
  induction text generalizing pending with
  | nil =>
      induction spaces with
      | nil => rfl
      | cons space spaces later =>
          rw [List.nil_append, onlySpaces space List.mem_cons_self, hollowFrom_blank rfl]
          exact later fun byte member => onlySpaces byte (List.mem_cons_of_mem _ member)
  | cons byte rest induction =>
      rw [List.cons_append]
      cases blank : isBlank byte with
      | true => rw [hollowFrom_blank blank, hollowFrom_blank blank, induction]
      | false =>
          rw [hollowFrom_other blank, hollowFrom_other blank]
          simp only [induction]

theorem hollowFrom_dropWhile (pending : Bool) (text : Bytes) :
    hollowFrom pending (text.dropWhile fun byte => byte == 0x20) = hollowFrom pending text := by
  induction text with
  | nil => rfl
  | cons byte rest induction =>
      by_cases space : byte = 0x20
      · subst space
        rw [hollowFrom_blank rfl]
        exact induction
      · rw [List.dropWhile_cons_of_neg (by simpa using space)]

def trimEnd (text : Bytes) : Bytes :=
  (text.reverse.dropWhile fun byte => byte == 0x20).reverse

theorem trimEnd_append_spaces (text : Bytes) :
    ∃ spaces, text = trimEnd text ++ spaces ∧ ∀ byte ∈ spaces, byte = 0x20 := by
  refine ⟨(text.reverse.takeWhile fun byte => byte == 0x20).reverse, ?_, ?_⟩
  · rw [trimEnd, ← List.reverse_append, List.takeWhile_append_dropWhile, List.reverse_reverse]
  · intro byte member
    have isSpace := List.mem_takeWhile_imp (List.mem_reverse.mp member)
    exact beq_iff_eq.mp isSpace

theorem collapseSpaces_eq (text : Bytes) :
    collapseSpaces text =
      trimEnd ((collapseLoop false text).dropWhile fun byte => byte == 0x20) := rfl

theorem hollow_collapseSpaces (text : Bytes) : hollow (collapseSpaces text) = hollow text := by
  rcases trimEnd_append_spaces ((collapseLoop false text).dropWhile fun byte => byte == 0x20) with
    ⟨spaces, split, onlySpaces⟩
  rw [collapseSpaces_eq, hollow, hollow, ← hollowFrom_append_spaces _ _ onlySpaces, ← split,
    hollowFrom_dropWhile, hollowFrom_collapseLoop]

theorem Collapsed.not_space {text : Bytes} (collapsed : Collapsed true text) (rest : Bytes) :
    ¬0x20 :: rest <+: text := by
  intro isPrefix
  cases collapsed with
  | nil => simp at isPrefix
  | other other later =>
      exact ne_space_of_not_blank other (List.cons_prefix_cons.mp isPrefix).1.symm

/-- In a collapsed text only `[]` and `[ ]` are hollow. -/
theorem Collapsed.hollowFrom_iff {text : Bytes} {previousSpace : Bool}
    (collapsed : Collapsed previousSpace text) (pending : Bool) :
    hollowFrom pending text = true ↔
      (pending = true ∧ ([0x5D] <+: text ∨ [0x20, 0x5D] <+: text)) ∨
        [0x5B, 0x5D] <:+: text ∨ [0x5B, 0x20, 0x5D] <:+: text := by
  induction collapsed generalizing pending with
  | nil => simp [hollowFrom]
  | space rest induction =>
      rw [hollowFrom_blank rfl, induction pending]
      simp [List.infix_cons_iff, List.cons_prefix_cons, rest.not_space]
  | @other previousSpace byte rest other later induction =>
      have notSpace := ne_space_of_not_blank other
      rw [hollowFrom_other other]
      by_cases opening : byte = 0x5B
      · subst opening
        rw [if_pos (beq_self_eq_true _), induction true]
        simp [List.infix_cons_iff, List.cons_prefix_cons, or_or_or_comm]
      · rw [if_neg (by simpa using opening)]
        by_cases closing : byte = 0x5D
        · subst closing
          rw [if_pos (beq_self_eq_true _), Bool.or_eq_true, induction false]
          simp [List.infix_cons_iff, List.cons_prefix_cons]
        · rw [if_neg (by simpa using closing), induction false]
          simp [List.infix_cons_iff, List.cons_prefix_cons, Ne.symm opening, Ne.symm closing,
            Ne.symm notSpace]

theorem hollow_iff_of_collapsed {text : Bytes} (collapsed : Collapsed false text) :
    hollow text = true ↔ ascii "[]" <:+: text ∨ ascii "[ ]" <:+: text := by
  rw [hollow, collapsed.hollowFrom_iff false]
  simp [show ascii "[]" = [0x5B, 0x5D] by rfl, show ascii "[ ]" = [0x5B, 0x20, 0x5D] by rfl]

/-! ## The fixed point -/

section Deleting

variable {name : BracketPattern} {text : Bytes}

theorem delete_eq_self (absent : ¬brackets.spelling name <:+: text) :
    brackets.substitute name [] text = text :=
  brackets.substitute_eq_self [] ((brackets.occurrences_eq_zero_iff name text).mpr absent)

theorem length_delete_le (name : BracketPattern) (text : Bytes) :
    (brackets.substitute name [] text).length ≤ text.length := by
  have lengths := brackets.length_substitute name [] text
  rw [List.length_nil, Nat.mul_zero, Nat.add_zero] at lengths
  omega

theorem length_delete_lt (present : brackets.spelling name <:+: text) :
    (brackets.substitute name [] text).length < text.length := by
  have lengths := brackets.length_substitute name [] text
  have occurs : brackets.occurrences name text ≠ 0 := fun none =>
    (brackets.occurrences_eq_zero_iff name text).mp none present
  have deleted : 0 < brackets.occurrences name text * (brackets.spelling name).length :=
    Nat.mul_pos (Nat.pos_of_ne_zero occurs) (List.length_pos_iff.mpr (brackets.nonempty name))
  rw [List.length_nil, Nat.mul_zero, Nat.add_zero] at lengths
  omega

end Deleting

theorem length_collapseLoop_le (previousSpace : Bool) (text : Bytes) :
    (collapseLoop previousSpace text).length ≤ text.length := by
  induction text generalizing previousSpace with
  | nil => exact Nat.le_refl 0
  | cons byte rest induction =>
      have afterSpace := induction true
      have afterOther := induction false
      cases blank : isBlank byte with
      | true =>
          rw [collapseLoop_blank blank]
          split <;> simp only [List.length_cons] <;> omega
      | false =>
          rw [collapseLoop_other blank, List.length_cons, List.length_cons]
          omega

theorem length_collapseSpaces_le (text : Bytes) :
    (collapseSpaces text).length ≤ text.length :=
  (Bytes.length_trimBoth_le _ _).trans (length_collapseLoop_le false text)

theorem head_collapseSpaces {text : Bytes} {byte : UInt8}
    (first : (collapseSpaces text).head? = some byte) : byte ≠ 0x20 := by
  have kept := Bytes.head_trimBoth first
  simpa using kept

theorem getLast_collapseSpaces {text : Bytes} {byte : UInt8}
    (last : (collapseSpaces text).getLast? = some byte) : byte ≠ 0x20 := by
  rw [collapseSpaces_eq, trimEnd, List.getLast?_reverse] at last
  have stops := List.head?_dropWhile_not (fun byte : UInt8 => byte == 0x20)
    ((collapseLoop false text).dropWhile fun byte => byte == 0x20).reverse
  rw [last] at stops
  simpa using stops

theorem collapseSpaces_idempotent (text : Bytes) :
    collapseSpaces (collapseSpaces text) = collapseSpaces text := by
  change Bytes.trimBoth _ (collapseLoop false (collapseSpaces text)) = _
  rw [(collapsed_collapseSpaces text).collapseLoop_eq]
  apply Bytes.trimBoth_of_ends
  · intro byte first
    simpa using head_collapseSpaces first
  · intro byte last
    simpa using getLast_collapseSpaces last

/-- A second round changes nothing exactly when no bracket pair is hollow after
the first. -/
theorem cleanup_fixed_iff (text : Bytes) :
    cleanupEmptyGuildBrackets (collapseSpaces text) = collapseSpaces text ↔
      hollow text = false := by
  have collapsed := collapsed_collapseSpaces text
  have found := hollow_iff_of_collapsed collapsed
  rw [hollow_collapseSpaces] at found
  rw [cleanupEmptyGuildBrackets_eq]
  constructor
  · intro fixed
    rw [← Bool.not_eq_true]
    intro isHollow
    have shorter : (dropBlankPairs (dropPairs (collapseSpaces text))).length <
        (collapseSpaces text).length := by
      by_cases pair : ascii "[]" <:+: collapseSpaces text
      · exact Nat.lt_of_le_of_lt (length_delete_le .blankPair _)
          (length_delete_lt pair)
      · have kept : dropPairs (collapseSpaces text) = collapseSpaces text :=
          delete_eq_self pair
        rw [kept]
        exact length_delete_lt ((found.mp isHollow).resolve_left pair)
    have bound := length_collapseSpaces_le (dropBlankPairs (dropPairs (collapseSpaces text)))
    rw [fixed] at bound
    omega
  · intro filled
    rw [filled] at found
    have absent : ¬(ascii "[]" <:+: collapseSpaces text ∨ ascii "[ ]" <:+: collapseSpaces text) :=
      fun present => Bool.false_ne_true (found.mpr present)
    have noPair : dropPairs (collapseSpaces text) = collapseSpaces text :=
      delete_eq_self fun pair => absent (Or.inl pair)
    have noBlankPair : dropBlankPairs (collapseSpaces text) = collapseSpaces text :=
      delete_eq_self fun pair => absent (Or.inr pair)
    rw [noPair, noBlankPair, collapseSpaces_idempotent]

/-! ## The start of the line -/

structure SpacedWell (text : Bytes) : Prop where
  first : text.head? ≠ some 0x20
  last : text.getLast? ≠ some 0x20
  single : text.IsChain fun left right => left ≠ 0x20 ∨ right ≠ 0x20

instance (text : Bytes) : Decidable (SpacedWell text) :=
  decidable_of_iff
    (text.head? ≠ some 0x20 ∧ text.getLast? ≠ some 0x20 ∧
      text.IsChain fun left right => left ≠ 0x20 ∨ right ≠ 0x20)
    ⟨fun parts => ⟨parts.1, parts.2.1, parts.2.2⟩,
      fun spaced => ⟨spaced.first, spaced.last, spaced.single⟩⟩

/-- The text behind leading blanks and one leading `[`. -/
def behindOpening (text : Bytes) : Bytes :=
  let core := text.dropWhile isBlank
  if core.head? = some 0x5B then core.tail else core

/-- What `finishSender` has before the fallback. -/
def openedSender (filled : Bytes) : Bytes :=
  let cleaned := cleanupEmptyGuildBrackets filled
  if cleaned.head? = some 0x5B then cleaned.tail else cleaned

theorem finishSender_eq (player filled : Bytes) :
    finishSender player filled =
      if (openedSender filled).isEmpty then
        if player.isEmpty then ascii "Unknown" else player
      else openedSender filled := rfl

theorem dropWhile_collapseLoop (previousSpace : Bool) (text : Bytes) :
    ((collapseLoop previousSpace text).dropWhile fun byte => byte == 0x20) =
      collapseLoop false (text.dropWhile isBlank) := by
  induction text generalizing previousSpace with
  | nil => rfl
  | cons byte rest induction =>
      cases blank : isBlank byte with
      | true =>
          rw [collapseLoop_blank blank, List.dropWhile_cons_of_pos blank]
          cases previousSpace with
          | true => exact induction true
          | false => exact induction true
      | false =>
          rw [collapseLoop_other blank,
            List.dropWhile_cons_of_neg (by simpa using ne_space_of_not_blank blank),
            List.dropWhile_cons_of_neg (by simp [blank]), collapseLoop_other blank]

theorem trimEnd_cons {byte : UInt8} (notSpace : byte ≠ 0x20) (rest : Bytes) :
    trimEnd (byte :: rest) = byte :: trimEnd rest := by
  rw [trimEnd, List.reverse_cons, List.dropWhile_append]
  split
  · rename_i allSpaces
    have nothing : trimEnd rest = [] := by
      rw [trimEnd, List.isEmpty_iff.mp allSpaces]
      rfl
    rw [nothing, List.dropWhile_cons_of_neg (by simpa using notSpace)]
    rfl
  · rw [List.reverse_append]
    rfl

theorem trimEnd_eq_nil_iff (text : Bytes) :
    trimEnd text = [] ↔ ∀ byte ∈ text, byte = 0x20 := by
  rw [trimEnd, List.reverse_eq_nil_iff, List.dropWhile_eq_nil_iff]
  simp

theorem trimEnd_prefix (text : Bytes) : trimEnd text <+: text := by
  rw [trimEnd, ← List.reverse_suffix, List.reverse_reverse]
  exact List.dropWhile_suffix _

theorem collapseLoop_spaces_iff (previousSpace : Bool) (text : Bytes) :
    (∀ byte ∈ collapseLoop previousSpace text, byte = 0x20) ↔ text.all isBlank = true := by
  induction text generalizing previousSpace with
  | nil => simp [collapseLoop]
  | cons byte rest induction =>
      cases blank : isBlank byte with
      | true =>
          rw [collapseLoop_blank blank, List.all_cons, blank, Bool.true_and, ← induction true]
          cases previousSpace with
          | true => rfl
          | false => simp
      | false =>
          rw [collapseLoop_other blank, List.all_cons, blank, Bool.false_and]
          refine iff_of_false (fun spaces => ?_) Bool.false_ne_true
          exact ne_space_of_not_blank blank (spaces byte List.mem_cons_self)

theorem head_collapseLoop (text : Bytes) :
    (collapseLoop false text).head? = some 0x20 ↔ text.head?.any isBlank = true := by
  cases text with
  | nil => simp [collapseLoop]
  | cons byte rest =>
      cases blank : isBlank byte with
      | true => simp [collapseLoop_blank blank, blank]
      | false => simpa [collapseLoop_other blank, blank] using ne_space_of_not_blank blank

theorem Collapsed.head_ne_space {text : Bytes} (collapsed : Collapsed true text) :
    ∀ byte ∈ text.head?, byte ≠ 0x20 := by
  rintro byte first rfl
  cases text with
  | nil => cases first
  | cons head rest =>
      cases first
      exact collapsed.not_space rest (List.prefix_refl _)

theorem Collapsed.single {text : Bytes} {previousSpace : Bool}
    (collapsed : Collapsed previousSpace text) :
    text.IsChain fun left right => left ≠ 0x20 ∨ right ≠ 0x20 := by
  induction collapsed with
  | nil => exact .nil
  | space rest induction =>
      exact List.isChain_cons.mpr
        ⟨fun byte first => Or.inr (rest.head_ne_space byte first), induction⟩
  | other other rest induction =>
      exact List.isChain_cons.mpr
        ⟨fun byte first => Or.inl (ne_space_of_not_blank other), induction⟩

theorem getLast_trimEnd {text : Bytes} : (trimEnd text).getLast? ≠ some 0x20 := by
  intro last
  rw [trimEnd, List.getLast?_reverse] at last
  have stops := List.head?_dropWhile_not (fun byte : UInt8 => byte == 0x20) text.reverse
  rw [last] at stops
  simp at stops

theorem openedSender_eq (filled : Bytes) :
    openedSender filled =
      trimEnd (collapseLoop false (behindOpening (dropBlankPairs (dropPairs filled)))) := by
  unfold openedSender behindOpening
  rw [cleanupEmptyGuildBrackets_eq, collapseSpaces_eq, dropWhile_collapseLoop]
  cases core : (dropBlankPairs (dropPairs filled)).dropWhile isBlank with
  | nil => rfl
  | cons byte rest =>
      have other : isBlank byte = false := by
        have stops := List.head?_dropWhile_not isBlank (dropBlankPairs (dropPairs filled))
        rw [core] at stops
        simpa using stops
      dsimp only
      rw [collapseLoop_other other, trimEnd_cons (ne_space_of_not_blank other)]
      by_cases opening : byte = 0x5B
      · simp [opening]
      · rw [List.head?_cons, List.head?_cons, if_neg (by simpa using opening),
          if_neg (by simpa using opening), collapseLoop_other other,
          trimEnd_cons (ne_space_of_not_blank other)]

theorem openedSender_eq_nil_iff (filled : Bytes) :
    openedSender filled = [] ↔
      (behindOpening (dropBlankPairs (dropPairs filled))).all isBlank = true := by
  rw [openedSender_eq, trimEnd_eq_nil_iff, collapseLoop_spaces_iff]

theorem spacedWell_openedSender_iff {filled : Bytes} (something : openedSender filled ≠ []) :
    SpacedWell (openedSender filled) ↔
      (behindOpening (dropBlankPairs (dropPairs filled))).head?.any isBlank = false := by
  rw [openedSender_eq] at something ⊢
  have collapsed :=
    collapsed_collapseLoop false (behindOpening (dropBlankPairs (dropPairs filled)))
  have front := head_collapseLoop (behindOpening (dropBlankPairs (dropPairs filled)))
  rcases trimEnd_prefix (collapseLoop false (behindOpening (dropBlankPairs (dropPairs filled))))
    with ⟨spaces, split⟩
  have sameHead := congrArg List.head? split
  rw [List.head?_append_of_ne_nil _ something] at sameHead
  rw [← Bool.not_eq_true, ← front, ← sameHead]
  constructor
  · exact fun spaced => spaced.first
  · intro first
    rw [← split] at collapsed
    exact ⟨first, getLast_trimEnd, collapsed.of_append.single⟩

/-! ## When nothing empty is left -/

structure TidySender (sender : Bytes) : Prop extends SpacedWell sender where
  noPair : ¬ascii "[]" <:+: sender
  noBlankPair : ¬ascii "[ ]" <:+: sender

/-- The header's promise for an empty guild: a tidy sender, which a second
cleanup of the line would leave alone. -/
structure LeavesNothingEmpty (format chatPrefix player : Bytes) : Prop where
  sender : ∀ message, TidySender (applyChatFormat format chatPrefix [] player message).1
  fixed : cleanupEmptyGuildBrackets
      (cleanupEmptyGuildBrackets (filledSender format chatPrefix [] player)) =
    cleanupEmptyGuildBrackets (filledSender format chatPrefix [] player)

/-- Behind one leading `[` the line starts without a blank; where nothing is
left of it, the name alone is spaced well. -/
structure StartsWell (player remains : Bytes) : Prop where
  alone : (behindOpening remains).all isBlank = true → SpacedWell player
  opened : (behindOpening remains).all isBlank = false →
    (behindOpening remains).head?.any isBlank = false

/-- A filled template without its `[]` and `[ ]`. -/
def withoutPairs (format chatPrefix player : Bytes) : Bytes :=
  dropBlankPairs (dropPairs (filledSender format chatPrefix [] player))

/-- What the code needs for the promise: without its `[]` and `[ ]` the filled
template has no hollow bracket pair and starts well. -/
def KeepsPromise (format chatPrefix player : Bytes) : Prop :=
  if format.isEmpty then SpacedWell chatPrefix ∧ SpacedWell player
  else
    hollow (withoutPairs format chatPrefix player) = false ∧
      StartsWell player (withoutPairs format chatPrefix player)

/-- A text without bracket characters. -/
def Unbracketed (text : Bytes) : Prop := 0x5B ∉ text ∧ 0x5D ∉ text

theorem Unbracketed.tidy_iff {text : Bytes} (unbracketed : Unbracketed text) :
    TidySender text ↔ SpacedWell text := by
  constructor
  · exact fun tidy => tidy.toSpacedWell
  · intro spaced
    exact
      { toSpacedWell := spaced
        noPair := fun pair => unbracketed.1 (pair.subset (by decide))
        noBlankPair := fun pair => unbracketed.1 (pair.subset (by decide)) }

theorem spacedWell_nil : SpacedWell [] := ⟨by simp, by simp, .nil⟩

theorem spacedWell_join_iff {left right : Bytes} (something : left ≠ []) (more : right ≠ []) :
    SpacedWell (left ++ 0x20 :: right) ↔ SpacedWell left ∧ SpacedWell right := by
  have chains : (left ++ 0x20 :: right).IsChain (fun left right => left ≠ 0x20 ∨ right ≠ 0x20) ↔
      left.IsChain (fun left right => left ≠ 0x20 ∨ right ≠ 0x20) ∧
        (right.head? ≠ some 0x20 ∧
          right.IsChain fun left right => left ≠ 0x20 ∨ right ≠ 0x20) ∧
        left.getLast? ≠ some 0x20 := by
    rw [List.isChain_append, List.isChain_cons]
    have inRight : (∀ byte ∈ right.head?, (0x20 : UInt8) ≠ 0x20 ∨ byte ≠ 0x20) ↔
        right.head? ≠ some 0x20 := by
      cases right.head? <;> simp
    have inLeft : (∀ byte ∈ left.getLast?, ∀ next ∈ (0x20 :: right).head?,
        byte ≠ 0x20 ∨ next ≠ 0x20) ↔ left.getLast? ≠ some 0x20 := by
      cases left.getLast? <;> simp
    rw [inRight, inLeft]
  have first : (left ++ 0x20 :: right).head? = left.head? :=
    List.head?_append_of_ne_nil left something
  have last : (left ++ 0x20 :: right).getLast? = right.getLast? := by
    rw [List.getLast?_append_of_ne_nil _ (List.cons_ne_nil _ _),
      List.getLast?_cons_of_ne_nil more]
  constructor
  · intro spaced
    rcases chains.mp spaced.single with ⟨leftChain, ⟨rightFirst, rightChain⟩, leftLast⟩
    exact ⟨⟨first ▸ spaced.first, leftLast, leftChain⟩,
      ⟨rightFirst, last ▸ spaced.last, rightChain⟩⟩
  · rintro ⟨leftSpaced, rightSpaced⟩
    exact ⟨first ▸ leftSpaced.first, last ▸ rightSpaced.last,
      chains.mpr ⟨leftSpaced.single, ⟨rightSpaced.first, rightSpaced.single⟩, leftSpaced.last⟩⟩

theorem tidy_unknown : TidySender (ascii "Unknown") :=
  (Unbracketed.tidy_iff ⟨by decide, by decide⟩).mpr (by decide)

theorem Unbracketed.append {left right : Bytes} (leftPlain : Unbracketed left)
    (rightPlain : Unbracketed right) : Unbracketed (left ++ right) :=
  ⟨fun member => (List.mem_append.mp member).elim leftPlain.1 rightPlain.1,
    fun member => (List.mem_append.mp member).elim leftPlain.2 rightPlain.2⟩

theorem tidy_unformattedSender_iff {chatPrefix player : Bytes}
    (prefixPlain : Unbracketed chatPrefix) (playerPlain : Unbracketed player) :
    TidySender (unformattedSender chatPrefix player) ↔
      SpacedWell chatPrefix ∧ SpacedWell player := by
  cases chatPrefix with
  | nil =>
      cases player with
      | nil =>
          have sender : unformattedSender [] [] = ascii "Unknown" := by decide
          rw [sender]
          exact iff_of_true tidy_unknown ⟨spacedWell_nil, spacedWell_nil⟩
      | cons first rest =>
          have sender : unformattedSender [] (first :: rest) = first :: rest := rfl
          rw [sender, playerPlain.tidy_iff]
          exact (and_iff_right spacedWell_nil).symm
  | cons head tail =>
      cases player with
      | nil =>
          have sender : unformattedSender (head :: tail) [] = head :: tail := by
            simp [unformattedSender]
          rw [sender, prefixPlain.tidy_iff]
          exact (and_iff_left spacedWell_nil).symm
      | cons first rest =>
          have sender : unformattedSender (head :: tail) (first :: rest) =
              (head :: tail) ++ 0x20 :: (first :: rest) := by
            simp [unformattedSender, show ascii " " = [0x20] by rfl]
          have space : Unbracketed [0x20] := ⟨by decide, by decide⟩
          have plain : Unbracketed ((head :: tail) ++ 0x20 :: (first :: rest)) :=
            prefixPlain.append (space.append playerPlain)
          rw [sender, plain.tidy_iff,
            spacedWell_join_iff (List.cons_ne_nil _ _) (List.cons_ne_nil _ _)]

theorem openedSender_infix (filled : Bytes) :
    openedSender filled <:+: cleanupEmptyGuildBrackets filled := by
  unfold openedSender
  generalize cleanupEmptyGuildBrackets filled = cleaned
  dsimp only
  split
  · exact (List.tail_suffix cleaned).isInfix
  · exact List.infix_refl cleaned

theorem tidy_finishSender_iff {player filled : Bytes} (playerPlain : Unbracketed player)
    (filledPairs : hollow (dropBlankPairs (dropPairs filled)) = false) :
    TidySender (finishSender player filled) ↔
      StartsWell player (dropBlankPairs (dropPairs filled)) := by
  rw [finishSender_eq]
  have blanks := openedSender_eq_nil_iff filled
  by_cases nothing : openedSender filled = []
  · have name : TidySender (if player.isEmpty then ascii "Unknown" else player) ↔
        SpacedWell player := by
      cases player with
      | nil =>
          rw [List.isEmpty_nil, if_pos rfl]
          exact iff_of_true tidy_unknown spacedWell_nil
      | cons first rest =>
          rw [List.isEmpty_cons, if_neg Bool.false_ne_true]
          exact playerPlain.tidy_iff
    have allBlank := blanks.mp nothing
    rw [nothing, List.isEmpty_nil, if_pos rfl, name]
    constructor
    · exact fun spaced => ⟨fun _ => spaced, fun some => absurd allBlank (by simp [some])⟩
    · exact fun starts => starts.alone allBlank
  · have notEmpty : (openedSender filled).isEmpty = false :=
      List.isEmpty_eq_false_iff.mpr nothing
    have notBlank : (behindOpening (dropBlankPairs (dropPairs filled))).all isBlank = false := by
      rw [← Bool.not_eq_true]
      exact fun allBlank => nothing (blanks.mpr allBlank)
    have spaced := spacedWell_openedSender_iff nothing
    have pairs := hollow_iff_of_collapsed
      (collapsed_collapseSpaces (dropBlankPairs (dropPairs filled)))
    rw [hollow_collapseSpaces, filledPairs, ← cleanupEmptyGuildBrackets_eq] at pairs
    have inCleaned := openedSender_infix filled
    rw [notEmpty, if_neg Bool.false_ne_true]
    constructor
    · intro tidy
      exact ⟨fun allBlank => absurd allBlank (by simp [notBlank]),
        fun _ => spaced.mp tidy.toSpacedWell⟩
    · intro starts
      exact
        { toSpacedWell := spaced.mpr (starts.opened notBlank)
          noPair := fun pair => Bool.false_ne_true (pairs.mpr (Or.inl (pair.trans inCleaned)))
          noBlankPair := fun pair =>
            Bool.false_ne_true (pairs.mpr (Or.inr (pair.trans inCleaned))) }

/-- The promise for an empty guild, exactly. -/
theorem leavesNothingEmpty_iff (format : Bytes) {chatPrefix player : Bytes}
    (prefixPlain : Unbracketed chatPrefix) (playerPlain : Unbracketed player) :
    LeavesNothingEmpty format chatPrefix player ↔ KeepsPromise format chatPrefix player := by
  unfold KeepsPromise
  cases format with
  | nil =>
      have sender : ∀ message, (applyChatFormat [] chatPrefix [] player message).1 =
          unformattedSender chatPrefix player := by
        intro message
        rw [applyChatFormat_fst, List.isEmpty_nil, if_pos rfl]
      have nothing : filledSender [] chatPrefix [] player = [] := rfl
      rw [List.isEmpty_nil, if_pos rfl, ← tidy_unformattedSender_iff prefixPlain playerPlain]
      constructor
      · intro promise
        have tidy := promise.sender []
        rwa [sender] at tidy
      · intro tidy
        refine ⟨fun message => ?_, ?_⟩
        · rw [sender]
          exact tidy
        · rw [nothing]
          decide
  | cons first rest =>
      rw [List.isEmpty_cons, if_neg Bool.false_ne_true]
      have fixed := cleanup_fixed_iff (withoutPairs (first :: rest) chatPrefix player)
      rw [withoutPairs, ← cleanupEmptyGuildBrackets_eq] at fixed
      have sender : ∀ message, (applyChatFormat (first :: rest) chatPrefix [] player message).1 =
          finishSender player (filledSender (first :: rest) chatPrefix [] player) := by
        intro message
        rw [applyChatFormat_eq (List.cons_ne_nil first rest)]
      constructor
      · intro promise
        have filledPairs := fixed.mp promise.fixed
        have tidy := promise.sender []
        rw [sender, tidy_finishSender_iff playerPlain filledPairs] at tidy
        exact ⟨filledPairs, tidy⟩
      · rintro ⟨filledPairs, edges⟩
        refine ⟨fun message => ?_, fixed.mpr filledPairs⟩
        rw [sender, tidy_finishSender_iff playerPlain filledPairs]
        exact edges

theorem leavesNothingEmpty_default :
    LeavesNothingEmpty plainConfig.chatFormat (ascii "EU") (ascii "Bob") :=
  (leavesNothingEmpty_iff _ ⟨by decide, by decide⟩ ⟨by decide, by decide⟩).mpr
    ⟨by decide +kernel, by decide +kernel, by decide +kernel⟩

/-- A template with a doubled bracket around the guild keeps an empty pair. -/
theorem leavesNothingEmpty_fails :
    ¬LeavesNothingEmpty
      (ascii "[\x7bprefix\x7d] [[\x7bguild\x7d]] \x7bplayer\x7d: \x7bmessage\x7d")
      (ascii "EU") (ascii "Bob") := by
  intro promise
  exact (promise.sender (ascii "hi")).noPair ⟨ascii "EU] ", ascii " Bob", by decide +kernel⟩

end PalCrosschat
