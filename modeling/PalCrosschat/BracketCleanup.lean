import PalCrosschat.Templates

/-! # The bracket cleanup of the sender

`CleanupEmptyGuildBrackets` replaces four patterns, one after the other, and
collapses blanks. The first three passes together delete each `[]` of the text
once; what that leaves may again be empty. -/

namespace PalCrosschat

open Bytes (ascii)

inductive BracketPattern
  | spaceBefore
  | spaceBehind
  | pair
  | blankPair
deriving DecidableEq, Repr

def brackets : Vocabulary UInt8 BracketPattern where
  spelling
    | .spaceBefore => ascii " []"
    | .spaceBehind => ascii "[] "
    | .pair => ascii "[]"
    | .blankPair => ascii "[ ]"
  nonempty name := by cases name <;> decide

/-- The text without its `[]`, each taken out once. -/
def dropPairs (text : Bytes) : Bytes := brackets.substitute .pair [] text

/-- The text without its `[ ]`, each taken out once. -/
def dropBlankPairs (text : Bytes) : Bytes := brackets.substitute .blankPair [] text

theorem cleanupEmptyGuildBrackets_passes (text : Bytes) :
    cleanupEmptyGuildBrackets text =
      collapseSpaces (dropBlankPairs (dropPairs
        (brackets.substitute .spaceBehind (ascii " ")
          (brackets.substitute .spaceBefore (ascii " ") text)))) := by
  unfold dropBlankPairs dropPairs
  rw [← replaceAll_eq, ← replaceAll_eq, ← replaceAll_eq, ← replaceAll_eq]
  rfl

/-! ## The first three passes -/

theorem dropPairs_cons {byte : UInt8} (notOpening : byte ≠ 0x5B) (rest : Bytes) :
    dropPairs (byte :: rest) = byte :: dropPairs rest := by
  have noKey : brackets.keyAt [.pair] (byte :: rest) = none := by
    apply List.find?_eq_none.mpr
    intro name member
    rw [List.mem_singleton.mp member, List.isPrefixOf_iff_prefix]
    intro isPrefix
    exact notOpening (List.cons_prefix_cons.mp isPrefix).1.symm
  rw [dropPairs, Vocabulary.substitute, brackets.scan_of_plain noKey]
  rfl

theorem dropPairs_pair (rest : Bytes) : dropPairs (0x5B :: 0x5D :: rest) = dropPairs rest :=
  substitute_of_prefix brackets .pair [] (List.prefix_append (ascii "[]") rest)

theorem dropPairs_opening {rest : Bytes} (notPair : rest.head? ≠ some 0x5D) :
    dropPairs (0x5B :: rest) = 0x5B :: dropPairs rest := by
  have noKey : brackets.keyAt [.pair] (0x5B :: rest) = none := by
    apply List.find?_eq_none.mpr
    intro name member
    rw [List.mem_singleton.mp member, List.isPrefixOf_iff_prefix]
    rintro ⟨later, split⟩
    apply notPair
    rw [← (List.cons.inj split).2]
    rfl
  rw [dropPairs, Vocabulary.substitute, brackets.scan_of_plain noKey]
  rfl

theorem spelling_head_ne_closing (name : BracketPattern) :
    (brackets.spelling name).head? ≠ some 0x5D := by
  cases name <;> decide

/-- A `]` starts no pattern, so a text begins with one after a pass when it did
before. -/
theorem substitute_closing (name : BracketPattern) (text : Bytes) :
    (∃ rest, text = 0x5D :: rest ∧ brackets.substitute name (ascii " ") text =
        0x5D :: brackets.substitute name (ascii " ") rest) ∨
      text.head? ≠ some 0x5D ∧
        (brackets.substitute name (ascii " ") text).head? ≠ some 0x5D := by
  cases text with
  | nil => exact Or.inr ⟨by simp, by simp [Vocabulary.substitute]⟩
  | cons byte rest =>
      cases found : brackets.keyAt [name] (byte :: rest) with
      | some other =>
          rcases brackets.spelling_of_keyAt found with ⟨-, later, split⟩
          right
          constructor
          · rw [← split, List.head?_append_of_ne_nil _ (brackets.nonempty other)]
            exact spelling_head_ne_closing other
          · rw [Vocabulary.substitute, brackets.scan_of_key found, Token.fill_key]
            exact (by decide : (some 0x20 : Option UInt8) ≠ some 0x5D)
      | none =>
          have shifted : brackets.substitute name (ascii " ") (byte :: rest) =
              byte :: brackets.substitute name (ascii " ") rest := by
            rw [Vocabulary.substitute, brackets.scan_of_plain found]
            rfl
          by_cases closing : byte = 0x5D
          · subst closing
            exact Or.inl ⟨rest, rfl, shifted⟩
          · rw [shifted]
            exact Or.inr ⟨by simpa using closing, by simpa using closing⟩

/-- A pass that takes a `[]` out next to a blank is made up for by the pass that
takes out every `[]`. -/
theorem dropPairs_substitute {name : BracketPattern}
    (deletes : ∀ rest, dropPairs (brackets.spelling name ++ rest) = 0x20 :: dropPairs rest)
    (text : Bytes) :
    dropPairs (brackets.substitute name (ascii " ") text) = dropPairs text := by
  induction text using brackets.scan_induction [name] with
  | nil => rfl
  | key other rest found induction =>
      have same : other = name := List.mem_singleton.mp (brackets.spelling_of_keyAt found).1
      subst same
      rw [Vocabulary.substitute, brackets.scan_key_append found, Token.fill_key, deletes]
      change dropPairs (0x20 :: brackets.substitute other (ascii " ") rest) = _
      rw [dropPairs_cons (by decide), induction]
  | plain byte rest noKey induction =>
      have shifted : brackets.substitute name (ascii " ") (byte :: rest) =
          byte :: brackets.substitute name (ascii " ") rest := by
        rw [Vocabulary.substitute, brackets.scan_of_plain noKey]
        rfl
      rw [shifted]
      by_cases opening : byte = 0x5B
      · subst opening
        rcases substitute_closing name rest with ⟨later, rfl, closed⟩ | ⟨before, after⟩
        · rw [closed] at induction ⊢
          rw [dropPairs_cons (by decide), dropPairs_cons (by decide)] at induction
          rw [dropPairs_pair, dropPairs_pair, (List.cons.inj induction).2]
        · rw [dropPairs_opening before, dropPairs_opening after, induction]
      · rw [dropPairs_cons opening, dropPairs_cons opening, induction]

/-- The cleanup takes out the `[]`, then the `[ ]`, and collapses blanks. -/
theorem cleanupEmptyGuildBrackets_eq (text : Bytes) :
    cleanupEmptyGuildBrackets text =
      collapseSpaces (dropBlankPairs (dropPairs text)) := by
  have before : ∀ rest, dropPairs (brackets.spelling .spaceBefore ++ rest) =
      0x20 :: dropPairs rest := by
    intro rest
    change dropPairs (0x20 :: 0x5B :: 0x5D :: rest) = _
    rw [dropPairs_cons (by decide), dropPairs_pair]
  have behind : ∀ rest, dropPairs (brackets.spelling .spaceBehind ++ rest) =
      0x20 :: dropPairs rest := by
    intro rest
    change dropPairs (0x5B :: 0x5D :: 0x20 :: rest) = _
    rw [dropPairs_pair, dropPairs_cons (by decide)]
  rw [cleanupEmptyGuildBrackets_passes, dropPairs_substitute behind, dropPairs_substitute before]

/-! ## Collapsing -/

/-- What `CollapseSpaces` makes one space of. -/
def isBlank (byte : UInt8) : Bool := byte == 0x20 || byte == 0x09

theorem collapseLoop_blank {byte : UInt8} (blank : isBlank byte = true) (previousSpace : Bool)
    (rest : Bytes) :
    collapseLoop previousSpace (byte :: rest) =
      if previousSpace then collapseLoop true rest else 0x20 :: collapseLoop true rest := by
  rw [collapseLoop]
  exact if_pos blank

theorem collapseLoop_other {byte : UInt8} (other : isBlank byte = false) (previousSpace : Bool)
    (rest : Bytes) :
    collapseLoop previousSpace (byte :: rest) = byte :: collapseLoop false rest := by
  rw [collapseLoop]
  exact if_neg (by rw [← isBlank, other]; exact Bool.false_ne_true)

theorem ne_space_of_not_blank {byte : UInt8} (other : isBlank byte = false) : byte ≠ 0x20 := by
  rintro rfl
  cases other

inductive Collapsed : Bool → Bytes → Prop
  | nil (previousSpace : Bool) : Collapsed previousSpace []
  | space {rest : Bytes} : Collapsed true rest → Collapsed false (0x20 :: rest)
  | other {previousSpace : Bool} {byte : UInt8} {rest : Bytes} :
      isBlank byte = false → Collapsed false rest → Collapsed previousSpace (byte :: rest)

theorem collapsed_collapseLoop (previousSpace : Bool) (text : Bytes) :
    Collapsed previousSpace (collapseLoop previousSpace text) := by
  induction text generalizing previousSpace with
  | nil => exact .nil previousSpace
  | cons byte rest induction =>
      cases blank : isBlank byte with
      | true =>
          rw [collapseLoop_blank blank]
          cases previousSpace with
          | true => exact induction true
          | false => exact .space (induction true)
      | false =>
          rw [collapseLoop_other blank]
          exact .other blank (induction false)

theorem Collapsed.of_append {left right : Bytes} {previousSpace : Bool}
    (collapsed : Collapsed previousSpace (left ++ right)) : Collapsed previousSpace left := by
  induction left generalizing previousSpace with
  | nil => exact .nil previousSpace
  | cons byte left induction =>
      cases collapsed with
      | space rest => exact .space (induction rest)
      | other other rest => exact .other other (induction rest)

theorem Collapsed.dropWhile {text : Bytes} {previousSpace : Bool}
    (collapsed : Collapsed previousSpace text) :
    Collapsed false (text.dropWhile fun byte => byte == 0x20) := by
  induction collapsed with
  | nil => exact .nil false
  | space rest induction => exact induction
  | other other rest induction =>
      rw [List.dropWhile_cons_of_neg (by simpa using ne_space_of_not_blank other)]
      exact .other other rest

theorem collapsed_collapseSpaces (text : Bytes) : Collapsed false (collapseSpaces text) := by
  have front := (collapsed_collapseLoop false text).dropWhile
  rw [collapseSpaces, Bytes.trimBoth]
  have isPrefix : (((collapseLoop false text).dropWhile fun byte => byte == 0x20).reverse.dropWhile
      fun byte => byte == 0x20).reverse <+:
      (collapseLoop false text).dropWhile fun byte => byte == 0x20 := by
    rw [← List.reverse_suffix, List.reverse_reverse]
    exact List.dropWhile_suffix _
  rcases isPrefix with ⟨trimmed, split⟩
  rw [← split] at front
  exact front.of_append

theorem Collapsed.collapseLoop_eq {text : Bytes} {previousSpace : Bool}
    (collapsed : Collapsed previousSpace text) : collapseLoop previousSpace text = text := by
  induction collapsed with
  | nil => rfl
  | space rest induction => rw [collapseLoop_blank rfl, induction]; rfl
  | other other rest induction => rw [collapseLoop_other other, induction]

end PalCrosschat
