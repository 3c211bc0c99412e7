import PalCrosschat.Foundation.Utf8
import PalCrosschat.Sanitize

/-! # The normal form of sanitized texts

A field is sanitized when it is captured, when it is rebroadcast and when it is
injected on another server, so sanitizing should leave nothing for the next
round. Stripping and trimming do; the cut at `max_bytes` comes after them and
can end the text in a space. -/

namespace PalCrosschat

open Bytes (ascii)

/-- What the next round relies on. -/
structure NormalForm (input : Bytes) (maxBytes : Nat) : Prop where
  length : (sanitizeMessage input maxBytes).length ≤ maxBytes
  noControl : ∀ byte ∈ sanitizeMessage input maxBytes, 0x20 ≤ byte ∧ byte ≠ 0x7F
  first : ∀ byte, (sanitizeMessage input maxBytes).head? = some byte →
    Bytes.isSpace byte = false
  last : ∀ byte, (sanitizeMessage input maxBytes).getLast? = some byte →
    Bytes.isSpace byte = false
  utf8 : Utf8.Valid input → Utf8.Valid (sanitizeMessage input maxBytes)
  again : sanitizeMessage (sanitizeMessage input maxBytes) maxBytes =
    sanitizeMessage input maxBytes

def continuesAt (text : Bytes) (position : Nat) : Bool :=
  text[position]?.any Bytes.isContinuation

def cutBehindSpace (text : Bytes) (maxBytes : Nat) : Prop :=
  ∃ index < maxBytes, text[index]? = some 0x20 ∧ continuesAt text (index + 1) = false ∧
    ∀ position ≤ maxBytes, index + 1 < position → continuesAt text position = true

/-! ## The cut -/

theorem walkBack_succ (input : Bytes) (cut : Nat) :
    walkBack input (cut + 1) =
      if continuesAt input (cut + 1) then walkBack input cut else cut + 1 := rfl

theorem walkBack_spec (input : Bytes) (cut : Nat) :
    (walkBack input cut = 0 ∨ continuesAt input (walkBack input cut) = false) ∧
      ∀ position ≤ cut, walkBack input cut < position → continuesAt input position = true := by
  induction cut with
  | zero =>
      refine ⟨Or.inl rfl, fun position atMost behind => ?_⟩
      rw [walkBack] at behind
      omega
  | succ cut induction =>
      rw [walkBack_succ]
      split
      · rename_i continues
        refine ⟨induction.1, fun position atMost behind => ?_⟩
        by_cases isLast : position = cut + 1
        · rw [isLast]
          exact continues
        · exact induction.2 position (by omega) behind
      · rename_i starts
        refine ⟨Or.inr (by simpa using starts), fun position atMost behind => ?_⟩
        omega

theorem walkBack_eq {input : Bytes} {cut boundary : Nat} (atMost : boundary ≤ cut)
    (starts : continuesAt input boundary = false)
    (continues : ∀ position ≤ cut, boundary < position → continuesAt input position = true) :
    walkBack input cut = boundary := by
  induction cut with
  | zero =>
      rw [walkBack]
      omega
  | succ cut induction =>
      rw [walkBack_succ]
      by_cases isLast : boundary = cut + 1
      · rw [← isLast, if_neg (by simp [starts])]
      · rw [if_pos (continues (cut + 1) (Nat.le_refl _) (by omega))]
        exact induction (by omega) fun position inside => continues position (by omega)

theorem getLast?_take_succ {text : Bytes} {index : Nat} (inside : index < text.length) :
    (text.take (index + 1)).getLast? = text[index]? := by
  rw [List.getLast?_eq_getElem?, List.length_take, Nat.min_eq_left inside,
    Nat.succ_sub_one, List.getElem?_take_of_lt (Nat.lt_succ_self index)]

theorem getLast?_truncateUtf8_eq_space_iff {text : Bytes} {maxBytes : Nat}
    (long : maxBytes < text.length) :
    (truncateUtf8 text maxBytes).getLast? = some 0x20 ↔ cutBehindSpace text maxBytes := by
  rw [truncateUtf8, if_neg (Nat.not_le.mpr long)]
  have spec := walkBack_spec text maxBytes
  have bound := walkBack_le text maxBytes
  constructor
  · intro isSpace
    cases cut : walkBack text maxBytes with
    | zero => simp [cut] at isSpace
    | succ index =>
        rw [cut] at spec bound isSpace
        rw [getLast?_take_succ (by omega)] at isSpace
        exact ⟨index, bound, isSpace, spec.1.resolve_left (by omega), spec.2⟩
  · rintro ⟨index, below, isSpace, starts, continues⟩
    rw [walkBack_eq below starts continues, getLast?_take_succ (by omega)]
    exact isSpace

/-! ## What every sanitized text has -/

theorem isControl_eq_false_iff : ∀ byte : UInt8,
    Bytes.isControl byte = false ↔ 0x20 ≤ byte ∧ byte ≠ 0x7F := by
  apply Bytes.forall_byte
  decide +kernel

theorem isControl_ascii : ∀ byte : UInt8, Bytes.isControl byte = true → byte < 0x80 := by
  apply Bytes.forall_byte
  decide +kernel

theorem isSpace_ascii : ∀ byte : UInt8, Bytes.isSpace byte = true → byte < 0x80 := by
  apply Bytes.forall_byte
  decide +kernel

theorem eq_space_of_isSpace : ∀ byte : UInt8,
    Bytes.isControl byte = false → Bytes.isSpace byte = true → byte = 0x20 := by
  apply Bytes.forall_byte
  decide +kernel

theorem sanitizeMessage_eq (input : Bytes) (maxBytes : Nat) :
    sanitizeMessage input maxBytes = truncateUtf8 (stripControlAndTrim input) maxBytes := by
  simp only [sanitizeMessage]
  split
  · rename_i isEmpty
    rw [List.isEmpty_iff.mp isEmpty]
    rfl
  · rfl

theorem valid_truncateUtf8 {text : Bytes} (valid : Utf8.Valid text) (maxBytes : Nat) :
    Utf8.Valid (truncateUtf8 text maxBytes) := by
  unfold truncateUtf8
  split
  · exact valid
  · rcases (walkBack_spec text maxBytes).1 with atStart | starts
    · rw [atStart]
      exact Utf8.Valid.nil
    · exact valid.take starts

theorem valid_sanitizeMessage {input : Bytes} (valid : Utf8.Valid input) (maxBytes : Nat) :
    Utf8.Valid (sanitizeMessage input maxBytes) := by
  rw [sanitizeMessage_eq]
  apply valid_truncateUtf8
  exact (valid.filter isControl_ascii).trimBoth isSpace_ascii

theorem getLast?_stripControlAndTrim {input : Bytes} {byte : UInt8}
    (last : (stripControlAndTrim input).getLast? = some byte) :
    Bytes.isSpace byte = false := by
  rw [stripControlAndTrim, Bytes.trimBoth, List.getLast?_reverse] at last
  have stops := List.head?_dropWhile_not Bytes.isSpace
    ((input.filter fun byte => !Bytes.isControl byte).dropWhile Bytes.isSpace).reverse
  rw [last] at stops
  simpa using stops

theorem stripControlAndTrim_of_normal {text : Bytes}
    (noControl : ∀ byte ∈ text, Bytes.isControl byte = false)
    (first : ∀ byte, text.head? = some byte → Bytes.isSpace byte = false)
    (last : ∀ byte, text.getLast? = some byte → Bytes.isSpace byte = false) :
    stripControlAndTrim text = text := by
  have kept : text.filter (fun byte => !Bytes.isControl byte) = text :=
    List.filter_eq_self.mpr fun byte member => by simp [noControl byte member]
  rw [stripControlAndTrim, kept, Bytes.trimBoth_of_ends first last]

/-! ## When the last byte is kept clean -/

theorem getLast?_sanitizeMessage_iff (input : Bytes) (maxBytes : Nat) :
    (∀ byte, (sanitizeMessage input maxBytes).getLast? = some byte →
      Bytes.isSpace byte = false) ↔
      (stripControlAndTrim input).length ≤ maxBytes ∨
        ¬cutBehindSpace (stripControlAndTrim input) maxBytes := by
  rw [sanitizeMessage_eq]
  by_cases fits : (stripControlAndTrim input).length ≤ maxBytes
  · rw [truncateUtf8_of_le fits]
    exact iff_of_true (fun byte => getLast?_stripControlAndTrim) (Or.inl fits)
  · rw [← getLast?_truncateUtf8_eq_space_iff (Nat.not_le.mp fits)]
    constructor
    · intro clean
      right
      intro isSpace
      exact absurd (clean 0x20 isSpace) (by decide)
    · intro condition byte last
      have noSpace := condition.resolve_left fits
      cases space : Bytes.isSpace byte with
      | false => rfl
      | true =>
          have kept : Bytes.isControl byte = false :=
            not_isControl_of_mem_strip
              ((truncateUtf8_isPrefix _ maxBytes).subset (List.mem_of_getLast? last))
          rw [eq_space_of_isSpace byte kept space] at last
          exact absurd last noSpace

/-- Sanitizing gives a normal form exactly when the text fits, or is not cut
behind a space. -/
theorem normalForm_iff (input : Bytes) (maxBytes : Nat) :
    NormalForm input maxBytes ↔
      (stripControlAndTrim input).length ≤ maxBytes ∨
        ¬cutBehindSpace (stripControlAndTrim input) maxBytes := by
  rw [← getLast?_sanitizeMessage_iff]
  constructor
  · exact fun normal => normal.last
  · intro last
    have noControl : ∀ byte ∈ sanitizeMessage input maxBytes, Bytes.isControl byte = false :=
      fun byte => not_isControl_of_mem_sanitize
    have first : ∀ byte, (sanitizeMessage input maxBytes).head? = some byte →
        Bytes.isSpace byte = false := fun byte => head_sanitizeMessage
    refine
      { length := sanitizeMessage_length_le input maxBytes
        noControl := fun byte member => (isControl_eq_false_iff byte).mp (noControl byte member)
        first
        last
        utf8 := fun valid => valid_sanitizeMessage valid maxBytes
        again := ?_ }
    rw [sanitizeMessage_eq (sanitizeMessage input maxBytes),
      stripControlAndTrim_of_normal noControl first last,
      truncateUtf8_of_le (sanitizeMessage_length_le input maxBytes)]

/-- A line of 511 letters, a space and one more letter is cut behind the space. -/
theorem normalForm_fails :
    ¬NormalForm (List.replicate 511 0x61 ++ ascii " b") 512 := by
  intro normal
  have last := normal.last 0x20
  revert last
  decide +kernel

end PalCrosschat
