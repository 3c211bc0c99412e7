import PalCrosschat.Foundation.Bytes

/-! # Text sanitizing

The functions of `Sanitize.cpp`, which every text passes on its way into and
out of the shared database. -/

namespace PalCrosschat

/-- The loop's `c < 0x20 || c == 0x7F` filter, then the two trimming loops. -/
def stripControlAndTrim (input : Bytes) : Bytes :=
  Bytes.trimBoth Bytes.isSpace (input.filter fun byte => !Bytes.isControl byte)

/-- The `while` loop of `TruncateUtf8`: walk the cut back over continuation
bytes. The cut is only moved while it is positive. -/
def walkBack (input : Bytes) : Nat → Nat
  | 0 => 0
  | cut + 1 =>
      if input[cut + 1]?.any Bytes.isContinuation then walkBack input cut
      else cut + 1

def truncateUtf8 (input : Bytes) (maxBytes : Nat) : Bytes :=
  if input.length ≤ maxBytes then input
  else input.take (walkBack input maxBytes)

def sanitizeMessage (input : Bytes) (maxBytes : Nat := 512) : Bytes :=
  let cleaned := stripControlAndTrim input
  if cleaned.isEmpty then [] else truncateUtf8 cleaned maxBytes

/-- Like `sanitizeMessage`, but a newline survives and only blanks are trimmed. -/
def sanitizeNotice (input : Bytes) (maxBytes : Nat := 512) : Bytes :=
  let kept := input.filter fun byte => byte == 0x0A || !Bytes.isControl byte
  let out := Bytes.trimBoth
    (fun byte => byte == 0x20 || byte == 0x09 || byte == 0x0D) kept
  if out.isEmpty then [] else truncateUtf8 out maxBytes

def startsWithAnyPrefix (message : Bytes) (prefixes : List Bytes) : Bool :=
  prefixes.any fun candidate =>
    !candidate.isEmpty && candidate.isPrefixOf message

/-! ## What sanitizing guarantees -/

theorem walkBack_le (input : Bytes) (cut : Nat) : walkBack input cut ≤ cut := by
  induction cut with
  | zero => exact Nat.le_refl 0
  | succ cut induction =>
      unfold walkBack
      split <;> omega

theorem truncateUtf8_length_le (input : Bytes) (maxBytes : Nat) :
    (truncateUtf8 input maxBytes).length ≤ maxBytes := by
  unfold truncateUtf8
  split
  · assumption
  · have walked := walkBack_le input maxBytes
    rw [List.length_take]
    omega

theorem truncateUtf8_isPrefix (input : Bytes) (maxBytes : Nat) :
    (truncateUtf8 input maxBytes).IsPrefix input := by
  unfold truncateUtf8
  split
  · exact List.prefix_refl input
  · exact List.take_prefix _ input

theorem truncateUtf8_of_le {input : Bytes} {maxBytes : Nat}
    (fits : input.length ≤ maxBytes) : truncateUtf8 input maxBytes = input := by
  simp [truncateUtf8, fits]

theorem sanitizeMessage_length_le (input : Bytes) (maxBytes : Nat) :
    (sanitizeMessage input maxBytes).length ≤ maxBytes := by
  simp only [sanitizeMessage]
  split
  · exact Nat.zero_le _
  · exact truncateUtf8_length_le _ _

theorem sanitizeMessage_isPrefix (input : Bytes) (maxBytes : Nat) :
    (sanitizeMessage input maxBytes).IsPrefix (stripControlAndTrim input) := by
  simp only [sanitizeMessage]
  split
  · exact List.nil_prefix
  · exact truncateUtf8_isPrefix _ _

theorem not_isControl_of_mem_strip {input : Bytes} {byte : UInt8}
    (member : byte ∈ stripControlAndTrim input) :
    Bytes.isControl byte = false := by
  have kept := Bytes.mem_of_mem_trimBoth member
  simpa using (List.mem_filter.mp kept).2

theorem not_isControl_of_mem_sanitize {input : Bytes} {maxBytes : Nat}
    {byte : UInt8} (member : byte ∈ sanitizeMessage input maxBytes) :
    Bytes.isControl byte = false :=
  not_isControl_of_mem_strip ((sanitizeMessage_isPrefix _ _).subset member)

theorem head_sanitizeMessage {input : Bytes} {maxBytes : Nat} {byte : UInt8}
    (first : (sanitizeMessage input maxBytes).head? = some byte) :
    Bytes.isSpace byte = false := by
  rcases sanitizeMessage_isPrefix input maxBytes with ⟨rest, split⟩
  have whole : (stripControlAndTrim input).head? = some byte := by
    rw [← split, List.head?_append, first]
    rfl
  exact Bytes.head_trimBoth whole

theorem sanitizeMessage_ne_nil {text : Bytes} {maxBytes : Nat} (fits : text.length ≤ maxBytes)
    (noControl : ∀ byte ∈ text, Bytes.isControl byte = false)
    (first : ∀ byte, text.head? = some byte → Bytes.isSpace byte = false)
    (nonempty : text ≠ []) : sanitizeMessage text maxBytes ≠ [] := by
  have allKept : text.filter (fun byte => !Bytes.isControl byte) = text :=
    List.filter_eq_self.mpr fun byte member => by simp [noControl byte member]
  have cleaned : stripControlAndTrim text = Bytes.trimBoth Bytes.isSpace text := by
    rw [stripControlAndTrim, allKept]
  have something : stripControlAndTrim text ≠ [] := by
    rw [cleaned]
    exact Bytes.trimBoth_ne_nil first nonempty
  have short : (stripControlAndTrim text).length ≤ maxBytes := by
    rw [cleaned]
    exact (Bytes.length_trimBoth_le _ _).trans fits
  simp only [sanitizeMessage, List.isEmpty_eq_false_iff.mpr something, Bool.false_eq_true,
    if_false, truncateUtf8_of_le short]
  exact something

end PalCrosschat
