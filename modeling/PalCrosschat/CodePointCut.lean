import PalCrosschat.NormalForm

/-! # Where `TruncateUtf8` cuts

The cut walks back over continuation bytes, so it stands between two characters,
and it passes no place between characters on its way. -/

namespace PalCrosschat

/-- The loop of `TruncateUtf8` with every `input[cut]` checked against the size
of the input. -/
def walkBackChecked (input : Bytes) : Nat → Option Nat
  | 0 => some 0
  | cut + 1 =>
      match input[cut + 1]? with
      | none => none
      | some byte =>
          if Bytes.isContinuation byte then walkBackChecked input cut else some (cut + 1)

/-- `TruncateUtf8`, or nothing when it would read outside of its input. -/
def truncateUtf8Checked (input : Bytes) (maxBytes : Nat) : Option Bytes :=
  if input.length ≤ maxBytes then some input
  else (walkBackChecked input maxBytes).map input.take

/-- The longest text of whole characters within the limit that starts `text`. -/
structure LongestCut (text : Bytes) (maxBytes : Nat) (front : Bytes) : Prop where
  isPrefix : front <+: text
  valid : Utf8.Valid front
  length : front.length ≤ maxBytes
  longest : ∀ other, other <+: text → Utf8.Valid other → other.length ≤ maxBytes →
    other <+: front

/-- What `TruncateUtf8` guarantees for its argument. -/
structure CutsBetweenCharacters (text : Bytes) (maxBytes : Nat) : Prop where
  ofValid : Utf8.Valid text → LongestCut text maxBytes (truncateUtf8 text maxBytes)
  isPrefix : truncateUtf8 text maxBytes <+: text
  length : (truncateUtf8 text maxBytes).length ≤ maxBytes
  inBounds : truncateUtf8Checked text maxBytes = some (truncateUtf8 text maxBytes)

/-! ## Reads of the loop -/

theorem walkBackChecked_eq {input : Bytes} {cut : Nat} (inside : cut < input.length) :
    walkBackChecked input cut = some (walkBack input cut) := by
  induction cut with
  | zero => rfl
  | succ cut induction =>
      rw [walkBackChecked, walkBack, List.getElem?_eq_getElem inside, Option.any_some]
      dsimp only
      split
      · exact induction (by omega)
      · rfl

theorem truncateUtf8Checked_eq (input : Bytes) (maxBytes : Nat) :
    truncateUtf8Checked input maxBytes = some (truncateUtf8 input maxBytes) := by
  rw [truncateUtf8Checked, truncateUtf8]
  split
  · rfl
  · rename_i long
    rw [walkBackChecked_eq (Nat.lt_of_not_le long), Option.map_some]

/-! ## The cut is the last one possible -/

theorem le_walkBack {text : Bytes} (valid : Utf8.Valid text) {place maxBytes : Nat}
    (between : Utf8.Valid (text.take place)) (atMost : place ≤ maxBytes) :
    place ≤ walkBack text maxBytes := by
  have starts := (valid.take_iff place).mp between
  by_contra passed
  have continues := (walkBack_spec text maxBytes).2 place atMost (by omega)
  rw [continuesAt, starts] at continues
  cases continues

theorem prefix_truncateUtf8 {text front : Bytes} (valid : Utf8.Valid text) {maxBytes : Nat}
    (isPrefix : front <+: text) (frontValid : Utf8.Valid front)
    (fits : front.length ≤ maxBytes) : front <+: truncateUtf8 text maxBytes := by
  rw [truncateUtf8]
  split
  · exact isPrefix
  · have taken := List.prefix_iff_eq_take.mp isPrefix
    rw [taken] at frontValid
    have before := le_walkBack valid frontValid fits
    rw [taken]
    exact List.take_prefix_take_left before

theorem longestCut_truncateUtf8 {text : Bytes} (valid : Utf8.Valid text) (maxBytes : Nat) :
    LongestCut text maxBytes (truncateUtf8 text maxBytes) where
  isPrefix := truncateUtf8_isPrefix text maxBytes
  valid := valid_truncateUtf8 valid maxBytes
  length := truncateUtf8_length_le text maxBytes
  longest := fun _ isPrefix otherValid fits =>
    prefix_truncateUtf8 valid isPrefix otherValid fits

/-- `TruncateUtf8` cuts a text at its last code point boundary within the limit,
and reads no byte outside of any byte string. -/
theorem truncateUtf8_cutsBetweenCharacters (text : Bytes) (maxBytes : Nat) :
    CutsBetweenCharacters text maxBytes where
  ofValid := fun valid => longestCut_truncateUtf8 valid maxBytes
  isPrefix := truncateUtf8_isPrefix text maxBytes
  length := truncateUtf8_length_le text maxBytes
  inBounds := truncateUtf8Checked_eq text maxBytes

/-- A limit inside of the second character leaves the first one. -/
example : truncateUtf8 [0x61, 0xE2, 0x82, 0xAC] 2 = [0x61] := by decide

end PalCrosschat
