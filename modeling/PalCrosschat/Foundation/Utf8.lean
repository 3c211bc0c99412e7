import Mathlib.Data.List.Induction
import PalCrosschat.Foundation.Bytes

/-! # UTF-8 texts

A byte string is UTF-8 when it is the encoding of some row of characters.
Dropping ASCII bytes and cutting in front of a byte that is not a continuation
byte keep a text UTF-8. -/

namespace PalCrosschat

namespace Utf8

def encode (chars : List Char) : Bytes := chars.flatMap String.utf8EncodeChar

def Valid (text : Bytes) : Prop := ∃ chars, encode chars = text

@[simp] theorem encode_nil : encode [] = [] := rfl

@[simp] theorem encode_cons (char : Char) (chars : List Char) :
    encode (char :: chars) = String.utf8EncodeChar char ++ encode chars := rfl

theorem encode_append (left right : List Char) :
    encode (left ++ right) = encode left ++ encode right := List.flatMap_append

theorem Valid.nil : Valid [] := ⟨[], rfl⟩

theorem Valid.append {left right : Bytes} (leftValid : Valid left) (rightValid : Valid right) :
    Valid (left ++ right) := by
  rcases leftValid with ⟨leftChars, rfl⟩
  rcases rightValid with ⟨rightChars, rfl⟩
  exact ⟨leftChars ++ rightChars, encode_append leftChars rightChars⟩

/-! ## One character -/

theorem isContinuation_iff : ∀ byte : UInt8,
    Bytes.isContinuation byte = true ↔ 0x80 ≤ byte ∧ byte < 0xC0 := by
  apply Bytes.forall_byte
  decide +kernel

theorem isContinuation_low (value : Nat) :
    Bytes.isContinuation (UInt8.ofNat (value % 0x40 + 0x80)) = true := by
  rw [isContinuation_iff, UInt8.le_iff_toNat_le, UInt8.lt_iff_toNat_lt, UInt8.toNat_ofNat']
  change 128 ≤ _ ∧ _ < 192
  omega

theorem utf8EncodeChar_cases (char : Char) :
    (∃ byte, byte < 0x80 ∧ String.utf8EncodeChar char = [byte]) ∨
      ∃ lead tail, String.utf8EncodeChar char = lead :: tail ∧ 0xC0 ≤ lead ∧
        ∀ byte ∈ tail, Bytes.isContinuation byte = true := by
  unfold String.utf8EncodeChar
  dsimp only
  split
  · rename_i ascii
    refine Or.inl ⟨_, ?_, rfl⟩
    rw [UInt8.lt_iff_toNat_lt, UInt8.toNat_ofNat']
    change _ < 128
    omega
  · right
    split
    · refine ⟨_, _, rfl, ?_, by
        simp only [List.forall_mem_cons, isContinuation_low, List.not_mem_nil, false_implies,
          implies_true, and_self]⟩
      rw [UInt8.le_iff_toNat_le, UInt8.toNat_ofNat']
      change 192 ≤ _
      omega
    · split
      · refine ⟨_, _, rfl, ?_, by
        simp only [List.forall_mem_cons, isContinuation_low, List.not_mem_nil, false_implies,
          implies_true, and_self]⟩
        rw [UInt8.le_iff_toNat_le, UInt8.toNat_ofNat']
        change 192 ≤ _
        omega
      · refine ⟨_, _, rfl, ?_, by
        simp only [List.forall_mem_cons, isContinuation_low, List.not_mem_nil, false_implies,
          implies_true, and_self]⟩
        rw [UInt8.le_iff_toNat_le, UInt8.toNat_ofNat']
        change 192 ≤ _
        omega

theorem utf8EncodeChar_ascii_or (char : Char) :
    (∃ byte, String.utf8EncodeChar char = [byte]) ∨
      ∀ byte ∈ String.utf8EncodeChar char, 0x80 ≤ byte := by
  rcases utf8EncodeChar_cases char with ⟨byte, -, single⟩ | ⟨lead, tail, bytes, high, continues⟩
  · exact Or.inl ⟨byte, single⟩
  · right
    rw [bytes]
    intro byte member
    rcases List.mem_cons.mp member with rfl | inTail
    · exact UInt8.le_trans (by decide) high
    · exact ((isContinuation_iff byte).mp (continues byte inTail)).1

/-! ## Dropping ASCII bytes -/

section Drops

variable {drops : UInt8 → Bool} (ascii : ∀ byte, drops byte = true → byte < 0x80)
include ascii

theorem not_drops_of_high {byte : UInt8} (high : 0x80 ≤ byte) : drops byte = false := by
  cases dropped : drops byte with
  | false => rfl
  | true => exact absurd (ascii byte dropped) (UInt8.not_lt.mpr high)

theorem Valid.filter {text : Bytes} (valid : Valid text) :
    Valid (text.filter fun byte => !drops byte) := by
  rcases valid with ⟨chars, rfl⟩
  induction chars with
  | nil => exact Valid.nil
  | cons char chars induction =>
      rw [encode_cons, List.filter_append]
      apply Valid.append _ induction
      rcases utf8EncodeChar_ascii_or char with ⟨byte, single⟩ | high
      · cases dropped : drops byte with
        | true => exact ⟨[], by simp [single, dropped]⟩
        | false => exact ⟨[char], by simp [single, dropped]⟩
      · refine ⟨[char], ?_⟩
        rw [List.filter_eq_self.mpr fun byte member => by
          simp [not_drops_of_high ascii (high byte member)]]
        simp

theorem Valid.dropWhile {text : Bytes} (valid : Valid text) : Valid (text.dropWhile drops) := by
  rcases valid with ⟨chars, rfl⟩
  induction chars with
  | nil => exact Valid.nil
  | cons char chars induction =>
      rcases utf8EncodeChar_cases char with ⟨byte, -, single⟩ | ⟨lead, tail, bytes, high, -⟩
      · rw [encode_cons, single]
        cases dropped : drops byte with
        | true => simpa [List.dropWhile_cons, dropped] using induction
        | false => exact ⟨char :: chars, by simp [single, dropped]⟩
      · have kept := not_drops_of_high ascii (UInt8.le_trans (by decide) high)
        exact ⟨char :: chars, by simp [bytes, kept]⟩

theorem Valid.dropWhile_reverse {text : Bytes} (valid : Valid text) :
    Valid (text.reverse.dropWhile drops).reverse := by
  rcases valid with ⟨chars, rfl⟩
  induction chars using List.reverseRecOn with
  | nil => exact Valid.nil
  | append_singleton front last induction =>
      have whole : encode (front ++ [last]) = encode front ++ String.utf8EncodeChar last := by
        rw [encode_append, encode_cons, encode_nil, List.append_nil]
      rcases utf8EncodeChar_ascii_or last with ⟨byte, single⟩ | high
      · rw [whole, single, List.reverse_append]
        cases dropped : drops byte with
        | true => simpa [List.dropWhile_cons, dropped] using induction
        | false => exact ⟨front ++ [last], by rw [whole, single]; simp [dropped]⟩
      · refine ⟨front ++ [last], ?_⟩
        rw [whole, List.reverse_append]
        have nonempty : (String.utf8EncodeChar last).reverse ≠ [] := by simp
        rcases List.exists_cons_of_ne_nil nonempty with ⟨final, rest, backward⟩
        have inChar : final ∈ String.utf8EncodeChar last := by
          rw [← List.mem_reverse, backward]
          exact List.mem_cons_self
        have kept := not_drops_of_high ascii (high final inChar)
        rw [backward, List.cons_append, List.dropWhile_cons_of_neg (by simp [kept]),
          ← List.cons_append, ← backward, ← List.reverse_append, List.reverse_reverse]

theorem Valid.trimBoth {text : Bytes} (valid : Valid text) :
    Valid (Bytes.trimBoth drops text) :=
  (valid.dropWhile ascii).dropWhile_reverse ascii

end Drops

/-! ## Writing ASCII bytes in another way -/

theorem Valid.flatMap {write : UInt8 → Bytes} (ascii : ∀ byte < 0x80, Valid (write byte))
    (others : ∀ byte, 0x80 ≤ byte → write byte = [byte]) {text : Bytes} (valid : Valid text) :
    Valid (text.flatMap write) := by
  rcases valid with ⟨chars, rfl⟩
  induction chars with
  | nil => exact Valid.nil
  | cons char chars induction =>
      rw [encode_cons, List.flatMap_append]
      apply Valid.append _ induction
      rcases utf8EncodeChar_cases char with
        ⟨byte, low, single⟩ | ⟨lead, tail, bytes, high, continues⟩
      · rw [single, List.flatMap_singleton]
        exact ascii byte low
      · have kept : ∀ byte ∈ String.utf8EncodeChar char, write byte = [byte] := by
          rw [bytes]
          intro byte member
          apply others
          rcases List.mem_cons.mp member with rfl | inTail
          · exact UInt8.le_trans (by decide) high
          · exact ((isContinuation_iff byte).mp (continues byte inTail)).1
        rw [List.flatMap_congr kept, List.flatMap_singleton']
        exact ⟨[char], List.append_nil _⟩

/-! ## Cutting -/

theorem Valid.take {text : Bytes} (valid : Valid text) :
    ∀ {cut : Nat}, (text[cut]?.any Bytes.isContinuation) = false → Valid (text.take cut) := by
  rcases valid with ⟨chars, rfl⟩
  induction chars with
  | nil => exact fun _ => ⟨[], by simp⟩
  | cons char chars induction =>
      intro cut boundary
      rw [encode_cons] at boundary ⊢
      by_cases inside : cut < (String.utf8EncodeChar char).length
      · have atStart : cut = 0 := by
          rcases utf8EncodeChar_cases char with
            ⟨byte, -, single⟩ | ⟨lead, tail, bytes, -, continues⟩
          · rw [single, List.length_singleton] at inside
            omega
          · cases cut with
            | zero => rfl
            | succ index =>
                rw [bytes, List.length_cons] at inside
                rw [List.getElem?_append_left (by rw [bytes, List.length_cons]; exact inside),
                  bytes, List.getElem?_cons_succ,
                  List.getElem?_eq_getElem (by omega)] at boundary
                simp [continues _ (List.getElem_mem _)] at boundary
        rw [atStart, List.take_zero]
        exact Valid.nil
      · rw [List.getElem?_append_right (by omega)] at boundary
        rw [List.take_append, List.take_of_length_le (by omega)]
        exact Valid.append ⟨[char], by simp⟩ (induction boundary)

/-! ## Splitting -/

/-- The core library decodes the same byte strings. -/
theorem valid_iff_isValidUTF8 (text : Bytes) : Valid text ↔ text.toByteArray.IsValidUTF8 := by
  constructor
  · rintro ⟨chars, rfl⟩
    exact ⟨chars, rfl⟩
  · rintro ⟨chars, bytes⟩
    exact ⟨chars, (List.toByteArray_inj.mp bytes).symm⟩

theorem valid_encode_append (chars : List Char) {rest : Bytes} :
    Valid (encode chars ++ rest) ↔ Valid rest := by
  induction chars with
  | nil => exact Iff.rfl
  | cons char chars induction =>
      rw [encode_cons, List.append_assoc, valid_iff_isValidUTF8, List.toByteArray_append,
        ← List.utf8Encode_singleton, ByteArray.isValidUTF8_utf8Encode_singleton_append_iff,
        ← valid_iff_isValidUTF8]
      exact induction

theorem Valid.of_append {left right : Bytes} (leftValid : Valid left)
    (valid : Valid (left ++ right)) : Valid right := by
  rcases leftValid with ⟨chars, rfl⟩
  exact (valid_encode_append chars).mp valid

theorem Valid.head_starts {text : Bytes} (valid : Valid text) :
    text.head?.any Bytes.isContinuation = false := by
  rcases valid with ⟨chars, rfl⟩
  cases chars with
  | nil => rfl
  | cons char chars =>
      have starts : ∀ byte, byte < 0x80 ∨ 0xC0 ≤ byte → Bytes.isContinuation byte = false := by
        apply Bytes.forall_byte
        decide +kernel
      rcases utf8EncodeChar_cases char with ⟨byte, low, single⟩ | ⟨lead, tail, bytes, high, -⟩
      · rw [encode_cons, single]
        exact starts byte (Or.inl low)
      · rw [encode_cons, bytes]
        exact starts lead (Or.inr high)

theorem Valid.take_iff {text : Bytes} (valid : Valid text) (cut : Nat) :
    Valid (text.take cut) ↔ text[cut]?.any Bytes.isContinuation = false := by
  refine ⟨fun front => ?_, valid.take⟩
  have split := List.take_append_drop cut text
  rw [← split] at valid
  have starts := (front.of_append valid).head_starts
  rw [List.head?_drop] at starts
  exact starts

theorem valid_append_iff {left right : Bytes}
    (starts : right.head?.any Bytes.isContinuation = false) :
    Valid (left ++ right) ↔ Valid left ∧ Valid right := by
  constructor
  · intro valid
    have front : Valid left := by
      have cut := valid.take_iff left.length
      rw [List.take_left, List.getElem?_append_right (Nat.le_refl _), Nat.sub_self,
        ← List.head?_eq_getElem?] at cut
      exact cut.mpr starts
    exact ⟨front, front.of_append valid⟩
  · exact fun valid => valid.1.append valid.2

theorem Valid.of_append_right {left right : Bytes} (rightValid : Valid right)
    (valid : Valid (left ++ right)) : Valid left :=
  ((valid_append_iff rightValid.head_starts).mp valid).1

theorem valid_surrounded_iff {left middle right : Bytes} (leftValid : Valid left)
    (rightValid : Valid right) : Valid (left ++ middle ++ right) ↔ Valid middle := by
  constructor
  · exact fun valid => leftValid.of_append (rightValid.of_append_right valid)
  · exact fun valid => (leftValid.append valid).append rightValid

/-! ## ASCII -/

theorem utf8EncodeChar_ofUInt8 : ∀ byte : UInt8, byte < 0x80 →
    String.utf8EncodeChar (Char.ofUInt8 byte) = [byte] := by
  apply Bytes.forall_byte
  decide +kernel

theorem Valid.of_ascii {text : Bytes} (ascii : ∀ byte ∈ text, byte < 0x80) : Valid text := by
  induction text with
  | nil => exact Valid.nil
  | cons byte rest induction =>
      have single := utf8EncodeChar_ofUInt8 byte (ascii byte List.mem_cons_self)
      have first : Valid [byte] :=
        ⟨[Char.ofUInt8 byte], by rw [encode_cons, encode_nil, List.append_nil, single]⟩
      exact first.append (induction fun later member => ascii later (List.mem_cons_of_mem _ member))

theorem Valid.of_all_ascii {text : Bytes} (ascii : text.all (fun byte => byte < 0x80) = true) :
    Valid text := by
  apply Valid.of_ascii
  intro byte member
  exact of_decide_eq_true (List.all_eq_true.mp ascii byte member)

end Utf8

end PalCrosschat
