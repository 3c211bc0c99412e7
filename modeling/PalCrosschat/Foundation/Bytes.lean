import Mathlib.Algebra.GroupWithZero.Nat
import Mathlib.Data.List.Basic
import Mathlib.Data.List.TakeWhile

/-! # Byte strings

A `std::string` is a list of bytes. This file holds the character classes and
the searching and trimming operations of the C and C++ standard libraries. -/

namespace PalCrosschat

abbrev Bytes := List UInt8

namespace Bytes

def ascii (text : String) : Bytes := text.toList.map Char.toUInt8

/-- `std::to_string` of an integer. -/
def decimal (value : Int) : Bytes := ascii (toString value)

/-- `std::isspace` in the C locale. -/
def isSpace (byte : UInt8) : Bool :=
  byte == 0x20 || (0x09 ≤ byte && byte ≤ 0x0D)

/-- `std::tolower` in the C locale. -/
def toLower (byte : UInt8) : UInt8 :=
  if 0x41 ≤ byte && byte ≤ 0x5A then byte + 0x20 else byte

def isDigit (byte : UInt8) : Bool := 0x30 ≤ byte && byte ≤ 0x39

def isControl (byte : UInt8) : Bool := byte < 0x20 || byte == 0x7F

/-- A UTF-8 continuation byte, `10xxxxxx`. -/
def isContinuation (byte : UInt8) : Bool := byte &&& 0xC0 == 0x80

def trimBoth (drops : UInt8 → Bool) (text : Bytes) : Bytes :=
  ((text.dropWhile drops).reverse.dropWhile drops).reverse

/-- `std::string::find(pattern, position)`. -/
def find (text pattern : Bytes) (position : Nat) : Option Nat :=
  if text.length < position then
    none
  else
    ((List.range' position (text.length + 1 - position)).find? fun index =>
      pattern.isPrefixOf (text.drop index))

theorem forall_byte {holds : UInt8 → Prop}
    (each : ∀ index : Fin 256, holds (UInt8.ofFin index)) (byte : UInt8) : holds byte :=
  each byte.toFin

/-! ## Trimming -/

theorem mem_of_mem_trimBoth {drops : UInt8 → Bool} {text : Bytes} {byte : UInt8}
    (member : byte ∈ trimBoth drops text) : byte ∈ text := by
  have inReverse := (List.dropWhile_sublist drops).subset
    (List.mem_reverse.mp member)
  exact (List.dropWhile_sublist drops).subset (List.mem_reverse.mp inReverse)

theorem head_trimBoth {drops : UInt8 → Bool} {text : Bytes} {byte : UInt8}
    (first : (trimBoth drops text).head? = some byte) : drops byte = false := by
  have isPrefix : (trimBoth drops text).IsPrefix (text.dropWhile drops) := by
    rw [trimBoth, ← List.reverse_suffix, List.reverse_reverse]
    exact List.dropWhile_suffix drops
  rcases isPrefix with ⟨rest, split⟩
  cases kept : trimBoth drops text with
  | nil => simp [kept] at first
  | cons head tail =>
      have same : head = byte := by simpa [kept] using first
      subst same
      have headEqual : (text.dropWhile drops).head? = some head := by
        rw [← split, kept]
        rfl
      have notDropped := List.head?_dropWhile_not drops text
      rw [headEqual] at notDropped
      simpa using notDropped

theorem length_trimBoth_le (drops : UInt8 → Bool) (text : Bytes) :
    (trimBoth drops text).length ≤ text.length := by
  have front := (List.dropWhile_sublist (l := text) drops).length_le
  have back := (List.dropWhile_sublist (l := (text.dropWhile drops).reverse) drops).length_le
  rw [List.length_reverse] at back
  rw [trimBoth, List.length_reverse]
  exact Nat.le_trans back front

theorem trimBoth_ne_nil {drops : UInt8 → Bool} {text : Bytes}
    (first : ∀ byte, text.head? = some byte → drops byte = false) (nonempty : text ≠ []) :
    trimBoth drops text ≠ [] := by
  cases text with
  | nil => exact absurd rfl nonempty
  | cons head tail =>
      have kept : drops head = false := first head rfl
      simp [trimBoth, List.dropWhile_eq_nil_iff, kept]

theorem trimBoth_of_ends {drops : UInt8 → Bool} {text : Bytes}
    (first : ∀ byte, text.head? = some byte → drops byte = false)
    (last : ∀ byte, text.getLast? = some byte → drops byte = false) :
    trimBoth drops text = text := by
  have keepsFront : text.dropWhile drops = text := by
    cases text with
    | nil => rfl
    | cons head tail => simp [first head rfl]
  have keepsBack : text.reverse.dropWhile drops = text.reverse := by
    cases reversed : text.reverse with
    | nil => rfl
    | cons head tail =>
        have isLast : text.getLast? = some head := by
          rw [← List.head?_reverse, reversed]
          rfl
        simp [last head isLast]
  rw [trimBoth, keepsFront, keepsBack, List.reverse_reverse]

theorem getLast_trimBoth {drops : UInt8 → Bool} {text : Bytes} {byte : UInt8}
    (last : (trimBoth drops text).getLast? = some byte) : drops byte = false := by
  have notDropped := List.head?_dropWhile_not drops (text.dropWhile drops).reverse
  rw [trimBoth, List.getLast?_reverse] at last
  rw [last] at notDropped
  simpa using notDropped

theorem trimBoth_trimBoth (drops : UInt8 → Bool) (text : Bytes) :
    trimBoth drops (trimBoth drops text) = trimBoth drops text :=
  trimBoth_of_ends (fun _ first => head_trimBoth first) (fun _ last => getLast_trimBoth last)

theorem trimBoth_surrounded {drops : UInt8 → Bool} {before text after : Bytes}
    (inFront : ∀ byte ∈ before, drops byte = true) (behind : ∀ byte ∈ after, drops byte = true) :
    trimBoth drops (before ++ text ++ after) = trimBoth drops text := by
  rw [trimBoth, trimBoth, List.append_assoc, List.dropWhile_append_of_pos inFront,
    List.dropWhile_append]
  cases kept : (text.dropWhile drops).isEmpty with
  | true =>
      have nothing : after.dropWhile drops = [] := List.dropWhile_eq_nil_iff.mpr behind
      rw [if_pos rfl, nothing, List.isEmpty_iff.mp kept]
  | false =>
      rw [if_neg (by simp), List.reverse_append, List.dropWhile_append_of_pos]
      exact fun byte member => behind byte (List.mem_reverse.mp member)

end Bytes

end PalCrosschat
