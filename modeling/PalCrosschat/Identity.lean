import PalCrosschat.Foundation.Bytes

/-! # Player identities

Unreal `FGuid`s with the text key of `FormatGuid` and `FormatGuidKey` (one
format string in two files), its inverse `TryParseGuid`, and the platform
account ids of `PlatformId.cpp`. -/

namespace PalCrosschat

open Bytes (ascii)

/-! ## `FGuid` -/

structure Guid where
  a : UInt32 := 0
  b : UInt32 := 0
  c : UInt32 := 0
  d : UInt32 := 0
deriving DecidableEq, Repr

/-- `FGuid{}`. -/
def Guid.nil : Guid := {}

def hexDigit (value : Nat) : UInt8 :=
  if value < 10 then UInt8.ofNat (0x30 + value) else UInt8.ofNat (0x37 + value)

/-- `%0nX` of a value below `16 ^ width`. -/
def hexField : (width : Nat) → (value : Nat) → Bytes
  | 0, _ => []
  | width + 1, value => hexField width (value / 16) ++ [hexDigit (value % 16)]

def formatGuid (guid : Guid) : Bytes :=
  hexField 8 guid.a.toNat ++ ascii "-" ++
    hexField 4 (guid.b.toNat / 2 ^ 16) ++ ascii "-" ++
    hexField 4 (guid.b.toNat % 2 ^ 16) ++ ascii "-" ++
    hexField 4 (guid.c.toNat / 2 ^ 16) ++ ascii "-" ++
    hexField 4 (guid.c.toNat % 2 ^ 16) ++ hexField 8 guid.d.toNat

def hexValue (byte : UInt8) : Option UInt32 :=
  if 0x30 ≤ byte && byte ≤ 0x39 then some (byte - 0x30).toUInt32
  else if 0x61 ≤ byte && byte ≤ 0x66 then some (byte - 0x61 + 10).toUInt32
  else if 0x41 ≤ byte && byte ≤ 0x46 then some (byte - 0x41 + 10).toUInt32
  else none

/-- `words[index] = (words[index] << 4) | value`. -/
def Guid.shiftIn (guid : Guid) (index : Nat) (value : UInt32) : Guid :=
  match index with
  | 0 => { guid with a := guid.a <<< 4 ||| value }
  | 1 => { guid with b := guid.b <<< 4 ||| value }
  | 2 => { guid with c := guid.c <<< 4 ||| value }
  | _ => { guid with d := guid.d <<< 4 ||| value }

/-- The character loop of `TryParseGuid` with its word array and digit count. -/
def parseGuidLoop : Bytes → Guid → Nat → Option (Guid × Nat)
  | [], words, digits => some (words, digits)
  | byte :: rest, words, digits =>
      if byte == 0x2D || byte == 0x7B || byte == 0x7D then
        parseGuidLoop rest words digits
      else
        match hexValue byte with
        | none => none
        | some value =>
            if 32 ≤ digits then none
            else parseGuidLoop rest (words.shiftIn (digits / 8) value) (digits + 1)

def tryParseGuid (text : Bytes) : Option Guid :=
  match parseGuidLoop text .nil 0 with
  | none => none
  | some (words, digits) =>
      if digits ≠ 32 then none
      else if words = Guid.nil then none
      else some words

theorem hexField_length (width value : Nat) :
    (hexField width value).length = width := by
  induction width generalizing value with
  | zero => rfl
  | succ width induction => simp [hexField, induction]

theorem formatGuid_length (guid : Guid) : (formatGuid guid).length = 36 := by
  simp [formatGuid, hexField_length, ascii]

theorem hexDigit_injective : ∀ left < 16, ∀ right < 16,
    hexDigit left = hexDigit right → left = right := by
  decide

theorem mod_eq_of_hexField_eq {width left right : Nat}
    (equal : hexField width left = hexField width right) :
    left % 16 ^ width = right % 16 ^ width := by
  induction width generalizing left right with
  | zero => simp [Nat.mod_one]
  | succ width induction =>
      rcases List.append_inj' equal rfl with ⟨high, low⟩
      have lowDigit : left % 16 = right % 16 :=
        hexDigit_injective _ (Nat.mod_lt _ (by omega)) _ (Nat.mod_lt _ (by omega))
          (List.singleton_inj.mp low)
      rw [Nat.pow_succ', Nat.mod_mul, Nat.mod_mul, lowDigit, induction high]

theorem eq_of_hexField_eq {width left right : Nat} (leftFits : left < 16 ^ width)
    (rightFits : right < 16 ^ width) (equal : hexField width left = hexField width right) :
    left = right := by
  have digits := mod_eq_of_hexField_eq equal
  rwa [Nat.mod_eq_of_lt leftFits, Nat.mod_eq_of_lt rightFits] at digits

theorem eq_of_half_fields {left right : UInt32}
    (high : hexField 4 (left.toNat / 2 ^ 16) = hexField 4 (right.toNat / 2 ^ 16))
    (low : hexField 4 (left.toNat % 2 ^ 16) = hexField 4 (right.toNat % 2 ^ 16)) :
    left = right := by
  have leftBound := left.toNat_lt
  have rightBound := right.toNat_lt
  have highEqual := eq_of_hexField_eq (by omega) (by omega) high
  have lowEqual := eq_of_hexField_eq (by omega) (by omega) low
  apply UInt32.toNat.inj
  omega

theorem formatGuid_injective : Function.Injective formatGuid := by
  intro left right equal
  rcases left with ⟨leftA, leftB, leftC, leftD⟩
  rcases right with ⟨rightA, rightB, rightC, rightD⟩
  unfold formatGuid at equal
  rcases List.append_inj' equal (by simp [hexField_length]) with ⟨equal, fieldD⟩
  rcases List.append_inj' equal (by simp [hexField_length]) with ⟨equal, lowC⟩
  rcases List.append_inj' equal rfl with ⟨equal, -⟩
  rcases List.append_inj' equal (by simp [hexField_length]) with ⟨equal, highC⟩
  rcases List.append_inj' equal rfl with ⟨equal, -⟩
  rcases List.append_inj' equal (by simp [hexField_length]) with ⟨equal, lowB⟩
  rcases List.append_inj' equal rfl with ⟨equal, -⟩
  rcases List.append_inj' equal (by simp [hexField_length]) with ⟨equal, highB⟩
  rcases List.append_inj' equal rfl with ⟨fieldA, -⟩
  have equalA : leftA = rightA :=
    UInt32.toNat.inj (eq_of_hexField_eq leftA.toNat_lt rightA.toNat_lt fieldA)
  have equalD : leftD = rightD :=
    UInt32.toNat.inj (eq_of_hexField_eq leftD.toNat_lt rightD.toNat_lt fieldD)
  have equalB : leftB = rightB := eq_of_half_fields highB lowB
  have equalC : leftC = rightC := eq_of_half_fields highC lowC
  rw [equalA, equalB, equalC, equalD]

example : formatGuid ⟨0xABC, 0x10002, 3, 4⟩ =
    ascii "00000ABC-0001-0002-0000-000300000004" := by decide

/-! ## Platform account ids -/

def isDigits (text : Bytes) : Bool := !text.isEmpty && text.all Bytes.isDigit

def normalizePlatformUserId (raw : Bytes) : Bytes :=
  let raw := Bytes.trimBoth Bytes.isSpace raw
  if raw.isEmpty then []
  else if (ascii "steam_").isPrefixOf raw || (ascii "gdk_").isPrefixOf raw ||
      (ascii "ps5_").isPrefixOf raw then raw
  else if ((ascii "Steam:").isPrefixOf raw || (ascii "steam:").isPrefixOf raw) &&
      isDigits (raw.drop 6) then ascii "steam_" ++ raw.drop 6
  else if isDigits raw && decide (15 ≤ raw.length) then ascii "steam_" ++ raw
  else []

def isXboxPlatform (platformUserId : Bytes) : Bool :=
  (ascii "gdk_").isPrefixOf platformUserId

/-- `SplitPlatformUserId`: the texts around the first underscore, both
non-empty. -/
def splitPlatformUserId (platformUserId : Bytes) : Option (Bytes × Bytes) :=
  match Bytes.find platformUserId (ascii "_") 0 with
  | none => none
  | some underscore =>
      if underscore = 0 ∨ platformUserId.length ≤ underscore + 1 then none
      else some (platformUserId.take underscore, platformUserId.drop (underscore + 1))

end PalCrosschat
