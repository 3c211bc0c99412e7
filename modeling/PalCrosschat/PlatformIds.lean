import PalCrosschat.Identity
import PalCrosschat.Templates

/-! # One spelling for one account

A platform id is normalized where it is read and again at every hop, and split
at its first underscore for the link table. All of this relies on a form that
normalizing produces and keeps. -/

namespace PalCrosschat

open Bytes (ascii)

def platformNames : List Bytes := [ascii "steam", ascii "gdk", ascii "ps5"]

structure PlatformAccount (text : Bytes) : Prop where
  named : ∃ platform ∈ platformNames, platform ++ ascii "_" <+: text
  first : ∀ byte, text.head? = some byte → Bytes.isSpace byte = false
  last : ∀ byte, text.getLast? = some byte → Bytes.isSpace byte = false

def steamSpellings (digits : Bytes) : List Bytes :=
  [digits, ascii "Steam:" ++ digits, ascii "steam:" ++ digits, ascii "steam_" ++ digits]

/-- What normalizing makes of a text. -/
structure NormalizesId (raw : Bytes) : Prop where
  again : normalizePlatformUserId (normalizePlatformUserId raw) = normalizePlatformUserId raw
  form : normalizePlatformUserId raw = [] ∨ PlatformAccount (normalizePlatformUserId raw)
  split : ∀ platform userId, normalizePlatformUserId raw ≠ [] →
    splitPlatformUserId (normalizePlatformUserId raw) = some (platform, userId) →
      platform ∈ platformNames ∧ userId ≠ [] ∧
        platform ++ ascii "_" ++ userId = normalizePlatformUserId raw

/-- All spellings of a long enough Steam id come to one text. -/
def OneSteamSpelling (digits : Bytes) : Prop :=
  isDigits digits = true → 15 ≤ digits.length →
    ∀ spelling ∈ steamSpellings digits, ∀ before after : Bytes,
      (∀ byte ∈ before, Bytes.isSpace byte = true) →
      (∀ byte ∈ after, Bytes.isSpace byte = true) →
      normalizePlatformUserId (before ++ spelling ++ after) = ascii "steam_" ++ digits

/-! ## Trimmed texts -/

section Trimmed

variable {raw digits : Bytes}

theorem normalizePlatformUserId_trim (raw : Bytes) :
    normalizePlatformUserId (Bytes.trimBoth Bytes.isSpace raw) = normalizePlatformUserId raw := by
  unfold normalizePlatformUserId
  rw [Bytes.trimBoth_trimBoth]

theorem isSpace_of_isDigit : ∀ byte : UInt8,
    Bytes.isDigit byte = true → Bytes.isSpace byte = false := by
  apply Bytes.forall_byte
  decide +kernel

theorem PlatformAccount.nonempty {text : Bytes} (account : PlatformAccount text) : text ≠ [] := by
  rcases account.named with ⟨platform, -, isPrefix⟩
  rintro rfl
  have empty := List.prefix_nil.mp isPrefix
  exact absurd empty (by simp [ascii])

theorem PlatformAccount.normalize {text : Bytes} (account : PlatformAccount text) :
    normalizePlatformUserId text = text := by
  have trimmed := Bytes.trimBoth_of_ends account.first account.last
  have nonempty : text.isEmpty = false := List.isEmpty_eq_false_iff.mpr account.nonempty
  have passes : ((ascii "steam_").isPrefixOf text || (ascii "gdk_").isPrefixOf text ||
      (ascii "ps5_").isPrefixOf text) = true := by
    rcases account.named with ⟨platform, member, isPrefix⟩
    simp only [platformNames, List.mem_cons, List.not_mem_nil, or_false] at member
    simp only [Bool.or_eq_true, List.isPrefixOf_iff_prefix]
    rcases member with rfl | rfl | rfl
    · exact Or.inl (Or.inl isPrefix)
    · exact Or.inl (Or.inr isPrefix)
    · exact Or.inr isPrefix
  rw [normalizePlatformUserId, trimmed, if_neg (by simp [nonempty]), if_pos passes]

theorem isSpace_of_named {text : Bytes}
    (named : ∃ platform ∈ platformNames, platform ++ ascii "_" <+: text) {byte : UInt8}
    (first : text.head? = some byte) : Bytes.isSpace byte = false := by
  rcases named with ⟨platform, member, rest, rfl⟩
  simp only [platformNames, List.mem_cons, List.not_mem_nil, or_false] at member
  rcases member with rfl | rfl | rfl
  · have starts : (ascii "steam" ++ ascii "_" ++ rest).head? = some 0x73 := rfl
    rw [starts, Option.some.injEq] at first
    rw [← first]
    decide
  · have starts : (ascii "gdk" ++ ascii "_" ++ rest).head? = some 0x67 := rfl
    rw [starts, Option.some.injEq] at first
    rw [← first]
    decide
  · have starts : (ascii "ps5" ++ ascii "_" ++ rest).head? = some 0x70 := rfl
    rw [starts, Option.some.injEq] at first
    rw [← first]
    decide

theorem all_isDigit (digitsOnly : isDigits digits = true) :
    digits ≠ [] ∧ ∀ byte ∈ digits, Bytes.isDigit byte = true := by
  rw [isDigits, Bool.and_eq_true, List.all_eq_true] at digitsOnly
  exact ⟨by simpa using digitsOnly.1, digitsOnly.2⟩

theorem platformAccount_steam (digitsOnly : isDigits digits = true) :
    PlatformAccount (ascii "steam_" ++ digits) := by
  rcases all_isDigit digitsOnly with ⟨nonempty, all⟩
  have named : ∃ platform ∈ platformNames,
      platform ++ ascii "_" <+: ascii "steam_" ++ digits :=
    ⟨ascii "steam", List.mem_cons_self, List.prefix_append _ _⟩
  refine ⟨named, fun _ first => isSpace_of_named named first, ?_⟩
  intro byte last
  rw [List.getLast?_append_of_ne_nil _ nonempty] at last
  exact isSpace_of_isDigit byte (all byte (List.mem_of_getLast? last))

theorem normalizePlatformUserId_cases (raw : Bytes) :
    normalizePlatformUserId raw = [] ∨ PlatformAccount (normalizePlatformUserId raw) := by
  unfold normalizePlatformUserId
  dsimp only
  split
  · exact Or.inl rfl
  · split
    · rename_i passes
      right
      simp only [Bool.or_eq_true, List.isPrefixOf_iff_prefix] at passes
      have named : ∃ platform ∈ platformNames,
          platform ++ ascii "_" <+: Bytes.trimBoth Bytes.isSpace raw := by
        rcases passes with (steam | gdk) | ps5
        · exact ⟨ascii "steam", by simp [platformNames], steam⟩
        · exact ⟨ascii "gdk", by simp [platformNames], gdk⟩
        · exact ⟨ascii "ps5", by simp [platformNames], ps5⟩
      exact ⟨named, fun _ first => isSpace_of_named named first,
        fun _ last => Bytes.getLast_trimBoth last⟩
    · split
      · rename_i labelled
        rw [Bool.and_eq_true] at labelled
        exact Or.inr (platformAccount_steam labelled.2)
      · split
        · rename_i bare
          rw [Bool.and_eq_true] at bare
          exact Or.inr (platformAccount_steam bare.1)
        · exact Or.inl rfl

theorem normalizePlatformUserId_again (raw : Bytes) :
    normalizePlatformUserId (normalizePlatformUserId raw) = normalizePlatformUserId raw := by
  rcases normalizePlatformUserId_cases raw with empty | account
  · rw [empty]
    rfl
  · exact account.normalize

end Trimmed

/-! ## Spellings of a Steam id -/

section Spellings

variable {digits : Bytes}

theorem not_prefix_of_digits (label : Bytes) {byte : UInt8} {rest : Bytes}
    (starts : label = byte :: rest) (letter : Bytes.isDigit byte = false)
    (all : ∀ byte ∈ digits, Bytes.isDigit byte = true) :
    label.isPrefixOf digits = false := by
  rw [Bool.eq_false_iff, Ne, List.isPrefixOf_iff_prefix]
  intro isPrefix
  have member : byte ∈ digits := isPrefix.subset (by rw [starts]; exact List.mem_cons_self)
  rw [all byte member] at letter
  cases letter

theorem normalize_digits (digitsOnly : isDigits digits = true) (long : 15 ≤ digits.length) :
    normalizePlatformUserId digits = ascii "steam_" ++ digits := by
  rcases all_isDigit digitsOnly with ⟨nonempty, all⟩
  have trimmed : Bytes.trimBoth Bytes.isSpace digits = digits :=
    Bytes.trimBoth_of_ends
      (fun byte first => isSpace_of_isDigit byte (all byte (List.mem_of_head? first)))
      (fun byte last => isSpace_of_isDigit byte (all byte (List.mem_of_getLast? last)))
  have steam := not_prefix_of_digits (ascii "steam_") rfl (by decide) all
  have gdk := not_prefix_of_digits (ascii "gdk_") rfl (by decide) all
  have ps5 := not_prefix_of_digits (ascii "ps5_") rfl (by decide) all
  have upper := not_prefix_of_digits (ascii "Steam:") rfl (by decide) all
  have lower := not_prefix_of_digits (ascii "steam:") rfl (by decide) all
  simp only [normalizePlatformUserId, trimmed, List.isEmpty_eq_false_iff.mpr nonempty, steam, gdk,
    ps5, upper, lower, digitsOnly, decide_eq_true long, Bool.or_self, Bool.false_and,
    Bool.and_self, Bool.false_eq_true, if_false, if_true]

/-- A label of six bytes in front of the digits is exchanged. -/
theorem normalize_labelled {text : Bytes} (letter : UInt8)
    (first : text.head? = some letter)
    (solid : Bytes.isSpace letter = false) (behind : text.drop 6 = digits)
    (passes : ((ascii "steam_").isPrefixOf text || (ascii "gdk_").isPrefixOf text ||
      (ascii "ps5_").isPrefixOf text) = false)
    (labelled : ((ascii "Steam:").isPrefixOf text || (ascii "steam:").isPrefixOf text) = true)
    (digitsOnly : isDigits digits = true) :
    normalizePlatformUserId text = ascii "steam_" ++ digits := by
  rcases all_isDigit digitsOnly with ⟨nonempty, all⟩
  have trimmed : Bytes.trimBoth Bytes.isSpace text = text := by
    apply Bytes.trimBoth_of_ends
    · intro byte isFirst
      rw [first, Option.some.injEq] at isFirst
      rw [← isFirst]
      exact solid
    · intro byte last
      rw [← List.take_append_drop 6 text, behind, List.getLast?_append_of_ne_nil _ nonempty] at last
      exact isSpace_of_isDigit byte (all byte (List.mem_of_getLast? last))
  have something : text.isEmpty = false := by
    cases text with
    | nil => cases first
    | cons head tail => rfl
  rw [normalizePlatformUserId, trimmed, something, passes, labelled, behind, digitsOnly]
  rfl

theorem oneSteamSpelling (digits : Bytes) : OneSteamSpelling digits := by
  intro digitsOnly long spelling member before after inFront behind
  rw [← normalizePlatformUserId_trim, Bytes.trimBoth_surrounded inFront behind,
    normalizePlatformUserId_trim]
  simp only [steamSpellings, List.mem_cons, List.not_mem_nil, or_false] at member
  rcases member with rfl | rfl | rfl | rfl
  · exact normalize_digits digitsOnly long
  · exact normalize_labelled 0x53 rfl (by decide) rfl rfl rfl digitsOnly
  · exact normalize_labelled 0x73 rfl (by decide) rfl rfl rfl digitsOnly
  · exact (platformAccount_steam digitsOnly).normalize

end Spellings

/-! ## Splitting -/

section Splitting

theorem find_underscore {platform : Bytes} (clean : 0x5F ∉ platform) (userId : Bytes) :
    Bytes.find (platform ++ ascii "_" ++ userId) (ascii "_") 0 = some platform.length := by
  have here : ascii "_" <+: (platform ++ ascii "_" ++ userId).drop platform.length := by
    rw [List.append_assoc, List.drop_left]
    exact List.prefix_append _ _
  have inside : platform.length ≤ (platform ++ ascii "_" ++ userId).length := by
    rw [List.append_assoc, List.length_append]
    omega
  cases found : Bytes.find (platform ++ ascii "_" ++ userId) (ascii "_") 0 with
  | none => exact absurd here (find_eq_none (Nat.zero_le _) found _ (Nat.zero_le _) inside)
  | some index =>
      rcases find_eq_some found with ⟨-, -, isPrefix, before⟩
      have atMost : index ≤ platform.length := by
        by_contra behind
        exact before platform.length (Nat.zero_le _) (by omega) here
      by_contra differs
      have inPlatform : index < platform.length := by
        rw [Option.some.injEq] at differs
        omega
      have member : (0x5F : UInt8) ∈ platform := by
        rcases isPrefix with ⟨rest, split⟩
        have byteHere : (platform ++ ascii "_" ++ userId)[index]? = some 0x5F := by
          rw [← List.head?_drop, ← split]
          rfl
        rw [List.append_assoc, List.getElem?_append_left inPlatform] at byteHere
        exact List.mem_of_getElem? byteHere
      exact clean member

theorem PlatformAccount.split {text platform userId : Bytes} (account : PlatformAccount text)
    (parts : splitPlatformUserId text = some (platform, userId)) :
    platform ∈ platformNames ∧ userId ≠ [] ∧ platform ++ ascii "_" ++ userId = text := by
  rcases account.named with ⟨name, member, rest, rfl⟩
  have clean : 0x5F ∉ name := by
    simp only [platformNames, List.mem_cons, List.not_mem_nil, or_false] at member
    rcases member with rfl | rfl | rfl <;> decide
  rw [splitPlatformUserId, find_underscore clean] at parts
  dsimp only at parts
  split at parts
  · cases parts
  · rename_i enough
    rw [not_or, Nat.not_le] at enough
    rw [List.append_assoc, List.take_left, ← List.drop_drop, List.drop_left, Option.some.injEq,
      Prod.mk.injEq] at parts
    rcases parts with ⟨rfl, rfl⟩
    refine ⟨member, ?_, rfl⟩
    intro empty
    have lengths := congrArg List.length empty
    rw [List.length_drop] at lengths
    simp only [List.length_append, List.length_nil] at lengths enough
    omega

end Splitting

theorem normalizesId (raw : Bytes) : NormalizesId raw where
  again := normalizePlatformUserId_again raw
  form := normalizePlatformUserId_cases raw
  split := by
    intro platform userId nonempty parts
    exact ((normalizePlatformUserId_cases raw).resolve_left nonempty).split parts

end PalCrosschat
