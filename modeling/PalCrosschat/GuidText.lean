import Mathlib.Data.List.Induction
import PalCrosschat.ChatCapture

/-! # Uids and their texts

`FormatGuid`, `FormatGuidKey` and `TryParseGuid` are written separately, in
three files. Here they meet: the two encoders agree, the decoder accepts the 32
digits of a uid that is not nil in any spelling, and takes back what the
encoders wrote. -/

namespace PalCrosschat

open Bytes (ascii)

/-- `FormatGuidKey` of `Audience.cpp`, with its shifts and masks. -/
def formatGuidKey (guid : Guid) : Bytes :=
  hexField 8 guid.a.toNat ++ ascii "-" ++
    hexField 4 ((guid.b >>> 16) &&& 0xFFFF).toNat ++ ascii "-" ++
    hexField 4 (guid.b &&& 0xFFFF).toNat ++ ascii "-" ++
    hexField 4 ((guid.c >>> 16) &&& 0xFFFF).toNat ++ ascii "-" ++
    hexField 4 (guid.c &&& 0xFFFF).toNat ++ hexField 8 guid.d.toNat

/-! ## What a uid text is -/

/-- The characters `TryParseGuid` skips: `-`, `{` and `}`. -/
def isGuidSeparator (byte : UInt8) : Bool :=
  byte == 0x2D || byte == 0x7B || byte == 0x7D

def isHexDigit (byte : UInt8) : Bool :=
  Bytes.isDigit byte || (0x61 ≤ byte && byte ≤ 0x66) || (0x41 ≤ byte && byte ≤ 0x46)

def upperCase (byte : UInt8) : UInt8 :=
  if 0x61 ≤ byte && byte ≤ 0x7A then byte - 0x20 else byte

def guidDigits (text : Bytes) : Bytes := text.filter fun byte => !isGuidSeparator byte

/-- Exactly 32 hexadecimal digits are left without the separators, and they are
not all zero. -/
structure IsGuidText (text : Bytes) : Prop where
  length : (guidDigits text).length = 32
  hexadecimal : ∀ digit ∈ guidDigits text, isHexDigit digit = true
  notNil : ∃ digit ∈ guidDigits text, digit ≠ 0x30

def canonicalGroups (digits : Bytes) : Bytes :=
  digits.take 8 ++ ascii "-" ++ (digits.drop 8).take 4 ++ ascii "-" ++
    (digits.drop 12).take 4 ++ ascii "-" ++ (digits.drop 16).take 4 ++ ascii "-" ++
    digits.drop 20

/-! ## Digits -/

theorem isSome_hexValue : ∀ byte : UInt8, (hexValue byte).isSome = isHexDigit byte := by
  apply Bytes.forall_byte
  decide +kernel

theorem hexValue_spec : ∀ byte : UInt8, (hexValue byte).all fun value =>
    value.toNat < 16 && hexDigit value.toNat == upperCase byte := by
  apply Bytes.forall_byte
  decide +kernel

theorem isGuidSeparator_of_isHexDigit :
    ∀ byte : UInt8, isHexDigit byte = true → isGuidSeparator byte = false := by
  apply Bytes.forall_byte
  decide +kernel

theorem upperCase_eq_zero_iff : ∀ byte : UInt8, upperCase byte = 0x30 ↔ byte = 0x30 := by
  apply Bytes.forall_byte
  decide +kernel

theorem isHexDigit_hexDigit : ∀ value < 16,
    isHexDigit (hexDigit value) = true ∧ upperCase (hexDigit value) = hexDigit value := by
  decide

def hexValues (digits : Bytes) : List UInt32 := digits.filterMap hexValue

/-- The number a row of digit values stands for, behind the digits of `start`. -/
def numeral (start : Nat) (values : List Nat) : Nat :=
  values.foldl (fun number value => 16 * number + value) start

theorem hexField_numeral (values : List Nat) (digits : ∀ value ∈ values, value < 16) :
    hexField values.length (numeral 0 values) = values.map hexDigit := by
  induction values using List.reverseRecOn with
  | nil => rfl
  | append_singleton front last induction =>
      have lastDigit := digits last (by simp)
      have frontField := induction fun value member => digits value (by simp [member])
      have split : numeral 0 (front ++ [last]) = 16 * numeral 0 front + last := by
        simp [numeral]
      have high : (16 * numeral 0 front + last) / 16 = numeral 0 front := by omega
      have low : (16 * numeral 0 front + last) % 16 = last := by omega
      rw [split, List.length_append, List.length_singleton, hexField, high, low, frontField,
        List.map_append, List.map_singleton]

theorem hexField_add (high low value : Nat) :
    hexField (high + low) value = hexField high (value / 16 ^ low) ++ hexField low value := by
  induction low generalizing value with
  | zero => simp [hexField]
  | succ low induction =>
      rw [← Nat.add_assoc, hexField, hexField, induction, Nat.div_div_eq_div_mul,
        Nat.pow_succ', List.append_assoc]

theorem hexField_mod (width value : Nat) :
    hexField width (value % 16 ^ width) = hexField width value := by
  induction width generalizing value with
  | zero => rfl
  | succ width induction =>
      have high : value % 16 ^ (width + 1) / 16 = value / 16 % 16 ^ width := by
        rw [Nat.pow_succ', Nat.mod_mul_right_div_self]
      have low : value % 16 ^ (width + 1) % 16 = value % 16 :=
        Nat.mod_mod_of_dvd _ ⟨16 ^ width, Nat.pow_succ'⟩
      rw [hexField, hexField, high, low, induction]

theorem isHexDigit_hexField (width value : Nat) :
    ∀ digit ∈ hexField width value, isHexDigit digit = true ∧ upperCase digit = digit := by
  induction width generalizing value with
  | zero => simp [hexField]
  | succ width induction =>
      intro digit member
      rcases List.mem_append.mp member with front | last
      · exact induction _ digit front
      · rw [List.mem_singleton.mp last]
        exact isHexDigit_hexDigit _ (Nat.mod_lt _ (by omega))

/-! ## Words -/

/-- `words[i] = (words[i] << 4) | value`, for the digits of one word. -/
def shiftWord (word : UInt32) (values : List UInt32) : UInt32 :=
  values.foldl (fun word value => word <<< 4 ||| value) word

theorem toNat_shiftIn {word value : UInt32} (room : word.toNat < 16 ^ 7)
    (digit : value.toNat < 16) :
    (word <<< 4 ||| value).toNat = 16 * word.toNat + value.toNat := by
  have shifted : (word <<< 4).toNat = word.toNat <<< 4 := by
    rw [UInt32.toNat_shiftLeft]
    change word.toNat <<< 4 % 2 ^ 32 = word.toNat <<< 4
    rw [Nat.shiftLeft_eq]
    omega
  rw [UInt32.toNat_or, shifted, ← Nat.shiftLeft_add_eq_or_of_lt (i := 4) digit, Nat.shiftLeft_eq]
  omega

theorem toNat_shiftWord (values : List UInt32) (digits : ∀ value ∈ values, value.toNat < 16) :
    ∀ {word : UInt32} {width : Nat}, word.toNat < 16 ^ width → width + values.length ≤ 8 →
      (shiftWord word values).toNat = numeral word.toNat (values.map UInt32.toNat) := by
  induction values with
  | nil => exact fun _ _ => rfl
  | cons value rest induction =>
      intro word width bound room
      rw [List.length_cons] at room
      have digit := digits value List.mem_cons_self
      have small : word.toNat < 16 ^ 7 :=
        Nat.lt_of_lt_of_le bound (Nat.pow_le_pow_right (by omega) (by omega))
      have next := toNat_shiftIn small digit
      have nextBound : (word <<< 4 ||| value).toNat < 16 ^ (width + 1) := by
        rw [next, Nat.pow_succ]
        omega
      have whole := induction (fun later member => digits later (List.mem_cons_of_mem _ member))
        nextBound (by omega)
      rw [next] at whole
      exact whole

section Digits

variable {digits : Bytes} (hexadecimal : ∀ digit ∈ digits, isHexDigit digit = true)
include hexadecimal

theorem hexValue_of_digit {digit : UInt8} (member : digit ∈ digits) :
    ∃ value, hexValue digit = some value ∧ value.toNat < 16 ∧
      hexDigit value.toNat = upperCase digit := by
  have isDigit := isSome_hexValue digit
  rw [hexadecimal digit member] at isDigit
  rcases Option.isSome_iff_exists.mp isDigit with ⟨value, found⟩
  have known := hexValue_spec digit
  rw [found] at known
  simp only [Option.all_some, Bool.and_eq_true, decide_eq_true_eq, beq_iff_eq] at known
  exact ⟨value, found, known⟩

theorem hexValues_cons {digit : UInt8} {rest : Bytes} (shape : digits = digit :: rest) :
    ∃ value, hexValue digit = some value ∧ value.toNat < 16 ∧
      hexDigit value.toNat = upperCase digit ∧ hexValues digits = value :: hexValues rest := by
  subst shape
  rcases hexValue_of_digit hexadecimal List.mem_cons_self with ⟨value, found, small, printed⟩
  exact ⟨value, found, small, printed, by simp [hexValues, found]⟩

end Digits

theorem hexValues_small (digits : Bytes) : ∀ value ∈ hexValues digits, value.toNat < 16 := by
  intro value member
  rcases List.mem_filterMap.mp member with ⟨digit, -, found⟩
  have known := hexValue_spec digit
  rw [found] at known
  simp only [Option.all_some, Bool.and_eq_true, decide_eq_true_eq] at known
  exact known.1

theorem map_hexDigit_hexValues {digits : Bytes}
    (hexadecimal : ∀ digit ∈ digits, isHexDigit digit = true) :
    (hexValues digits).map (fun value => hexDigit value.toNat) = digits.map upperCase := by
  induction digits with
  | nil => rfl
  | cons digit rest induction =>
      rcases hexValues_cons hexadecimal rfl with ⟨value, -, -, printed, values⟩
      rw [values, List.map_cons, List.map_cons, printed,
        induction fun later member => hexadecimal later (List.mem_cons_of_mem _ member)]

theorem hexField_shiftWord {digits : Bytes} (eight : digits.length = 8)
    (hexadecimal : ∀ digit ∈ digits, isHexDigit digit = true) :
    hexField 8 (shiftWord 0 (hexValues digits)).toNat = digits.map upperCase := by
  have printed := map_hexDigit_hexValues hexadecimal
  have count : (hexValues digits).length = 8 := by
    have lengths := congrArg List.length printed
    rwa [List.length_map, List.length_map, eight] at lengths
  have word := toNat_shiftWord (hexValues digits) (hexValues_small digits)
    (show (0 : UInt32).toNat < 16 ^ 0 by decide) (by omega)
  have field := hexField_numeral ((hexValues digits).map UInt32.toNat) (by
    intro value member
    rcases List.mem_map.mp member with ⟨word, inDigits, rfl⟩
    exact hexValues_small digits word inDigits)
  rw [List.length_map, count, List.map_map] at field
  rw [word]
  exact field.trans printed

/-! ## The decoder -/

theorem parseGuidLoop_guidDigits (text : Bytes) (words : Guid) (count : Nat) :
    parseGuidLoop text words count = parseGuidLoop (guidDigits text) words count := by
  induction text generalizing words count with
  | nil => rfl
  | cons byte rest induction =>
      cases separator : isGuidSeparator byte with
      | true =>
          have skipped : guidDigits (byte :: rest) = guidDigits rest := by
            simp [guidDigits, separator]
          have here : (byte == 0x2D || byte == 0x7B || byte == 0x7D) = true := separator
          rw [skipped, parseGuidLoop, if_pos here]
          exact induction words count
      | false =>
          have kept : guidDigits (byte :: rest) = byte :: guidDigits rest := by
            simp [guidDigits, separator]
          have here : (byte == 0x2D || byte == 0x7B || byte == 0x7D) = false := separator
          rw [kept, parseGuidLoop, parseGuidLoop, here]
          simp only [Bool.false_eq_true, if_false]
          cases hexValue byte with
          | none => rfl
          | some value =>
              dsimp only
              split
              · rfl
              · exact induction _ _

theorem isGuidSeparator_guidDigits {text : Bytes} {byte : UInt8}
    (member : byte ∈ guidDigits text) : isGuidSeparator byte = false := by
  simpa using (List.mem_filter.mp member).2

/-- One digit of a text without separators. -/
theorem parseGuidLoop_digit {byte : UInt8} {value : UInt32} (rest : Bytes) (words : Guid)
    {count : Nat} (digit : isHexDigit byte = true) (found : hexValue byte = some value)
    (room : count < 32) :
    parseGuidLoop (byte :: rest) words count =
      parseGuidLoop rest (words.shiftIn (count / 8) value) (count + 1) := by
  have here : (byte == 0x2D || byte == 0x7B || byte == 0x7D) = false :=
    isGuidSeparator_of_isHexDigit byte digit
  rw [parseGuidLoop, here, found]
  simp only [Bool.false_eq_true, if_false, if_neg (Nat.not_le.mpr room)]

/-- The digits of one word go into this word. -/
theorem parseGuidLoop_block (index : Nat) (inside : index < 4) (block : Bytes)
    (hexadecimal : ∀ digit ∈ block, isHexDigit digit = true) (rest : Bytes) :
    ∀ (words : Guid) (count : Nat), 8 * index ≤ count → count + block.length ≤ 8 * index + 8 →
      parseGuidLoop (block ++ rest) words count =
        parseGuidLoop rest
          ((hexValues block).foldl (fun words value => words.shiftIn index value) words)
          (count + block.length) := by
  induction block with
  | nil => exact fun _ _ _ _ => rfl
  | cons digit block induction =>
      intro words count lower upper
      rw [List.length_cons] at upper
      rcases hexValues_cons hexadecimal rfl with ⟨value, found, -, -, values⟩
      have word : count / 8 = index := by omega
      rw [List.cons_append, parseGuidLoop_digit (block ++ rest) words
          (hexadecimal digit List.mem_cons_self) found (by omega), word,
        induction (fun later member => hexadecimal later (List.mem_cons_of_mem _ member)) _ _
          (by omega) (by omega),
        values, List.foldl_cons, List.length_cons]
      congr 1
      omega

def Guid.changeWord (guid : Guid) (index : Nat) (change : UInt32 → UInt32) : Guid :=
  match index with
  | 0 => { guid with a := change guid.a }
  | 1 => { guid with b := change guid.b }
  | 2 => { guid with c := change guid.c }
  | _ => { guid with d := change guid.d }

theorem shiftIn_eq (words : Guid) (index : Nat) (value : UInt32) :
    words.shiftIn index value = words.changeWord index fun word => word <<< 4 ||| value := by
  rcases index with _ | _ | _ | index <;> rfl

theorem changeWord_changeWord (words : Guid) (index : Nat) (first second : UInt32 → UInt32) :
    (words.changeWord index first).changeWord index second =
      words.changeWord index fun word => second (first word) := by
  rcases index with _ | _ | _ | index <;> rfl

theorem foldl_shiftIn (index : Nat) (values : List UInt32) (words : Guid) :
    values.foldl (fun words value => words.shiftIn index value) words =
      words.changeWord index fun word => shiftWord word values := by
  induction values generalizing words with
  | nil => rcases index with _ | _ | _ | index <;> rfl
  | cons value rest induction =>
      rw [List.foldl_cons, induction, shiftIn_eq, changeWord_changeWord]
      rfl

def guidOfDigits (digits : Bytes) : Guid where
  a := shiftWord 0 (hexValues (digits.take 8))
  b := shiftWord 0 (hexValues ((digits.drop 8).take 8))
  c := shiftWord 0 (hexValues ((digits.drop 16).take 8))
  d := shiftWord 0 (hexValues (digits.drop 24))

theorem parseGuidLoop_of_digits {digits : Bytes} (count : digits.length = 32)
    (hexadecimal : ∀ digit ∈ digits, isHexDigit digit = true) :
    parseGuidLoop digits .nil 0 = some (guidOfDigits digits, 32) := by
  have blocks : digits = digits.take 8 ++ ((digits.drop 8).take 8 ++
      ((digits.drop 16).take 8 ++ (digits.drop 24 ++ []))) := by
    rw [List.append_nil, show digits.drop 24 = (digits.drop 16).drop 8 by rw [List.drop_drop],
      List.take_append_drop, show digits.drop 16 = (digits.drop 8).drop 8 by rw [List.drop_drop],
      List.take_append_drop, List.take_append_drop]
  have inFirst : ∀ digit ∈ digits.take 8, isHexDigit digit = true :=
    fun digit member => hexadecimal digit (List.mem_of_mem_take member)
  have inSecond : ∀ digit ∈ (digits.drop 8).take 8, isHexDigit digit = true :=
    fun digit member =>
      hexadecimal digit (List.mem_of_mem_drop (List.mem_of_mem_take member))
  have inThird : ∀ digit ∈ (digits.drop 16).take 8, isHexDigit digit = true :=
    fun digit member =>
      hexadecimal digit (List.mem_of_mem_drop (List.mem_of_mem_take member))
  have inFourth : ∀ digit ∈ digits.drop 24, isHexDigit digit = true :=
    fun digit member => hexadecimal digit (List.mem_of_mem_drop member)
  have firstLength : (digits.take 8).length = 8 := by simp [count]
  have secondLength : ((digits.drop 8).take 8).length = 8 := by simp [count]
  have thirdLength : ((digits.drop 16).take 8).length = 8 := by simp [count]
  have fourthLength : (digits.drop 24).length = 8 := by simp [count]
  conv => lhs; rw [blocks]
  rw [parseGuidLoop_block 0 (by omega) _ inFirst _ _ _ (by omega) (by omega),
    parseGuidLoop_block 1 (by omega) _ inSecond _ _ _ (by omega) (by omega),
    parseGuidLoop_block 2 (by omega) _ inThird _ _ _ (by omega) (by omega),
    parseGuidLoop_block 3 (by omega) _ inFourth _ _ _ (by omega) (by omega),
    firstLength, secondLength, thirdLength, fourthLength]
  simp only [foldl_shiftIn]
  rfl

/-- What the loop has read when it reaches the end. -/
theorem parseGuidLoop_some {digits : Bytes}
    (plain : ∀ digit ∈ digits, isGuidSeparator digit = false) :
    ∀ {words : Guid} {count : Nat} {result : Guid × Nat},
      parseGuidLoop digits words count = some result →
        (∀ digit ∈ digits, isHexDigit digit = true) ∧ result.2 = count + digits.length := by
  induction digits with
  | nil =>
      intro words count result parsed
      cases parsed
      exact ⟨by simp, rfl⟩
  | cons digit rest induction =>
      intro words count result parsed
      have here : (digit == 0x2D || digit == 0x7B || digit == 0x7D) = false :=
        plain digit List.mem_cons_self
      rw [parseGuidLoop, here] at parsed
      have isDigit := isSome_hexValue digit
      cases found : hexValue digit with
      | none => simp [found] at parsed
      | some value =>
          rw [found] at parsed isDigit
          simp only [Bool.false_eq_true, if_false] at parsed
          split at parsed
          · cases parsed
          · rcases induction (fun later member => plain later (List.mem_cons_of_mem _ member))
              parsed with ⟨hexadecimal, read⟩
            refine ⟨?_, by rw [read, List.length_cons]; omega⟩
            intro later member
            rcases List.mem_cons.mp member with rfl | behind
            · exact isDigit.symm
            · exact hexadecimal later behind

/-- The decoder on a text with 32 digits. -/
theorem tryParseGuid_of_digits {text : Bytes} (count : (guidDigits text).length = 32)
    (hexadecimal : ∀ digit ∈ guidDigits text, isHexDigit digit = true) :
    tryParseGuid text =
      if guidOfDigits (guidDigits text) = .nil then none
      else some (guidOfDigits (guidDigits text)) := by
  unfold tryParseGuid
  rw [parseGuidLoop_guidDigits, parseGuidLoop_of_digits count hexadecimal]
  simp

theorem digits_of_tryParseGuid {text : Bytes} {guid : Guid}
    (parsed : tryParseGuid text = some guid) :
    (guidDigits text).length = 32 ∧
      ∀ digit ∈ guidDigits text, isHexDigit digit = true := by
  unfold tryParseGuid at parsed
  rw [parseGuidLoop_guidDigits] at parsed
  cases loop : parseGuidLoop (guidDigits text) .nil 0 with
  | none =>
      rw [loop] at parsed
      cases parsed
  | some result =>
      rcases parseGuidLoop_some (fun _ member => isGuidSeparator_guidDigits member) loop with
        ⟨hexadecimal, read⟩
      refine ⟨?_, hexadecimal⟩
      by_contra short
      have notFull : result.2 ≠ 32 := by omega
      simp [loop, notFull] at parsed

/-! ## The encoders -/

def guidHex (guid : Guid) : Bytes :=
  hexField 8 guid.a.toNat ++ (hexField 8 guid.b.toNat ++
    (hexField 8 guid.c.toNat ++ hexField 8 guid.d.toNat))

theorem hexField_halves (word : UInt32) :
    hexField 8 word.toNat =
      hexField 4 (word.toNat / 2 ^ 16) ++ hexField 4 (word.toNat % 2 ^ 16) := by
  rw [show (2 : Nat) ^ 16 = 16 ^ 4 by rfl, hexField_mod, ← hexField_add]

theorem formatGuid_eq_groups (guid : Guid) :
    formatGuid guid = canonicalGroups (guidHex guid) := by
  have fields : guidHex guid = hexField 8 guid.a.toNat ++
      (hexField 4 (guid.b.toNat / 2 ^ 16) ++ (hexField 4 (guid.b.toNat % 2 ^ 16) ++
        (hexField 4 (guid.c.toNat / 2 ^ 16) ++ (hexField 4 (guid.c.toNat % 2 ^ 16) ++
          hexField 8 guid.d.toNat)))) := by
    simp only [guidHex, hexField_halves guid.b, hexField_halves guid.c, List.append_assoc]
  rw [fields]
  simp [canonicalGroups, formatGuid, hexField_length, List.drop_append, List.drop_eq_nil_of_le]

theorem guidHex_length (guid : Guid) : (guidHex guid).length = 32 := by
  simp [guidHex, hexField_length]

theorem mem_guidHex {guid : Guid} {digit : UInt8} (member : digit ∈ guidHex guid) :
    isHexDigit digit = true ∧ upperCase digit = digit := by
  simp only [guidHex, List.mem_append] at member
  rcases member with inA | inB | inC | inD
  · exact isHexDigit_hexField _ _ digit inA
  · exact isHexDigit_hexField _ _ digit inB
  · exact isHexDigit_hexField _ _ digit inC
  · exact isHexDigit_hexField _ _ digit inD

theorem guidDigits_canonicalGroups {digits : Bytes}
    (hexadecimal : ∀ digit ∈ digits, isHexDigit digit = true) :
    guidDigits (canonicalGroups digits) = digits := by
  have kept : ∀ part : Bytes, (∀ digit ∈ part, digit ∈ digits) → guidDigits part = part := by
    intro part inDigits
    apply List.filter_eq_self.mpr
    intro digit member
    rw [isGuidSeparator_of_isHexDigit digit (hexadecimal digit (inDigits digit member))]
    rfl
  have dash : guidDigits (ascii "-") = [] := by decide
  have piece : ∀ low count : Nat, guidDigits ((digits.drop low).take count) =
      (digits.drop low).take count :=
    fun low count => kept _ fun digit member =>
      List.mem_of_mem_drop (List.mem_of_mem_take member)
  have first := piece 0 8
  rw [List.drop_zero] at first
  have last := kept (digits.drop 20) fun digit member => List.mem_of_mem_drop member
  have joined : ∀ left right : Bytes, guidDigits (left ++ right) =
      guidDigits left ++ guidDigits right := fun left right => List.filter_append left right
  rw [canonicalGroups]
  simp only [joined, dash, first, last, piece, List.nil_append, List.append_assoc]
  rw [show digits.drop 20 = (digits.drop 16).drop 4 by rw [List.drop_drop],
    List.take_append_drop, show digits.drop 16 = (digits.drop 12).drop 4 by rw [List.drop_drop],
    List.take_append_drop, show digits.drop 12 = (digits.drop 8).drop 4 by rw [List.drop_drop],
    List.take_append_drop, List.take_append_drop]

theorem guidDigits_formatGuid (guid : Guid) : guidDigits (formatGuid guid) = guidHex guid := by
  rw [formatGuid_eq_groups]
  exact guidDigits_canonicalGroups fun digit member => (mem_guidHex member).1

theorem formatGuidKey_eq (guid : Guid) : formatGuidKey guid = formatGuid guid := by
  have high : ∀ word : UInt32, ((word >>> 16) &&& 0xFFFF).toNat = word.toNat / 2 ^ 16 := by
    intro word
    have bound := word.toNat_lt
    rw [UInt32.toNat_and, UInt32.toNat_shiftRight]
    change word.toNat >>> 16 &&& 2 ^ 16 - 1 = word.toNat / 2 ^ 16
    rw [Nat.and_two_pow_sub_one_eq_mod, Nat.shiftRight_eq_div_pow]
    omega
  have low : ∀ word : UInt32, (word &&& 0xFFFF).toNat = word.toNat % 2 ^ 16 := by
    intro word
    rw [UInt32.toNat_and]
    exact Nat.and_two_pow_sub_one_eq_mod word.toNat 16
  simp only [formatGuidKey, formatGuid, high, low]

/-! ## Round trips -/

theorem guidHex_guidOfDigits {digits : Bytes} (count : digits.length = 32)
    (hexadecimal : ∀ digit ∈ digits, isHexDigit digit = true) :
    guidHex (guidOfDigits digits) = digits.map upperCase := by
  have inFirst := hexField_shiftWord (show (digits.take 8).length = 8 by simp [count])
    fun digit member => hexadecimal digit (List.mem_of_mem_take member)
  have inSecond := hexField_shiftWord (show ((digits.drop 8).take 8).length = 8 by simp [count])
    fun digit member => hexadecimal digit (List.mem_of_mem_drop (List.mem_of_mem_take member))
  have inThird := hexField_shiftWord (show ((digits.drop 16).take 8).length = 8 by simp [count])
    fun digit member => hexadecimal digit (List.mem_of_mem_drop (List.mem_of_mem_take member))
  have inFourth := hexField_shiftWord (show (digits.drop 24).length = 8 by simp [count])
    fun digit member => hexadecimal digit (List.mem_of_mem_drop member)
  simp only [guidHex, guidOfDigits, inFirst, inSecond, inThird, inFourth, ← List.map_append]
  rw [show digits.drop 24 = (digits.drop 16).drop 8 by rw [List.drop_drop],
    List.take_append_drop, show digits.drop 16 = (digits.drop 8).drop 8 by rw [List.drop_drop],
    List.take_append_drop, List.take_append_drop]

theorem guidHex_injective : Function.Injective guidHex := by
  intro left right equal
  apply formatGuid_injective
  rw [formatGuid_eq_groups, formatGuid_eq_groups, equal]

theorem guidOfDigits_eq_nil_iff {digits : Bytes} (count : digits.length = 32)
    (hexadecimal : ∀ digit ∈ digits, isHexDigit digit = true) :
    guidOfDigits digits = .nil ↔ ∀ digit ∈ digits, digit = 0x30 := by
  have zeros : guidHex .nil = List.replicate 32 0x30 := by decide
  rw [← guidHex_injective.eq_iff, guidHex_guidOfDigits count hexadecimal, zeros,
    List.eq_replicate_iff, List.length_map]
  constructor
  · intro same digit member
    exact (upperCase_eq_zero_iff digit).mp (same.2 _ (List.mem_map_of_mem member))
  · intro allZero
    refine ⟨count, fun shown member => ?_⟩
    rcases List.mem_map.mp member with ⟨digit, inDigits, rfl⟩
    exact (upperCase_eq_zero_iff digit).mpr (allZero digit inDigits)

theorem isSome_tryParseGuid_iff (text : Bytes) :
    (tryParseGuid text).isSome = true ↔ IsGuidText text := by
  constructor
  · intro accepted
    rcases Option.isSome_iff_exists.mp accepted with ⟨guid, parsed⟩
    have shape := digits_of_tryParseGuid parsed
    refine ⟨shape.1, shape.2, ?_⟩
    rw [tryParseGuid_of_digits shape.1 shape.2] at accepted
    split at accepted
    · cases accepted
    · rename_i notNil
      rw [guidOfDigits_eq_nil_iff shape.1 shape.2] at notNil
      push Not at notNil
      exact notNil
  · intro isText
    have notNil : guidOfDigits (guidDigits text) ≠ .nil := by
      rw [Ne, guidOfDigits_eq_nil_iff isText.length isText.hexadecimal]
      rcases isText.notNil with ⟨digit, member, notZero⟩
      exact fun allZero => notZero (allZero digit member)
    rw [tryParseGuid_of_digits isText.length isText.hexadecimal, if_neg notNil]
    rfl

theorem formatGuid_of_tryParseGuid {text : Bytes} {guid : Guid}
    (parsed : tryParseGuid text = some guid) :
    formatGuid guid = canonicalGroups ((guidDigits text).map upperCase) := by
  have isText := (isSome_tryParseGuid_iff text).mp (by rw [parsed]; rfl)
  rw [tryParseGuid_of_digits isText.length isText.hexadecimal] at parsed
  split at parsed
  · cases parsed
  · cases parsed
    rw [formatGuid_eq_groups, guidHex_guidOfDigits isText.length isText.hexadecimal]

theorem tryParseGuid_formatGuid {guid : Guid} (notNil : guid ≠ .nil) :
    tryParseGuid (formatGuid guid) = some guid := by
  have length := guidHex_length guid
  have hexadecimal : ∀ digit ∈ guidHex guid, isHexDigit digit = true :=
    fun digit member => (mem_guidHex member).1
  have upper : (guidHex guid).map upperCase = guidHex guid := by
    conv => rhs; rw [← List.map_id (guidHex guid)]
    exact List.map_congr_left fun digit member => (mem_guidHex member).2
  have same : guidOfDigits (guidHex guid) = guid := by
    apply guidHex_injective
    rw [guidHex_guidOfDigits length hexadecimal, upper]
  have digits := guidDigits_formatGuid guid
  rw [← digits] at length hexadecimal same
  rw [tryParseGuid_of_digits length hexadecimal, same, if_neg notNil]

theorem formatGuid_ne_nil (guid : Guid) : formatGuid guid ≠ [] := by
  intro isEmpty
  have length := formatGuid_length guid
  rw [isEmpty] at length
  cases length

/-- The `sender_id` of a line determines the uid, the nil uid included. -/
theorem senderUid_of_senderId_eq {left right : HookContext}
    (equal : left.senderId = right.senderId) : left.senderUid = right.senderUid := by
  unfold HookContext.senderId at equal
  split at equal
  · rename_i leftNil
    split at equal
    · rename_i rightNil
      rw [leftNil, rightNil]
    · exact absurd equal.symm (formatGuid_ne_nil _)
  · split at equal
    · exact absurd equal (formatGuid_ne_nil _)
    · exact formatGuid_injective equal

/-- The text of a uid round trips, the decoder accepts the texts of uids and
nothing else, and every text key made of a uid determines the uid. -/
theorem guidText_roundTrip :
    (∀ guid : Guid, guid ≠ .nil → tryParseGuid (formatGuid guid) = some guid) ∧
    (∀ guid : Guid, formatGuidKey guid = formatGuid guid) ∧
    (∀ text : Bytes, (tryParseGuid text).isSome = true ↔ IsGuidText text) ∧
    (∀ (text : Bytes) (guid : Guid), tryParseGuid text = some guid →
      formatGuid guid = canonicalGroups ((guidDigits text).map upperCase)) ∧
    Function.Injective formatGuid ∧ Function.Injective formatGuidKey ∧
    (∀ left right : HookContext, left.senderId = right.senderId →
      left.senderUid = right.senderUid) := by
  refine ⟨fun guid => tryParseGuid_formatGuid, formatGuidKey_eq, isSome_tryParseGuid_iff,
    fun text guid => formatGuid_of_tryParseGuid, formatGuid_injective, ?_,
    fun left right => senderUid_of_senderId_eq⟩
  intro left right equal
  rw [formatGuidKey_eq, formatGuidKey_eq] at equal
  exact formatGuid_injective equal

theorem guidText_roundTrip_braces :
    formatGuid ⟨0xABC, 0x10002, 3, 4⟩ = canonicalGroups
      ((guidDigits (ascii "\x7b00000abc000100020000000300000004\x7d")).map upperCase) :=
  guidText_roundTrip.2.2.2.1 _ _ (by decide)

end PalCrosschat
