import PalCrosschat.Foundation.Utf8

/-! # JSON texts

The grammar of RFC 8259 as a reader: a text is well formed exactly when it is
UTF-8 and `parse` finds a document in it. A number is kept as it is written and
the members of an object in the order they are written in. -/

namespace PalCrosschat

namespace JsonText

inductive Document
  | null
  | boolean (value : Bool)
  | number (written : Bytes)
  | string (text : Bytes)
  | array (elements : List Document)
  | object (members : List (Bytes × Document))

def isBlank (byte : UInt8) : Bool :=
  byte == 0x20 || byte == 0x09 || byte == 0x0A || byte == 0x0D

def skipBlanks (text : Bytes) : Bytes := text.dropWhile isBlank

/-! ## Strings -/

/-- A byte that stands for itself in a string: no quotation mark, no reverse
solidus and no control character. -/
def isUnescaped (byte : UInt8) : Bool := 0x20 ≤ byte && byte != 0x22 && byte != 0x5C

def escaped (letter : UInt8) : Option UInt8 :=
  [(0x22, 0x22), (0x5C, 0x5C), (0x2F, 0x2F), (0x62, 0x08), (0x66, 0x0C), (0x6E, 0x0A),
    (0x72, 0x0D), (0x74, 0x09)].lookup letter

def hexValue (digit : UInt8) : Option Nat :=
  if Bytes.isDigit digit then some (digit.toNat - 0x30)
  else if 0x41 ≤ digit && digit ≤ 0x46 then some (digit.toNat - 0x41 + 10)
  else if 0x61 ≤ digit && digit ≤ 0x66 then some (digit.toNat - 0x61 + 10)
  else none

/-- The UTF-16 code unit after `\u`. -/
def codeUnit (first second third fourth : UInt8) : Option Nat := do
  let first ← hexValue first
  let second ← hexValue second
  let third ← hexValue third
  let fourth ← hexValue fourth
  return ((first * 16 + second) * 16 + third) * 16 + fourth

def fromSurrogates (high low : Nat) : Option Char :=
  if 0xD800 ≤ high ∧ high < 0xDC00 ∧ 0xDC00 ≤ low ∧ low < 0xE000 then
    some (.ofNat (0x10000 + (high - 0xD800) * 0x400 + (low - 0xDC00)))
  else
    none

def fromUnit (unit : Nat) : Option Char :=
  if unit < 0xD800 ∨ 0xE000 ≤ unit then some (.ofNat unit) else none

def after (read : Bytes) (rest : Option (Bytes × Bytes)) : Option (Bytes × Bytes) :=
  rest.map fun (text, rest) => (read ++ text, rest)

/-- The text behind an opening quotation mark, and what is behind the closing
one. A surrogate on its own stands for no character. -/
def readString : Bytes → Option (Bytes × Bytes)
  | [] => none
  | byte :: rest =>
      if byte == 0x22 then
        some ([], rest)
      else if byte == 0x5C then
        match rest with
        | [] => none
        | letter :: rest =>
            if letter == 0x75 then
              match rest with
              | a :: b :: c :: d :: rest =>
                  match codeUnit a b c d with
                  | none => none
                  | some unit =>
                      match fromUnit unit with
                      | some char => after (String.utf8EncodeChar char) (readString rest)
                      | none =>
                          match rest with
                          | backslash :: u :: e :: f :: g :: h :: rest =>
                              match (codeUnit e f g h).bind (fromSurrogates unit) with
                              | some char =>
                                  if backslash == 0x5C && u == 0x75 then
                                    after (String.utf8EncodeChar char) (readString rest)
                                  else
                                    none
                              | none => none
                          | _ => none
              | _ => none
            else
              match escaped letter with
              | some byte => after [byte] (readString rest)
              | none => none
      else if isUnescaped byte then
        after [byte] (readString rest)
      else
        none

theorem after_eq_none_iff {read : Bytes} {rest : Option (Bytes × Bytes)} :
    after read rest = none ↔ rest = none := Option.map_eq_none_iff

theorem readString_close (rest : Bytes) : readString (0x22 :: rest) = some ([], rest) := by
  rw [readString.eq_def]
  rfl

theorem readString_unescaped {byte : UInt8} (plain : isUnescaped byte = true) (rest : Bytes) :
    readString (byte :: rest) = after [byte] (readString rest) := by
  have noQuote : (byte == 0x22) = false := by
    rw [beq_eq_false_iff_ne]
    rintro rfl
    exact absurd plain (by decide)
  have noBackslash : (byte == 0x5C) = false := by
    rw [beq_eq_false_iff_ne]
    rintro rfl
    exact absurd plain (by decide)
  rw [readString.eq_def]
  dsimp only
  rw [noQuote, noBackslash, plain]
  rfl

theorem readString_escaped {letter byte : UInt8} (stands : escaped letter = some byte)
    (rest : Bytes) :
    readString (0x5C :: letter :: rest) = after [byte] (readString rest) := by
  have noUnit : (letter == 0x75) = false := by
    rw [beq_eq_false_iff_ne]
    rintro rfl
    have none : escaped 0x75 = none := rfl
    exact absurd (none.symm.trans stands) nofun
  rw [readString.eq_def]
  dsimp only
  rw [noUnit, stands]
  rfl

theorem readString_control {byte : UInt8} (control : byte < 0x20) (rest : Bytes) :
    readString (byte :: rest) = none := by
  have others : ∀ byte : UInt8, byte < 0x20 →
      (byte == 0x22) = false ∧ (byte == 0x5C) = false ∧ isUnescaped byte = false := by
    apply Bytes.forall_byte
    decide +kernel
  rcases others byte control with ⟨noQuote, noBackslash, notPlain⟩
  rw [readString.eq_def]
  dsimp only
  rw [noQuote, noBackslash, notPlain]
  rfl

/-- Escapes and surrogates. -/
example :
    readString (Bytes.ascii "\\/\\u00e9\\ud83d\\ude00\"]") =
      some ([0x2F, 0xC3, 0xA9, 0xF0, 0x9F, 0x98, 0x80], Bytes.ascii "]") := by
  decide +kernel

/-! ## Numbers -/

def skipDigits (text : Bytes) : Option Bytes :=
  if text.head?.any Bytes.isDigit then some (text.dropWhile Bytes.isDigit) else none

/-- Behind a whole number, which starts with `0` only when it is `0`. -/
def skipWhole (text : Bytes) : Option Bytes :=
  if text.head? = some 0x30 then some text.tail else skipDigits text

def skipFraction (text : Bytes) : Option Bytes :=
  if text.head? = some 0x2E then skipDigits text.tail else some text

def skipExponent (text : Bytes) : Option Bytes :=
  if text.head? = some 0x65 ∨ text.head? = some 0x45 then
    let text := text.tail
    skipDigits (if text.head? = some 0x2B ∨ text.head? = some 0x2D then text.tail else text)
  else
    some text

def readNumber (text : Bytes) : Option (Document × Bytes) := do
  let whole ← skipWhole (if text.head? = some 0x2D then text.tail else text)
  let fraction ← skipFraction whole
  let rest ← skipExponent fraction
  return (.number (text.take (text.length - rest.length)), rest)

/-! ## Values -/

def readLiteral (literal : Bytes) (document : Document) (text : Bytes) :
    Option (Document × Bytes) :=
  if literal.isPrefixOf text then some (document, text.drop literal.length) else none

/-- A `null`, a boolean or a number. -/
def readScalar (text : Bytes) : Option (Document × Bytes) :=
  readLiteral (Bytes.ascii "null") .null text <|>
    readLiteral (Bytes.ascii "true") (.boolean true) text <|>
    readLiteral (Bytes.ascii "false") (.boolean false) text <|>
    readNumber text

mutual

def readValue : (fuel : Nat) → Bytes → Option (Document × Bytes)
  | 0, _ => none
  | _ + 1, [] => none
  | fuel + 1, byte :: rest =>
      if byte == 0x22 then
        (readString rest).map fun (text, rest) => (.string text, rest)
      else if byte == 0x5B then
        if (skipBlanks rest).head? = some 0x5D then
          some (.array [], (skipBlanks rest).tail)
        else
          (readElements fuel rest).map fun (elements, rest) => (.array elements, rest)
      else if byte == 0x7B then
        if (skipBlanks rest).head? = some 0x7D then
          some (.object [], (skipBlanks rest).tail)
        else
          (readMembers fuel rest).map fun (members, rest) => (.object members, rest)
      else
        readScalar (byte :: rest)

def readElements : (fuel : Nat) → Bytes → Option (List Document × Bytes)
  | 0, _ => none
  | fuel + 1, text => do
      let (element, rest) ← readValue fuel (skipBlanks text)
      match skipBlanks rest with
      | 0x5D :: rest => some ([element], rest)
      | 0x2C :: rest =>
          (readElements fuel rest).map fun (elements, rest) => (element :: elements, rest)
      | _ => none

def readMembers : (fuel : Nat) → Bytes → Option (List (Bytes × Document) × Bytes)
  | 0, _ => none
  | fuel + 1, text =>
      match skipBlanks text with
      | 0x22 :: text => do
          let (name, rest) ← readString text
          match skipBlanks rest with
          | 0x3A :: rest => do
              let (value, rest) ← readValue fuel (skipBlanks rest)
              match skipBlanks rest with
              | 0x7D :: rest => some ([(name, value)], rest)
              | 0x2C :: rest =>
                  (readMembers fuel rest).map fun (members, rest) =>
                    ((name, value) :: members, rest)
              | _ => none
          | _ => none
      | _ => none

end

/-- The document of a text. A value, an element and a member each take one byte
or more, so the length of the text is fuel enough. -/
def parse (text : Bytes) : Option Document :=
  match readValue (2 * text.length + 1) (skipBlanks text) with
  | some (document, rest) => if (skipBlanks rest).isEmpty then some document else none
  | none => none

/-- Numbers and nesting. -/
example :
    (parse (Bytes.ascii
      " [-1.5e+3 , 0, [],\x7b\"a\" :null, \"b\":\x7b\x7d \x7d ] ")).isSome = true ∧
      (parse (Bytes.ascii "[1,]")).isSome = false ∧
        (parse (Bytes.ascii "01")).isSome = false := by
  decide +kernel

/-! ## An object with one string -/

theorem readValue_string (fuel : Nat) (text : Bytes) :
    readValue (fuel + 1) (0x22 :: text) =
      (readString text).map fun (text, rest) => (.string text, rest) := by
  rw [readValue.eq_def]
  rfl

/-- A first member that is a string decides what its object is, or that there is none. -/
theorem readMembers_string {text name valueText : Bytes}
    (nameRead : readString text = some (name, 0x3A :: 0x22 :: valueText)) (fuel : Nat) :
    readMembers (fuel + 2) (0x22 :: text) =
      (readString valueText).bind fun (value, rest) =>
        match skipBlanks rest with
        | 0x7D :: rest => some ([(name, .string value)], rest)
        | 0x2C :: rest =>
            (readMembers (fuel + 1) rest).map fun (members, rest) =>
              ((name, .string value) :: members, rest)
        | _ => none := by
  have quote : skipBlanks (0x22 :: text) = 0x22 :: text := rfl
  have colon : skipBlanks (0x3A :: 0x22 :: valueText) = 0x3A :: 0x22 :: valueText := rfl
  have opening : skipBlanks (0x22 :: valueText) = 0x22 :: valueText := rfl
  rw [readMembers.eq_def]
  simp only [quote, nameRead, Option.bind_eq_bind, Option.bind_some, colon, opening,
    readValue_string, Option.bind_map]
  rfl

theorem parse_quoted (text : Bytes) :
    parse (0x7B :: 0x22 :: text) =
      (readMembers (2 * text.length + 4) (0x22 :: text)).bind fun (members, rest) =>
        if (skipBlanks rest).isEmpty then some (.object members) else none := by
  have brace : skipBlanks (0x7B :: 0x22 :: text) = 0x7B :: 0x22 :: text := rfl
  have whole (fuel : Nat) : readValue (fuel + 1) (0x7B :: 0x22 :: text) =
      (readMembers fuel (0x22 :: text)).map fun (members, rest) => (.object members, rest) := by
    rw [readValue.eq_def]
    rfl
  rw [parse, brace, whole]
  rw [show 2 * (0x7B :: 0x22 :: text).length = 2 * text.length + 4 from rfl]
  cases readMembers (2 * text.length + 4) (0x22 :: text) with
  | none => rfl
  | some members => rfl

section Member

variable {text name valueText : Bytes}
  (nameRead : readString text = some (name, 0x3A :: 0x22 :: valueText))
include nameRead

theorem parse_member {value : Bytes} (valueRead : readString valueText = some (value, [0x7D])) :
    parse (0x7B :: 0x22 :: text) = some (.object [(name, .string value)]) := by
  rw [parse_quoted, readMembers_string nameRead, valueRead]
  rfl

theorem parse_member_none (valueRead : readString valueText = none) :
    parse (0x7B :: 0x22 :: text) = none := by
  rw [parse_quoted, readMembers_string nameRead, valueRead]
  rfl

end Member

end JsonText

end PalCrosschat
