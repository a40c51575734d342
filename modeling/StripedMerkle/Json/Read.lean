import StripedMerkle.Json.Value
import StripedMerkle.Decimal.Stepwise

/-!
# Reading JSON text

The reader works on the UTF-8 bytes of a text and reports the first fault with the byte offset it
is found at, which `SyntaxError.message` turns into a line and a column.

Numbers are classed by their text: an integer without fraction or exponent is a natural or a
negative integer when it fits in 64 bits, and every other number, `-0` among them, is a double.
A double is computed from a 64-bit significand and a decimal exponent in double arithmetic
(`Decimal.ofParts`); digits past the 64-bit significand only move the exponent. A number too large
for a double is refused. Objects come out as maps: fields sorted by key, a repeated key keeping
its last value. Containers nest at most 127 deep.

A fault found at a byte that was already taken is reported at the offset after it; a fault found
by looking at the next byte without taking it is reported one byte further on, but never past the
end of the text.
-/

namespace StripedMerkle
namespace Json

/-- The kinds of syntax fault. -/
inductive SyntaxCode where
  | eofWhileParsingList
  | eofWhileParsingObject
  | eofWhileParsingString
  | eofWhileParsingValue
  | expectedColon
  | expectedListCommaOrEnd
  | expectedObjectCommaOrEnd
  | expectedSomeIdent
  | expectedSomeValue
  | invalidEscape
  | invalidNumber
  | numberOutOfRange
  | controlCharacterWhileParsingString
  | keyMustBeAString
  | loneLeadingSurrogateInHexEscape
  | trailingComma
  | trailingCharacters
  | unexpectedEndOfHexEscape
  | recursionLimitExceeded
  deriving DecidableEq, Repr

/-- The words of a syntax fault. -/
def SyntaxCode.text : SyntaxCode → String
  | .eofWhileParsingList => "EOF while parsing a list"
  | .eofWhileParsingObject => "EOF while parsing an object"
  | .eofWhileParsingString => "EOF while parsing a string"
  | .eofWhileParsingValue => "EOF while parsing a value"
  | .expectedColon => "expected `:`"
  | .expectedListCommaOrEnd => "expected `,` or `]`"
  | .expectedObjectCommaOrEnd => "expected `,` or `\x7d`"
  | .expectedSomeIdent => "expected ident"
  | .expectedSomeValue => "expected value"
  | .invalidEscape => "invalid escape"
  | .invalidNumber => "invalid number"
  | .numberOutOfRange => "number out of range"
  | .controlCharacterWhileParsingString =>
      "control character (\\u0000-\\u001F) found while parsing a string"
  | .keyMustBeAString => "key must be a string"
  | .loneLeadingSurrogateInHexEscape => "lone leading surrogate in hex escape"
  | .trailingComma => "trailing comma"
  | .trailingCharacters => "trailing characters"
  | .unexpectedEndOfHexEscape => "unexpected end of hex escape"
  | .recursionLimitExceeded => "recursion limit exceeded"

/-- A syntax fault and the byte offset it is reported at. -/
structure SyntaxError where
  /-- What is wrong. -/
  code : SyntaxCode
  /-- The byte offset the fault is reported at. -/
  offset : Nat
  deriving DecidableEq, Repr

/-- The line, counted from one, and the column, the bytes since the start of that line, of a byte
offset of a text. -/
def lineColumn (input : ByteArray) (offset : Nat) : Nat × Nat :=
  let before := (input.extract 0 offset).toList
  let lineStart := before.length - (before.reverse.takeWhile (· != 10)).length
  ((before.take lineStart).count 10 + 1, offset - lineStart)

/-- The message of a syntax fault of a text. -/
def SyntaxError.message (input : ByteArray) (error : SyntaxError) : String :=
  let (line, column) := lineColumn input error.offset
  error.code.text ++ " at line " ++ toString line ++ " column " ++ toString column

/-- A reading step: a value and the offset after it, or a fault. -/
abbrev Step (α : Type) := Except SyntaxError (α × Nat)

section Reading

variable (input : ByteArray)

/-- The byte at an offset, if the text has one there. -/
def byteAt? (offset : Nat) : Option UInt8 :=
  if h : offset < input.size then some input[offset] else none

/-- A fault found at the byte before `offset`, already taken. -/
def faultAt (code : SyntaxCode) (offset : Nat) : SyntaxError :=
  ⟨code, offset⟩

/-- A fault found by looking at the byte at `offset` without taking it. -/
def faultAhead (code : SyntaxCode) (offset : Nat) : SyntaxError :=
  ⟨code, min input.size (offset + 1)⟩

/-- Whether a byte is a blank between tokens. -/
def isBlankByte (byte : UInt8) : Bool :=
  byte = 32 || byte = 10 || byte = 9 || byte = 13

/-- Whether a byte is a decimal digit. -/
def isDigitByte (byte : UInt8) : Bool :=
  48 ≤ byte && byte ≤ 57

/-- The offset of the first byte from `offset` on that is not a blank. -/
def skipBlank (offset : Nat) : Nat :=
  if h : offset < input.size then
    if isBlankByte input[offset] then skipBlank (offset + 1) else offset
  else offset
termination_by input.size - offset

/-- The value of a hexadecimal digit. -/
def hexDigitValue? (byte : UInt8) : Option Nat :=
  if 48 ≤ byte ∧ byte ≤ 57 then some (byte.toNat - 48)
  else if 97 ≤ byte ∧ byte ≤ 102 then some (byte.toNat - 87)
  else if 65 ≤ byte ∧ byte ≤ 70 then some (byte.toNat - 55)
  else none

/-- Reads the four hexadecimal digits of an escape. -/
def readHexQuad (offset : Nat) : Step Nat :=
  if offset + 4 ≤ input.size then
    let digits := (List.range 4).map fun i => (byteAt? input (offset + i)).bind hexDigitValue?
    match digits.mapM id with
    | some values => .ok (values.foldl (fun acc v => 16 * acc + v) 0, offset + 4)
    | none => .error (faultAt .invalidEscape (offset + 4))
  else .error (faultAt .eofWhileParsingString input.size)

/-- The UTF-8 bytes of a code point. -/
def codePointBytes (code : Nat) : ByteArray :=
  (Char.ofNat code).toString.toUTF8

/-- Reads a `\u` escape after the `u`: a code point outside the surrogates, or a leading
surrogate followed by `\u` and a trailing one. -/
def readUnicodeEscape (offset : Nat) : Except SyntaxError (ByteArray × Nat) := do
  let (high, offset) ← readHexQuad input offset
  if 0xDC00 ≤ high ∧ high ≤ 0xDFFF then throw (faultAt .loneLeadingSurrogateInHexEscape offset)
  if high < 0xD800 ∨ 0xDBFF < high then return (codePointBytes high, offset)
  match byteAt? input offset with
  | none => throw (faultAt .eofWhileParsingString offset)
  | some byte => if byte != 92 then throw (faultAt .unexpectedEndOfHexEscape (offset + 1))
  match byteAt? input (offset + 1) with
  | none => throw (faultAt .eofWhileParsingString (offset + 1))
  | some byte => if byte != 117 then throw (faultAt .unexpectedEndOfHexEscape (offset + 2))
  let (low, offset) ← readHexQuad input (offset + 2)
  if low < 0xDC00 ∨ 0xDFFF < low then throw (faultAt .loneLeadingSurrogateInHexEscape offset)
  return (codePointBytes (0x10000 + (high - 0xD800) * 0x400 + (low - 0xDC00)), offset)

/-- Reads an escape after its backslash. -/
def readEscape (offset : Nat) : Step ByteArray :=
  match byteAt? input offset with
  | none => .error (faultAt .eofWhileParsingString offset)
  | some letter =>
      let one (byte : UInt8) : Step ByteArray := .ok (ByteArray.mk #[byte], offset + 1)
      if letter = 34 then one 34
      else if letter = 92 then one 92
      else if letter = 47 then one 47
      else if letter = 98 then one 8
      else if letter = 102 then one 12
      else if letter = 110 then one 10
      else if letter = 114 then one 13
      else if letter = 116 then one 9
      else if letter = 117 then readUnicodeEscape input (offset + 1)
      else .error (faultAt .invalidEscape (offset + 1))

/-- Reads the rest of a string after its opening quote, the bytes read so far being `read`. -/
def readStringFrom (read : ByteArray) (offset : Nat) : Step String :=
  if h : offset < input.size then
    let byte := input[offset]
    if byte = 34 then .ok ((String.fromUTF8? read).getD "", offset + 1)
    else if byte = 92 then
      match readEscape input (offset + 1) with
      | .ok (bytes, next) =>
          if offset < next then readStringFrom (read ++ bytes) next
          else .error (faultAt .invalidEscape next)
      | .error error => .error error
    else if byte < 32 then .error (faultAt .controlCharacterWhileParsingString (offset + 1))
    else readStringFrom (read.push byte) (offset + 1)
  else .error (faultAt .eofWhileParsingString input.size)
termination_by input.size - offset

/-- Whether `value * 10 + digit` is above `limit`. -/
def overflows (value digit limit : Nat) : Bool :=
  limit / 10 ≤ value && (limit / 10 < value || limit % 10 < digit)

/-- The largest 64-bit natural. -/
def maxNatural : Nat := Nat.pow 2 64 - 1

/-- The largest 32-bit signed integer, the largest exponent kept. -/
def maxExponent : Nat := Nat.pow 2 31 - 1

/-- The double of `±significand · 10 ^ exponent`, reported at `offset` when it is too large. -/
def doubleOf (negative : Bool) (significand : Nat) (exponent : Int) (offset : Nat) : Step Number :=
  match Decimal.ofParts negative significand.toUInt64 exponent with
  | some value => .ok (.double value, offset)
  | none => .error (faultAt .numberOutOfRange offset)

/-- Skips decimal digits. -/
def skipDigits (offset : Nat) : Nat :=
  if h : offset < input.size then
    if isDigitByte input[offset] then skipDigits (offset + 1) else offset
  else offset
termination_by input.size - offset

/-- The double once its exponent is read: the written exponent `value`, raised (`up`) or lowered
from the exponent `start` that the digits of the significand imply, kept within 32 bits. -/
def exponentDone (negative : Bool) (significand : Nat) (start : Int) (up : Bool) (value : Nat)
    (offset : Nat) : Step Number :=
  let exponent :=
    if up then min (maxExponent : Int) (start + value)
    else max (-(maxExponent : Int) - 1) (start - value)
  doubleOf negative significand exponent offset

/-- Reads the digits of an exponent after its first one, `value` so far. An exponent past 32 bits
makes the number zero if it lowers it or the significand is zero, and too large otherwise. -/
def exponentDigits (negative : Bool) (significand : Nat) (start : Int) (up : Bool) (value : Nat)
    (offset : Nat) : Step Number :=
  if h : offset < input.size then
    let byte := input[offset]
    if isDigitByte byte then
      let digit := byte.toNat - 48
      if overflows value digit maxExponent then
        if significand ≠ 0 ∧ up then .error (faultAt .numberOutOfRange (offset + 1))
        else .ok (.double (if negative then -0.0 else 0.0), skipDigits input (offset + 1))
      else exponentDigits negative significand start up (10 * value + digit) (offset + 1)
    else exponentDone negative significand start up value offset
  else exponentDone negative significand start up value offset
termination_by input.size - offset

/-- Reads an exponent from its letter at `offset`: an optional sign and at least one digit. -/
def readExponent (negative : Bool) (significand : Nat) (start : Int) (offset : Nat) :
    Step Number :=
  let (up, afterSign) := match byteAt? input (offset + 1) with
    | some 43 => (true, offset + 2)
    | some 45 => (false, offset + 2)
    | _ => (true, offset + 1)
  match byteAt? input afterSign with
  | none => .error (faultAt .eofWhileParsingValue afterSign)
  | some byte =>
      if isDigitByte byte then
        exponentDigits input negative significand start up (byte.toNat - 48) (afterSign + 1)
      else .error (faultAt .invalidNumber (afterSign + 1))

/-- The double after the digits of its significand: an exponent if one follows. -/
def afterSignificand (negative : Bool) (significand : Nat) (exponent : Int) (offset : Nat) :
    Step Number :=
  match byteAt? input offset with
  | some 101 | some 69 => readExponent input negative significand exponent offset
  | _ => doubleOf negative significand exponent offset

/-- The end of a fraction of `count` digits: at least one digit is needed. -/
def fractionEnd (negative : Bool) (significand : Nat) (before : Int) (count : Nat) (offset : Nat) :
    Step Number :=
  if count = 0 then
    match byteAt? input offset with
    | some _ => .error (faultAhead input .invalidNumber offset)
    | none => .error (faultAhead input .eofWhileParsingValue offset)
  else afterSignificand input negative significand (before - count) offset

/-- Reads the digits after a decimal point, `count` of them so far. Digits past a 64-bit
significand are skipped. -/
def fractionDigits (negative : Bool) (significand : Nat) (before : Int) (count : Nat)
    (offset : Nat) : Step Number :=
  if h : offset < input.size then
    let byte := input[offset]
    if isDigitByte byte then
      let digit := byte.toNat - 48
      if overflows significand digit maxNatural then
        afterSignificand input negative significand (before - count) (skipDigits input offset)
      else fractionDigits negative (10 * significand + digit) before (count + 1) (offset + 1)
    else fractionEnd input negative significand before count offset
  else fractionEnd input negative significand before count offset
termination_by input.size - offset

/-- Reads a fraction from its decimal point at `offset`. -/
def readFraction (negative : Bool) (significand : Nat) (before : Int) (offset : Nat) :
    Step Number :=
  fractionDigits input negative significand before 0 (offset + 1)

/-- Reads the integer digits past a 64-bit significand; each moves the exponent up by one. -/
def longInteger (negative : Bool) (significand : Nat) (extra : Nat) (offset : Nat) :
    Step Number :=
  if h : offset < input.size then
    let byte := input[offset]
    if isDigitByte byte then longInteger negative significand (extra + 1) (offset + 1)
    else if byte = 46 then readFraction input negative significand extra offset
    else if byte = 101 ∨ byte = 69 then readExponent input negative significand extra offset
    else doubleOf negative significand extra offset
  else doubleOf negative significand extra offset
termination_by input.size - offset

/-- The number after its integer digits: a fraction, an exponent, or an integer. A negative
integer is a double when it is zero or below `-2 ^ 63`. -/
def integerEnd (negative : Bool) (significand : Nat) (offset : Nat) : Step Number :=
  match byteAt? input offset with
  | some 46 => readFraction input negative significand 0 offset
  | some 101 | some 69 => readExponent input negative significand 0 offset
  | _ =>
      if !negative then .ok (.natural significand.toUInt64, offset)
      else if significand = 0 ∨ Nat.pow 2 63 < significand then
        .ok (.double (-significand.toUInt64.toFloat), offset)
      else .ok (.negative (-(significand : Int)).toInt64, offset)

/-- Reads the integer digits after the first, `significand` so far. -/
def integerDigits (negative : Bool) (significand : Nat) (offset : Nat) : Step Number :=
  if h : offset < input.size then
    let byte := input[offset]
    if isDigitByte byte then
      let digit := byte.toNat - 48
      if overflows significand digit maxNatural then longInteger input negative significand 0 offset
      else integerDigits negative (10 * significand + digit) (offset + 1)
    else integerEnd input negative significand offset
  else integerEnd input negative significand offset
termination_by input.size - offset

/-- Reads a number from its first digit, after any minus sign. A leading zero stands alone. -/
def readNumber (negative : Bool) (offset : Nat) : Step Number :=
  match byteAt? input offset with
  | none => .error (faultAt .eofWhileParsingValue offset)
  | some byte =>
      if byte = 48 then
        match byteAt? input (offset + 1) with
        | some next =>
            if isDigitByte next then .error (faultAhead input .invalidNumber (offset + 1))
            else integerEnd input negative 0 (offset + 1)
        | none => integerEnd input negative 0 (offset + 1)
      else if isDigitByte byte then integerDigits input negative (byte.toNat - 48) (offset + 1)
      else .error (faultAt .invalidNumber (offset + 1))

/-- Reads the rest of a literal word. -/
def readWord : List UInt8 → Nat → Except SyntaxError Nat
  | [], offset => .ok offset
  | expected :: rest, offset =>
      match byteAt? input offset with
      | none => .error (faultAt .eofWhileParsingValue offset)
      | some byte =>
          if byte = expected then readWord rest (offset + 1)
          else .error (faultAt .expectedSomeIdent (offset + 1))

mutual

/-- Reads one value after optional blanks; `depth` more containers may open. Every call spends
one unit of `fuel`, and the reader gives it more than the text has bytes. -/
def readValue : Nat → Nat → Nat → Step Value
  | 0, _, offset => .error (faultAt .recursionLimitExceeded offset)
  | fuel + 1, depth, offset =>
      let start := skipBlank input offset
      match byteAt? input start with
      | none => .error (faultAhead input .eofWhileParsingValue start)
      | some byte =>
          if byte = 110 then (readWord input [117, 108, 108] (start + 1)).map (.null, ·)
          else if byte = 116 then (readWord input [114, 117, 101] (start + 1)).map (.bool true, ·)
          else if byte = 102 then
            (readWord input [97, 108, 115, 101] (start + 1)).map (.bool false, ·)
          else if byte = 45 then
            (readNumber input true (start + 1)).map fun (n, next) => (.number n, next)
          else if isDigitByte byte then
            (readNumber input false start).map fun (n, next) => (.number n, next)
          else if byte = 34 then
            (readStringFrom input .empty (start + 1)).map fun (s, next) => (.string s, next)
          else if byte = 91 then
            if depth ≤ 1 then .error (faultAhead input .recursionLimitExceeded start)
            else (readItems fuel (depth - 1) true [] (start + 1)).map
              fun (items, next) => (.array items, next)
          else if byte = 123 then
            if depth ≤ 1 then .error (faultAhead input .recursionLimitExceeded start)
            else (readFields fuel (depth - 1) true [] (start + 1)).map
              fun (fields, next) => (.object (Value.sortedFields fields), next)
          else .error (faultAhead input .expectedSomeValue start)

/-- Reads the items of an array up to and with its closing bracket; `read` holds the items read
so far, last first. -/
def readItems : Nat → Nat → Bool → List Value → Nat → Step (List Value)
  | 0, _, _, _, offset => .error (faultAt .recursionLimitExceeded offset)
  | fuel + 1, depth, first, read, offset =>
      let next := skipBlank input offset
      match byteAt? input next with
      | none => .error (faultAhead input .eofWhileParsingList next)
      | some byte =>
          if byte = 93 then .ok (read.reverse, next + 1)
          else if first then
            match readValue fuel depth next with
            | .ok (item, after) => readItems fuel depth false (item :: read) after
            | .error error => .error error
          else if byte = 44 then
            let start := skipBlank input (next + 1)
            match byteAt? input start with
            | some 93 => .error (faultAhead input .trailingComma start)
            | some _ =>
                match readValue fuel depth start with
                | .ok (item, after) => readItems fuel depth false (item :: read) after
                | .error error => .error error
            | none => .error (faultAhead input .eofWhileParsingValue start)
          else .error (faultAhead input .expectedListCommaOrEnd next)

/-- Reads the fields of an object up to and with its closing brace; `read` holds the fields read
so far, last first. -/
def readFields : Nat → Nat → Bool → List (String × Value) → Nat → Step (List (String × Value))
  | 0, _, _, _, offset => .error (faultAt .recursionLimitExceeded offset)
  | fuel + 1, depth, first, read, offset =>
      let next := skipBlank input offset
      let key : Except SyntaxError (Option (UInt8 × Nat)) :=
        match byteAt? input next with
        | none => .error (faultAhead input .eofWhileParsingObject next)
        | some byte =>
            if byte = 125 then .ok none
            else if byte = 44 ∧ !first then
              let start := skipBlank input (next + 1)
              match byteAt? input start with
              | some b => .ok (some (b, start))
              | none => .error (faultAhead input .eofWhileParsingValue start)
            else if first then .ok (some (byte, next))
            else .error (faultAhead input .expectedObjectCommaOrEnd next)
      match key with
      | .error error => .error error
      | .ok none => .ok (read.reverse, next + 1)
      | .ok (some (byte, start)) =>
          if byte = 34 then
            match readStringFrom input .empty (start + 1) with
            | .error error => .error error
            | .ok (name, afterKey) =>
                let colon := skipBlank input afterKey
                match byteAt? input colon with
                | some 58 =>
                    match readValue fuel depth (colon + 1) with
                    | .ok (value, after) => readFields fuel depth false ((name, value) :: read) after
                    | .error error => .error error
                | some _ => .error (faultAhead input .expectedColon colon)
                | none => .error (faultAhead input .eofWhileParsingObject colon)
          else if byte = 125 then .error (faultAhead input .trailingComma start)
          else .error (faultAhead input .keyMustBeAString start)

end

end Reading

/-- Reads a whole text as one value, with nothing but blanks after it. -/
def Value.read (input : ByteArray) : Except SyntaxError Value := do
  let (value, offset) ← readValue input (2 * input.size + 2) 128 0
  let rest := skipBlank input offset
  if rest < input.size then throw (faultAhead input .trailingCharacters rest)
  pure value

end Json
end StripedMerkle
