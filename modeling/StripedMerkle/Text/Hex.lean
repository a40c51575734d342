import StripedMerkle.Text.Escape

/-!
# Hexadecimal text

Bytes are written as two lowercase hexadecimal digits each. Reading accepts either case and
reports the first fault: an odd number of digits, then (when a fixed byte count is wanted) the
wrong number of digits, then the first byte of the text that is no digit, with its position in
bytes.
-/

namespace StripedMerkle
namespace Hex

/-- Why a text is not the hexadecimal form of some bytes. -/
inductive HexError where
  /-- The text has an odd number of bytes. -/
  | oddLength
  /-- The text does not have the number of digits the reader expects. -/
  | wrongLength
  /-- The byte at `position` of the text is no hexadecimal digit. -/
  | invalidCharacter (byte : UInt8) (position : Nat)
  deriving DecidableEq, Repr

/-- The message of a reading fault. A faulty byte is shown as the character with that code
point, in single quotes. -/
def HexError.message : HexError → String
  | .oddLength => "Odd number of digits"
  | .wrongLength => "Invalid string length"
  | .invalidCharacter byte position =>
      "Invalid character " ++ Escape.char (Char.ofNat byte.toNat) ++ " at position " ++
        toString position

/-- The lowercase digit of a number below sixteen. -/
def digitChar (n : UInt8) : Char :=
  if n < 10 then Char.ofNat (48 + n.toNat) else Char.ofNat (87 + n.toNat)

/-- The value of a hexadecimal digit of either case. -/
def digitValue? (byte : UInt8) : Option UInt8 :=
  if 48 ≤ byte ∧ byte ≤ 57 then some (byte - 48)
  else if 97 ≤ byte ∧ byte ≤ 102 then some (byte - 87)
  else if 65 ≤ byte ∧ byte ≤ 70 then some (byte - 55)
  else none

/-- Two lowercase digits per byte. -/
def encodeChars : List UInt8 → List Char
  | [] => []
  | byte :: rest => digitChar (byte / 16) :: digitChar (byte % 16) :: encodeChars rest

/-- The hexadecimal text of some bytes. -/
def encode (bytes : List UInt8) : String :=
  String.ofList (encodeChars bytes)

/-- Reads digit pairs from the bytes of a text, `position` being the offset of the first. -/
def decodeDigits (position : Nat) : List UInt8 → Except HexError (List UInt8)
  | [] => .ok []
  | [byte] => .error (.invalidCharacter byte position)
  | high :: low :: rest =>
      match digitValue? high, digitValue? low with
      | none, _ => .error (.invalidCharacter high position)
      | some _, none => .error (.invalidCharacter low (position + 1))
      | some h, some l => (decodeDigits (position + 2) rest).map ((h * 16 + l) :: ·)

/-- Reads a hexadecimal text of any even length. -/
def decode (text : String) : Except HexError (List UInt8) :=
  let bytes := text.toUTF8.toList
  if bytes.length % 2 = 1 then .error .oddLength else decodeDigits 0 bytes

/-- Reads a hexadecimal text that must stand for exactly `count` bytes. -/
def decodeExact (count : Nat) (text : String) : Except HexError (List UInt8) :=
  let bytes := text.toUTF8.toList
  if bytes.length % 2 = 1 then .error .oddLength
  else if bytes.length ≠ 2 * count then .error .wrongLength
  else decodeDigits 0 bytes

example : encode [0x0a, 0xff] = "0aff" := by decide

end Hex
end StripedMerkle
