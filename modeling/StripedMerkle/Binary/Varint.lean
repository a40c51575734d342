import StripedMerkle.Error

/-!
# Big-endian fields and tagged varints

Binary proofs are read from the front of a byte list. Each reader returns the value and the
bytes after it, or the fault that stops the reading: too few bytes say how many are missing.

A varint is one byte below 251, or a tag byte `FB`, `FC` or `FD` followed by a big-endian
payload of 2, 4 or 8 bytes. The writer picks the shortest form; the reader accepts every form.
Tags `FE` and `FF` announce 128-bit and reserved integers, which are refused.
-/

namespace StripedMerkle
namespace Binary

/-- The `width` low bytes of `value`, most significant first. -/
def bigEndian : Nat → Nat → List UInt8
  | 0, _ => []
  | width + 1, value => bigEndian width (value / 256) ++ [(value % 256).toUInt8]

/-- The number a list of bytes spells, most significant first. -/
def ofBigEndian (bytes : List UInt8) : Nat :=
  bytes.foldl (fun value byte => value * 256 + byte.toNat) 0

@[simp] theorem length_bigEndian (width value : Nat) : (bigEndian width value).length = width := by
  induction width generalizing value with
  | zero => rfl
  | succ width ih => simp [bigEndian, ih]

/-- Whether `input` holds at least `count` bytes, looking at no more than `count` of them. -/
def hasAtLeast : Nat → List UInt8 → Bool
  | 0, _ => true
  | _ + 1, [] => false
  | count + 1, _ :: rest => hasAtLeast count rest

/-- The first `count` bytes and the rest, or the number of bytes missing. -/
def takeBytes (count : Nat) (input : List UInt8) :
    Except DecodeFault (List UInt8 × List UInt8) :=
  if hasAtLeast count input then
    .ok (input.take count, input.drop count)
  else
    .error (.unexpectedEnd (count - input.length))

namespace Varint

/-- The tag of a two-byte payload. -/
def tag16 : UInt8 := 0xFB
/-- The tag of a four-byte payload. -/
def tag32 : UInt8 := 0xFC
/-- The tag of an eight-byte payload. -/
def tag64 : UInt8 := 0xFD
/-- The tag announcing a sixteen-byte payload. -/
def tag128 : UInt8 := 0xFE

/-- The shortest varint of a value below `2 ^ 64`. -/
def encode (value : Nat) : List UInt8 :=
  if value < 251 then [value.toUInt8]
  else if value < Nat.pow 2 16 then tag16 :: bigEndian 2 value
  else if value < Nat.pow 2 32 then tag32 :: bigEndian 4 value
  else tag64 :: bigEndian 8 value

/-- The integer type a refused tag is reported against: one name when the input still holds
nine bytes, the longest varint, and one when it holds fewer. -/
structure Expected where
  /-- The name used when at least nine bytes remain. -/
  whole : IntegerWidth
  /-- The name used when fewer than nine bytes remain. -/
  short : IntegerWidth

/-- The payload reader of one varint whose tag byte is already taken. -/
def payload (expected : IntegerWidth) (tag : UInt8) (rest : List UInt8) :
    Except DecodeFault (Nat × List UInt8) :=
  let wide (width : Nat) := (takeBytes width rest).map fun (bytes, after) =>
    (ofBigEndian bytes, after)
  if tag < tag16 then .ok (tag.toNat, rest)
  else if tag = tag16 then wide 2
  else if tag = tag32 then wide 4
  else if tag = tag64 then wide 8
  else if tag = tag128 then .error (.invalidIntegerType expected .u128)
  else .error (.invalidIntegerType expected .reserved)

/-- Reads one varint from the front of `input`. -/
def decode (expected : Expected) (input : List UInt8) : Except DecodeFault (Nat × List UInt8) :=
  let name := if hasAtLeast 9 input then expected.whole else expected.short
  match input with
  | [] => .error (.unexpectedEnd 1)
  | tag :: rest => payload name tag rest

end Varint

end Binary
end StripedMerkle
