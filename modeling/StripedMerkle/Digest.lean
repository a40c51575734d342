import StripedMerkle.Text.Hex

/-!
# Digests

A digest is the 32-byte value of a hash. It is written as 64 lowercase hexadecimal digits and
read from 64 digits of either case.
-/

namespace StripedMerkle

/-- A 32-byte hash value. -/
structure Digest where
  /-- The bytes of the digest. -/
  bytes : Vector UInt8 32
  deriving DecidableEq, Repr

namespace Digest

/-- The digest of 32 zero bytes. -/
instance : Inhabited Digest :=
  ⟨⟨Vector.replicate 32 0⟩⟩

/-- The bytes of a digest as a list. -/
def toList (digest : Digest) : List UInt8 :=
  digest.bytes.toList

/-- The bytes of a digest as a byte array. -/
def toByteArray (digest : Digest) : ByteArray :=
  ⟨digest.bytes.toArray⟩

/-- The 64 lowercase hexadecimal digits of a digest. -/
def toHex (digest : Digest) : String :=
  Hex.encode digest.toList

/-- The digest with the given bytes, when there are exactly 32 of them. -/
def ofList? (bytes : List UInt8) : Option Digest :=
  if h : bytes.length = 32 then some ⟨⟨bytes.toArray, by simpa using h⟩⟩ else none

/-- The digest spelled by exactly 64 hexadecimal digits. -/
def ofHex? (text : String) : Except Hex.HexError Digest := do
  let bytes ← Hex.decodeExact 32 text
  match ofList? bytes with
  | some digest => pure digest
  | none => throw .wrongLength

@[simp] theorem length_toList (digest : Digest) : digest.toList.length = 32 := by
  simp [toList]

@[simp] theorem ofList?_toList (digest : Digest) : ofList? digest.toList = some digest := by
  obtain ⟨⟨array, size⟩⟩ := digest
  simp [ofList?, toList, size]

@[simp] theorem size_toByteArray (digest : Digest) : digest.toByteArray.size = 32 := by
  simp [toByteArray, ByteArray.size]

theorem toByteArray_injective {first second : Digest}
    (equal : first.toByteArray = second.toByteArray) : first = second := by
  obtain ⟨⟨array, size⟩⟩ := first
  obtain ⟨⟨array', size'⟩⟩ := second
  simp only [toByteArray, ByteArray.mk.injEq] at equal
  subst equal
  rfl

end Digest

end StripedMerkle
