import StripedMerkle.Path.Basic
import StripedMerkle.Binary.Varint
import StripedMerkle.Geometry

/-!
# Binary form of a path

A path is written as its leaf and root, 32 bytes each, the number of partners as a varint, the
partners, and the index as a varint.

Reading checks, in this order: the leaf and the root are complete; the partner count, once
read, keeps the claimed size `72 + 32 * count` within 4096 bytes, before any partner is read;
the partners and the index are complete; no byte follows; at most eleven partners; an index
below the leaf count.
-/

namespace StripedMerkle
namespace Path

open Binary

/-- The bytes of a path. -/
def encode (path : Path) : List UInt8 :=
  path.leaf.toList ++ path.root.toList ++ Varint.encode path.nodes.length ++
    (path.nodes.map Digest.toList).flatten ++ Varint.encode path.index.toNat

/-- The most bytes a reader claims for one path. -/
def sizeLimit : Nat := 4096

/-- The bytes a path with `count` partners claims before its partners are read. -/
def claimedSize (count : Nat) : Nat := 72 + 32 * count

/-- The names a refused partner-count tag is reported against. -/
def countExpected : Varint.Expected := ⟨.u32, .u64⟩

/-- The names a refused index tag is reported against. -/
def indexExpected : Varint.Expected := ⟨.usize, .usize⟩

/-- Reads one digest from the front of `input`. -/
def takeDigest (input : List UInt8) : Except DecodeFault (Digest × List UInt8) := do
  let (bytes, rest) ← takeBytes 32 input
  match Digest.ofList? bytes with
  | some digest => pure (digest, rest)
  | none => throw (.unexpectedEnd 32)

/-- Reads `count` digests from the front of `input`. -/
def takeDigests : Nat → List UInt8 → Except DecodeFault (List Digest × List UInt8)
  | 0, input => pure ([], input)
  | count + 1, input => do
      let (first, rest) ← takeDigest input
      let (others, after) ← takeDigests count rest
      pure (first :: others, after)

/-- Reads a whole path and applies the checks on its shape. -/
def decode (input : List UInt8) : Except DecodeFault Path := do
  let (leaf, rest) ← takeDigest input
  let (root, rest) ← takeDigest rest
  let (count, rest) ← Varint.decode countExpected rest
  if sizeLimit < claimedSize count then throw .limitExceeded
  let (nodes, rest) ← takeDigests count rest
  let (index, rest) ← Varint.decode indexExpected rest
  if !rest.isEmpty then throw (.trailingBytes rest.length)
  if maxRounds < count then throw (.tooManySiblings count)
  if leafCount ≤ index then throw (.leafIndexOutOfRange index)
  pure ⟨leaf, root, nodes, index.toUInt64⟩

end Path
end StripedMerkle
