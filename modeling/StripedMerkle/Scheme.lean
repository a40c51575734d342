import StripedMerkle.Blake3.Hash

/-!
# Hash schemes

A scheme is a hash function on byte strings. Leaves and parents hash under different one-byte
tags, so that the digest of a leaf is never the digest of a parent built from the same bytes:
a leaf fed `content` has digest `hash (0x00 ‖ content)`, a parent of `left` and `right` has
digest `hash (0x01 ‖ left ‖ right)`.

Everything above the hash (folding, paths, trees) is stated for any scheme; `Scheme.blake3` is
the one the library runs with.
-/

namespace StripedMerkle

/-- A hash function on byte strings with 32-byte digests. -/
structure Scheme where
  /-- The digest of a byte string. -/
  hash : ByteArray → Digest

namespace Scheme

/-- The tag in front of the content of a leaf. -/
def leafTag : UInt8 := 0x00

/-- The tag in front of the two children of a parent. -/
def nodeTag : UInt8 := 0x01

/-- The digest of a leaf that has been fed `content`. -/
def leaf (scheme : Scheme) (content : ByteArray) : Digest :=
  scheme.hash (ByteArray.mk #[leafTag] ++ content)

/-- The digest of a fresh leaf, then its digest after each feed in turn. Reading a digest does not
change what the leaf has been fed. -/
def feedDigests (scheme : Scheme) (feeds : List ByteArray) : List Digest :=
  (feeds.scanl (· ++ ·) .empty).map scheme.leaf

/-- The digest of the parent of two digests. -/
def node (scheme : Scheme) (left right : Digest) : Digest :=
  scheme.hash (ByteArray.mk #[nodeTag] ++ left.toByteArray ++ right.toByteArray)

/-- The scheme over BLAKE3. -/
def blake3 : Scheme :=
  ⟨Blake3.hash⟩

end Scheme

end StripedMerkle
