import StripedMerkle.Blake3.Compress
import StripedMerkle.Digest

/-!
# BLAKE3 hashing

The input is cut into chunks of 1024 bytes and each chunk into blocks of 64 bytes. The blocks
of a chunk are compressed in turn, each starting from the chaining value of the one before, and
the chunk's number in the input is the counter of all of them. Chunks are joined in a binary
tree whose left subtree always holds the largest power of two of chunks that leaves at least
one byte for the right. The node at the top is compressed once more with the root flag, and its
first 32 bytes are the hash.

A node is kept as an `Output` until it is known whether it is the root, since the root's last
compression differs from the one that hands a chaining value upward.
-/

namespace StripedMerkle
namespace Blake3

/-- The byte at `position`, and zero past the end of the input. -/
def byteAt (input : ByteArray) (position : Nat) : UInt8 :=
  if h : position < input.size then input[position] else 0

/-- The sixteen little-endian words of the `length` bytes at `start`, for `length ≤ 64`,
padded with zero bytes. -/
def blockWords (input : ByteArray) (start length : Nat) : Vector UInt32 16 :=
  Vector.ofFn fun word =>
    let byte (offset : Nat) : UInt32 :=
      if 4 * word.val + offset < length then
        (byteAt input (start + 4 * word.val + offset)).toUInt32
      else 0
    byte 0 ||| (byte 1 <<< 8) ||| (byte 2 <<< 16) ||| (byte 3 <<< 24)

/-- The last compression of a node, held back until it is known whether the node is the
root. -/
structure Output where
  /-- The chaining value the last compression starts from. -/
  chaining : Vector UInt32 8
  /-- The last message block. -/
  block : Vector UInt32 16
  /-- The chunk counter of the node, zero for a parent. -/
  counter : UInt64
  /-- The number of bytes in the last block. -/
  blockLen : UInt32
  /-- The flags of the last compression, without the root flag. -/
  flags : UInt32

/-- The chaining value a node hands to its parent. -/
def Output.chainingValue (output : Output) : Vector UInt32 8 :=
  Blake3.chainingValue output.chaining output.block output.counter output.blockLen output.flags

/-- The first eight words of the hash when the node is the root. -/
def Output.rootWords (output : Output) : Vector UInt32 8 :=
  Blake3.chainingValue output.chaining output.block 0 output.blockLen (output.flags ||| root)

/-- Compresses the blocks of a chunk from `start` on, `remaining` bytes in all, every block but
the last one. `first` marks the first block of the chunk. -/
def chunkBlocks (input : ByteArray) (counter : UInt64) (chaining : Vector UInt32 8)
    (start remaining : Nat) (first : Bool) : Output :=
  let startFlag := if first then chunkStart else 0
  if remaining ≤ 64 then
    ⟨chaining, blockWords input start remaining, counter, remaining.toUInt32,
      startFlag ||| chunkEnd⟩
  else
    chunkBlocks input counter
      (Blake3.chainingValue chaining (blockWords input start 64) counter 64 startFlag)
      (start + 64) (remaining - 64) false
termination_by remaining

/-- The node of the chunk of `length ≤ 1024` bytes at `start`, the chunk numbered `counter`. -/
def chunkOutput (input : ByteArray) (counter : UInt64) (start length : Nat) : Output :=
  chunkBlocks input counter iv start length true

/-- The node above two children, given their chaining values. -/
def parentOutput (left right : Vector UInt32 8) : Output :=
  ⟨iv, left ++ right, 0, 64, parent⟩

/-- The bytes held by the left subtree of a node over `length > 1024` bytes: the largest
power of two below `length`, a whole number of chunks. -/
def leftLength (length : Nat) : Nat :=
  Nat.pow 2 (length - 1).log2

/-- The left subtree of a node over more than one chunk is smaller than the node. -/
theorem leftLength_lt {length : Nat} (large : 1024 < length) : leftLength length < length := by
  have := Nat.log2_self_le (n := length - 1) (by omega)
  unfold leftLength
  rw [Nat.pow_eq]
  omega

/-- The left subtree is never empty. -/
theorem leftLength_pos (length : Nat) : 0 < leftLength length :=
  Nat.two_pow_pos _

/-- The node over the `length` bytes at `start`, whose first chunk is numbered `chunkIndex`. -/
def subtree (input : ByteArray) (chunkIndex start length : Nat) : Output :=
  if 1024 < length then
    let left := leftLength length
    parentOutput (subtree input chunkIndex start left).chainingValue
      (subtree input (chunkIndex + left / 1024) (start + left) (length - left)).chainingValue
  else
    chunkOutput input chunkIndex.toUInt64 start length
termination_by length
decreasing_by
  · exact leftLength_lt (by assumption)
  · have := leftLength_pos length
    omega

/-- The digest whose bytes are the eight words, each little-endian. -/
def digestOfWords (words : Vector UInt32 8) : Digest :=
  ⟨Vector.ofFn fun position => (words[position.val / 4] >>> (8 * (position.val % 4).toUInt32)).toUInt8⟩

/-- The BLAKE3 hash of a byte string. -/
def hash (input : ByteArray) : Digest :=
  digestOfWords (subtree input 0 0 input.size).rootWords

end Blake3
end StripedMerkle
