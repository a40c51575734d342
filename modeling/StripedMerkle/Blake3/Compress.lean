/-!
# The BLAKE3 compression function

A compression takes an eight-word chaining value, a sixteen-word message block, a 64-bit
counter, the number of message bytes in the block and a word of domain flags, and scrambles
them through seven rounds of the quarter-round `mix`. The message words are
reordered by a fixed permutation between rounds.

Words are little-endian `UInt32`, and every addition wraps, as the function is defined on
32-bit machine words.
-/

namespace StripedMerkle
namespace Blake3

/-- The initial chaining value: the first 32 bits of the fractional parts of the square roots
of the first eight primes. -/
def iv : Vector UInt32 8 :=
  #v[0x6A09E667, 0xBB67AE85, 0x3C6EF372, 0xA54FF53A,
    0x510E527F, 0x9B05688C, 0x1F83D9AB, 0x5BE0CD19]

/-- Flag of the first block of a chunk. -/
def chunkStart : UInt32 := 1

/-- Flag of the last block of a chunk. -/
def chunkEnd : UInt32 := 2

/-- Flag of a parent node, whose block is the two chaining values of its children. -/
def parent : UInt32 := 4

/-- Flag of the node whose output is the hash itself. -/
def root : UInt32 := 8

/-- Position `i` of the next round's message takes word `messageOrder[i]` of this round's. -/
def messageOrder : Vector (Fin 16) 16 :=
  #v[2, 6, 3, 10, 7, 0, 4, 13, 1, 11, 12, 5, 9, 14, 15, 8]

/-- Rotation of a word to the right by `count` bits, for `0 < count < 32`. -/
def rotateRight (word : UInt32) (count : UInt32) : UInt32 :=
  (word >>> count) ||| (word <<< (32 - count))

/-- The quarter-round: mixes two message words into the four state words at `a`, `b`, `c`
and `d`, leaving the other twelve words alone. -/
def mix (state : Vector UInt32 16) (a b c d : Fin 16) (x y : UInt32) : Vector UInt32 16 :=
  let va := state[a] + state[b] + x
  let vd := rotateRight (state[d] ^^^ va) 16
  let vc := state[c] + vd
  let vb := rotateRight (state[b] ^^^ vc) 12
  let va := va + vb + y
  let vd := rotateRight (vd ^^^ va) 8
  let vc := vc + vd
  let vb := rotateRight (vb ^^^ vc) 7
  (((state.set a va).set b vb).set c vc).set d vd

/-- One round: the four columns of the state, then its four diagonals. -/
def round (state : Vector UInt32 16) (message : Vector UInt32 16) : Vector UInt32 16 :=
  let state := mix state 0 4 8 12 message[0] message[1]
  let state := mix state 1 5 9 13 message[2] message[3]
  let state := mix state 2 6 10 14 message[4] message[5]
  let state := mix state 3 7 11 15 message[6] message[7]
  let state := mix state 0 5 10 15 message[8] message[9]
  let state := mix state 1 6 11 12 message[10] message[11]
  let state := mix state 2 7 8 13 message[12] message[13]
  mix state 3 4 9 14 message[14] message[15]

/-- The message words in the order the next round reads them. -/
def permute (message : Vector UInt32 16) : Vector UInt32 16 :=
  Vector.ofFn fun position => message[messageOrder[position]]

/-- `count` rounds, the message permuted after each. -/
def rounds : Nat → Vector UInt32 16 → Vector UInt32 16 → Vector UInt32 16
  | 0, state, _ => state
  | count + 1, state, message => rounds count (round state message) (permute message)

/-- The sixteen words a compression starts from. -/
def initialState (chaining : Vector UInt32 8) (counter : UInt64) (blockLen flags : UInt32) :
    Vector UInt32 16 :=
  #v[chaining[0], chaining[1], chaining[2], chaining[3],
    chaining[4], chaining[5], chaining[6], chaining[7],
    iv[0], iv[1], iv[2], iv[3],
    counter.toUInt32, (counter >>> 32).toUInt32, blockLen, flags]

/-- The compression function. Its first eight output words are the chaining value of the
node; the last eight fold the input chaining value back in. -/
def compress (chaining : Vector UInt32 8) (block : Vector UInt32 16) (counter : UInt64)
    (blockLen flags : UInt32) : Vector UInt32 16 :=
  let state := rounds 7 (initialState chaining counter blockLen flags) block
  Vector.ofFn fun position =>
    if h : position.val < 8 then
      state[position] ^^^ state[position.val + 8]
    else
      state[position] ^^^ chaining[position.val - 8]

/-- The first eight words of a compression: the chaining value handed to the node above. -/
def chainingValue (chaining : Vector UInt32 8) (block : Vector UInt32 16) (counter : UInt64)
    (blockLen flags : UInt32) : Vector UInt32 8 :=
  (compress chaining block counter blockLen flags).take 8 |>.cast (by omega)

end Blake3
end StripedMerkle
