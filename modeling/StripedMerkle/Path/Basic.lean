import StripedMerkle.Scheme

/-!
# Inclusion paths

A path claims that a leaf digest sits at an index under a root: it lists the digests the leaf
is joined with on the way up, lowest first. Replaying it joins the running digest on the right
of a partner when the index bit of that level is set, and on its left otherwise.

A path verifies when its index fits in as many bits as the path has levels and the replay ends
at its root. The index bound keeps an index from naming a leaf of the tree through its low bits
alone.
-/

namespace StripedMerkle

/-- A claimed position of a leaf digest under a root, with the partners met on the way up. -/
structure Path where
  /-- The digest of the leaf. -/
  leaf : Digest
  /-- The root the path claims to reach. -/
  root : Digest
  /-- The partner at each level, leaf level first. -/
  nodes : List Digest
  /-- The position of the leaf among the leaves. -/
  index : UInt64
  deriving DecidableEq, Repr

namespace Path

/-- Joins `current` with each partner in turn, on the partner's left when the low bit of
`position` is clear and on its right when it is set, halving `position` at each level. -/
def replay (scheme : Scheme) : Digest → Nat → List Digest → Digest
  | current, _, [] => current
  | current, position, partner :: above =>
      replay scheme
        (if position % 2 = 0 then scheme.node current partner else scheme.node partner current)
        (position / 2) above

/-- The root a path leads to from its leaf. -/
def computeRoot (scheme : Scheme) (path : Path) : Digest :=
  replay scheme path.leaf path.index.toNat path.nodes

/-- The number of levels of a path as a 32-bit shift count; a count past the 32-bit range is
taken as the largest one. -/
def shiftCount (levels : Nat) : UInt32 :=
  if levels ≤ 0xFFFFFFFF then levels.toUInt32 else 0xFFFFFFFF

/-- A 64-bit word shifted right by `shift` bits, or nothing when the shift is the width of the
word or more. -/
def checkedShiftRight (word : UInt64) (shift : UInt32) : Option UInt64 :=
  if shift < 64 then some (word >>> shift.toUInt64) else none

/-- The bits of a 64-bit index above its lowest `levels` bits, shifted down; a shift that the word
cannot take leaves none. -/
def highBits (index : UInt64) (levels : Nat) : UInt64 :=
  (checkedShiftRight index (shiftCount levels)).getD 0

/-- A path verifies when its index has no bit above its levels and it leads to its root. -/
def verify (scheme : Scheme) (path : Path) : Bool :=
  highBits path.index path.nodes.length == 0 && path.computeRoot scheme == path.root

/-- A path verifies against a root when that root is its own and it verifies. -/
def verifyAgainst (scheme : Scheme) (path : Path) (expected : Digest) : Bool :=
  path.root == expected && path.verify scheme

end Path

end StripedMerkle
