/-!
# Geometry of the tree

The shape of a striped tree never depends on the length of its stream: 1024 leaves, chunks of
64 bytes, windows of one chunk per leaf, and at most eleven rounds of pairing when a list of
digests is folded into a root.
-/

namespace StripedMerkle

/-- Bytes of a window that go to one leaf. -/
def chunkSize : Nat := 64

/-- Number of leaves of every tree. -/
def leafCount : Nat := 1024

/-- Bytes handed to the leaves at once, one chunk per leaf. -/
def windowSize : Nat := leafCount * chunkSize

/-- Most rounds of pairing a fold may take: ten for the 1024 leaves of a tree, and one more. -/
def maxRounds : Nat := 11

@[simp] theorem windowSize_eq : windowSize = 65536 := rfl

/-- A window holds at least one byte. -/
theorem windowSize_pos : 0 < windowSize := by decide

end StripedMerkle
