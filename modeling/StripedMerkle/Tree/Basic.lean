import StripedMerkle.Fold
import StripedMerkle.Path.Basic

/-!
# Striped trees

A striped tree commits to a byte stream with a fixed shape. The stream is cut into windows of
65536 bytes; chunk `i` of every window, its bytes `64 i` to `64 i + 63`, is fed to leaf `i`. A
leaf's digest is the leaf hash of all bytes fed to it, and the root is the fold of the 1024 leaf
digests.

Bytes written to an open tree wait in the stage until a whole window is there. Finalizing closes
the tree once and for all and hands a non-empty stage to the leaves as a short last window. Roots
and paths exist only once the tree is final; the first one computed is kept.
-/

namespace StripedMerkle

/-- The state of a striped tree. -/
structure Tree where
  /-- The bytes fed to each leaf so far. -/
  leaves : Vector ByteArray leafCount
  /-- The bytes written since the last whole window. -/
  stage : ByteArray
  /-- Whether the tree is closed. -/
  finalized : Bool
  /-- The fold of the leaf digests, once computed. -/
  cache : Option Levels
  /-- The stage is a buffer of one window. -/
  stage_le : stage.size ≤ windowSize

namespace Tree

/-- Leaves that have been fed nothing. -/
def freshLeaves : Vector ByteArray leafCount :=
  Vector.replicate leafCount .empty

/-- An open tree whose leaves have been fed nothing. -/
def empty : Tree where
  leaves := freshLeaves
  stage := .empty
  finalized := false
  cache := none
  stage_le := Nat.zero_le _

/-- Appends `chunk` to the bytes fed to leaf `i`. -/
def feedLeaf (leaves : Vector ByteArray leafCount) (i : Nat) (chunk : ByteArray) :
    Vector ByteArray leafCount :=
  ⟨leaves.toArray.modify i (· ++ chunk), by simp⟩

/-- Hands a window of at most 65536 bytes to the leaves: chunk `i` goes to leaf `i`, the last
chunk of a short window possibly shorter, and leaves past its end get nothing. -/
def dispatch (leaves : Vector ByteArray leafCount) (window : ByteArray) :
    Vector ByteArray leafCount :=
  (List.range leafCount).foldl (fun leaves i =>
    if i * chunkSize < window.size then
      feedLeaf leaves i (window.extract (i * chunkSize) (i * chunkSize + chunkSize))
    else leaves) leaves

/-- Window `w` of a byte string. -/
def window (bytes : ByteArray) (w : Nat) : ByteArray :=
  bytes.extract (w * windowSize) (w * windowSize + windowSize)

/-- What follows the whole windows of a byte string is shorter than a window. -/
theorem size_extract_whole (bytes : ByteArray) :
    (bytes.extract (bytes.size / windowSize * windowSize) bytes.size).size < windowSize := by
  rw [ByteArray.size_extract, Nat.min_self]
  have := Nat.mod_lt bytes.size windowSize_pos
  have := Nat.div_add_mod bytes.size windowSize
  rw [Nat.mul_comm] at this
  omega

/-- Appends bytes to the stage of an open tree, handing every whole window to the leaves: what
a write does to an open tree, in one step. -/
def stageBytes (tree : Tree) (data : ByteArray) : Tree :=
  let bytes := tree.stage ++ data
  let whole := bytes.size / windowSize
  { tree with
    leaves := (List.range whole).foldl (fun leaves w => dispatch leaves (window bytes w)) tree.leaves
    stage := bytes.extract (whole * windowSize) bytes.size
    stage_le := Nat.le_of_lt (size_extract_whole bytes) }

/-- Hands one window to the leaves. A window longer than a whole window is refused, and so is a
short one while the tree is open: only the last window of a stream may be short. -/
def writeToLeaves (leaves : Vector ByteArray leafCount) (window : ByteArray) (finalized : Bool) :
    Except CommitError (Vector ByteArray leafCount) :=
  if windowSize < window.size then .error (.windowTooLarge window.size windowSize)
  else if window.size < windowSize && !finalized then
    .error (.partialWindow window.size windowSize)
  else .ok (dispatch leaves window)

/-- Hands the stage to the leaves as one window and empties it. A refused window leaves the tree
as it was. -/
def flushWindow (tree : Tree) : Tree × Except CommitError Unit :=
  match writeToLeaves tree.leaves tree.stage tree.finalized with
  | .ok leaves => ({ tree with leaves, stage := .empty, stage_le := Nat.zero_le _ }, .ok ())
  | .error error => (tree, .error error)

/-- A flush that succeeds empties the stage. -/
theorem stage_of_flushWindow_ok {tree flushed : Tree}
    (flushes : tree.flushWindow = (flushed, .ok ())) : flushed.stage = .empty := by
  unfold flushWindow at flushes
  split at flushes
  · obtain ⟨rfl, -⟩ := Prod.mk.inj flushes
    rfl
  · exact absurd (Prod.mk.inj flushes).2 (by simp)

/-- The bytes one pass of the write loop copies fit in the stage. -/
theorem size_copy_le (stage data : ByteArray) (offset : Nat) (fits : stage.size ≤ windowSize) :
    (stage ++ data.extract offset
      (offset + min (windowSize - stage.size) (data.size - offset))).size ≤ windowSize := by
  rw [ByteArray.size_append, ByteArray.size_extract]
  omega

/-- The write loop from byte `offset` of `data` on. Each pass copies as many bytes as the stage has
room for, and hands the stage to the leaves when it is whole; a refused window ends the loop. -/
def writeFrom (tree : Tree) (data : ByteArray) (offset : Nat) : Tree × Except CommitError Unit :=
  if offset < data.size then
    let take := min (windowSize - tree.stage.size) (data.size - offset)
    let copied : Tree := { tree with
      stage := tree.stage ++ data.extract offset (offset + take)
      stage_le := size_copy_le tree.stage data offset tree.stage_le }
    if copied.stage.size = windowSize then
      match flushes : copied.flushWindow with
      | (flushed, .ok ()) => writeFrom flushed data (offset + take)
      | (failed, .error error) => (failed, .error error)
    else writeFrom copied data (offset + take)
  else (tree, .ok ())
termination_by (data.size - offset, if tree.stage.size = windowSize then 1 else 0)
decreasing_by
  all_goals have := tree.stage_le
  · -- a pass that copies nothing found the stage whole, and the flush emptied it
    rw [stage_of_flushWindow_ok flushes, ByteArray.size_empty]
    by_cases moved : 0 < take
    · exact Prod.Lex.left _ _ (by omega)
    · have whole : tree.stage.size = windowSize := by omega
      have same : offset + take = offset := by omega
      rw [same, if_pos whole]
      exact Prod.Lex.right _ (by decide)
  · exact Prod.Lex.left _ _ (by simp_all [copied, take]; omega)

/-- Writes bytes to the stream and gives their number; a closed tree refuses and stays as it
was. -/
def write (tree : Tree) (data : ByteArray) : Tree × Except CommitError Nat :=
  if tree.finalized then (tree, .error .treeFinalized)
  else
    match tree.writeFrom data 0 with
    | (tree, .ok ()) => (tree, .ok data.size)
    | (tree, .error error) => (tree, .error error)

/-- Closes the tree and hands a non-empty stage to the leaves as the last, short window; a tree
closes once. -/
def finalize (tree : Tree) : Tree × Except CommitError Unit :=
  if tree.finalized then (tree, .error .alreadyFinalized)
  else
    let closed := { tree with finalized := true }
    if 0 < closed.stage.size then closed.flushWindow else (closed, .ok ())

/-- The digest of every leaf, in leaf order. -/
def leafDigests (scheme : Scheme) (tree : Tree) : List Digest :=
  tree.leaves.toList.map scheme.leaf

/-- The digest of the leaf at `index`. -/
def leafHash (scheme : Scheme) (tree : Tree) (index : Nat) : Except CommitError Digest :=
  if h : index < leafCount then .ok (scheme.leaf tree.leaves[index])
  else .error (.leafIndexOutOfRange index leafCount)

/-- The fold of the leaf digests of a closed tree, and the tree that keeps it. -/
def levels (scheme : Scheme) (tree : Tree) : Except CommitError (Levels × Tree) :=
  match tree.cache with
  | some levels => .ok (levels, tree)
  | none =>
      if tree.finalized then do
        let levels ← Levels.ofLeaves scheme (tree.leafDigests scheme)
        pure (levels, { tree with cache := some levels })
      else .error .notFinalized

/-- The root of a closed tree, and the tree that keeps its fold. -/
def root (scheme : Scheme) (tree : Tree) : Except CommitError (Digest × Tree) :=
  (tree.levels scheme).map fun (levels, tree) => (levels.root, tree)

/-- The path of the leaf at `index` in a closed tree. An index past the leaves is refused first,
whether or not the tree is closed. -/
def buildPath (scheme : Scheme) (tree : Tree) (index : Nat) : Except CommitError (Path × Tree) :=
  if index < leafCount then
    (tree.levels scheme).map fun (levels, tree) =>
      (⟨levels.leaves[index]?.getD default, levels.root, levels.path index, index.toUInt64⟩, tree)
  else .error (.leafIndexOutOfRange index leafCount)

/-- The debugging text of a tree: its staged byte count, whether it is closed, and its kept root
if there is one. -/
def describe (tree : Tree) : String :=
  let root := match tree.cache with
    | some levels => "Some(\"" ++ levels.root.toHex ++ "\")"
    | none => "None"
  "FixedMerkleTree \x7b staged: Some(" ++ toString tree.stage.size ++ "), finalized: Some(" ++
    (if tree.finalized then "true" else "false") ++ "), root: " ++ root ++ " \x7d"

end Tree

end StripedMerkle
