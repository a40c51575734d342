import StripedMerkle.Tree.Basic

/-!
# Reloading a tree from a byte source

Reloading discards what an open tree holds and reads its stream again from a source, one window
at a time. A window is read until it is whole, until a read gives no bytes, or until the source
ends; each non-empty window is then written to the tree, and an empty one ends the reload. A read
that is interrupted is tried again. A read that fails ends the reload with its error: the bytes of
the window being read are dropped, and the windows written before it stay. The tree is left open.
-/

namespace StripedMerkle

/-- What one read of a byte source gives. -/
inductive Reading where
  /-- Some bytes; no bytes at all end the window being read. -/
  | bytes (chunk : ByteArray)
  /-- A transient interruption: the read is tried again. -/
  | interrupted
  /-- A failure with its message: reading stops. -/
  | failed (message : String)

/-- The bytes of a window being read, never a whole window. -/
abbrev OpenWindow := { bytes : ByteArray // bytes.size < windowSize }

namespace Tree

/-- The window with nothing read yet. -/
def emptyWindow : OpenWindow := ⟨.empty, windowSize_pos⟩

/-- Adds the bytes of `chunk` from `offset` on to the window being read, writing the window each
time it becomes whole. -/
def fill (tree : Tree) (window : OpenWindow) (chunk : ByteArray) (offset : Nat) :
    Tree × OpenWindow :=
  let room := windowSize - window.val.size
  if h : chunk.size - offset < room then
    (tree, ⟨window.val ++ chunk.extract offset chunk.size, by
      rw [ByteArray.size_append, ByteArray.size_extract, Nat.min_self]; omega⟩)
  else
    fill (tree.stageBytes (window.val ++ chunk.extract offset (offset + room))) emptyWindow chunk
      (offset + room)
termination_by chunk.size - offset
decreasing_by have := window.property; omega

/-- Reads windows from the remaining readings and writes each to the tree. -/
def refill (tree : Tree) (window : OpenWindow) : List Reading → Tree × Except CommitError Unit
  | [] => (if window.val.size = 0 then tree else tree.stageBytes window.val, .ok ())
  | .bytes chunk :: rest =>
      if chunk.size = 0 then
        if window.val.size = 0 then (tree, .ok ())
        else refill (tree.stageBytes window.val) emptyWindow rest
      else
        let (tree, window) := fill tree window chunk 0
        refill tree window rest
  | .interrupted :: rest => refill tree window rest
  | .failed message :: _ => (tree, .error (.io message))

/-- Rebuilds the leaves of an open tree from a source: the leaves and the stage are emptied, then
the source is read window by window. A closed tree refuses and stays as it is. -/
def reload (tree : Tree) (readings : List Reading) : Tree × Except CommitError Unit :=
  if tree.finalized then (tree, .error .treeFinalized)
  else
    refill { tree with leaves := freshLeaves, stage := .empty, stage_le := Nat.zero_le _ }
      emptyWindow readings

/-- The closed tree of everything a source gives. -/
def ofReadings (readings : List Reading) : Except CommitError Tree :=
  match empty.reload readings with
  | (tree, .ok ()) =>
      match tree.finalize with
      | (tree, .ok ()) => .ok tree
      | (_, .error error) => .error error
  | (_, .error error) => .error error

end Tree

end StripedMerkle
