import StripedMerkle.Tree.Reload

/-!
# Calls on a tree

A client drives a tree through the calls of its interface, one at a time: writes (plain, or
through the byte-sink interface, which reports a refusal as an I/O error wrapping the tree's
error), finalization, reloading from a source, and the readings of the flag, the leaf digests,
the root and the paths. `Tree.call` runs one call and gives its reply with the tree after it, and
`Tree.session` runs calls in order.
-/

namespace StripedMerkle

/-- A call of the interface of a tree. -/
inductive Call where
  /-- Appends bytes to the stream. -/
  | write (data : ByteArray)
  /-- Appends bytes through the byte-sink interface. -/
  | sinkWrite (data : ByteArray)
  /-- Closes the stream. -/
  | finalize
  /-- Asks whether the tree is closed. -/
  | isFinalized
  /-- Asks for the digest of one leaf. -/
  | leafHash (index : Nat)
  /-- Asks for the digests of all leaves. -/
  | leafHashes
  /-- Asks for the root, as hexadecimal text. -/
  | root
  /-- Asks for the root, as a digest. -/
  | rootBytes
  /-- Asks for the path of one leaf. -/
  | buildPath (index : Nat)
  /-- Rebuilds the leaves from what a source gives. -/
  | reload (readings : List Reading)

/-- The reply to a call. -/
inductive Reply where
  /-- A write took this many bytes. -/
  | accepted (count : Nat)
  /-- A call that gives nothing back succeeded. -/
  | done
  /-- Whether the tree is closed. -/
  | flag (value : Bool)
  /-- One digest. -/
  | digest (value : Digest)
  /-- The digests of all leaves, in leaf order. -/
  | digests (values : List Digest)
  /-- A root as hexadecimal text. -/
  | hex (text : String)
  /-- An inclusion path. -/
  | path (value : Path)
  /-- The call failed with an error of the tree. -/
  | failed (error : CommitError)
  /-- A write through the byte-sink interface failed: an I/O error wrapping the tree's error. -/
  | sinkFailed (error : CommitError)

namespace Tree

/-- Runs one call: its reply, and the tree after it. -/
def call (scheme : Scheme) (tree : Tree) : Call → Reply × Tree
  | .write data =>
      match tree.write data with
      | (tree, .ok count) => (.accepted count, tree)
      | (tree, .error error) => (.failed error, tree)
  | .sinkWrite data =>
      match tree.write data with
      | (tree, .ok count) => (.accepted count, tree)
      | (tree, .error error) => (.sinkFailed error, tree)
  | .finalize =>
      match tree.finalize with
      | (tree, .ok ()) => (.done, tree)
      | (tree, .error error) => (.failed error, tree)
  | .isFinalized => (.flag tree.finalized, tree)
  | .leafHash index =>
      match tree.leafHash scheme index with
      | .ok digest => (.digest digest, tree)
      | .error error => (.failed error, tree)
  | .leafHashes => (.digests (tree.leafDigests scheme), tree)
  | .root =>
      match tree.root scheme with
      | .ok (root, tree) => (.hex root.toHex, tree)
      | .error error => (.failed error, tree)
  | .rootBytes =>
      match tree.root scheme with
      | .ok (root, tree) => (.digest root, tree)
      | .error error => (.failed error, tree)
  | .buildPath index =>
      match tree.buildPath scheme index with
      | .ok (path, tree) => (.path path, tree)
      | .error error => (.failed error, tree)
  | .reload readings =>
      match tree.reload readings with
      | (tree, .ok ()) => (.done, tree)
      | (tree, .error error) => (.failed error, tree)

/-- Runs calls in order: their replies, and the tree after the last. -/
def session (scheme : Scheme) : Tree → List Call → List Reply × Tree
  | tree, [] => ([], tree)
  | tree, call :: calls =>
      let (reply, tree) := tree.call scheme call
      let (replies, tree) := tree.session scheme calls
      (reply :: replies, tree)

end Tree

end StripedMerkle
