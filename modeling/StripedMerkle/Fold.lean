import StripedMerkle.Scheme
import StripedMerkle.Geometry
import StripedMerkle.Error

/-!
# Folding digests into a root

A non-empty list of digests is folded level by level. Each round joins consecutive digests
with the scheme's parent hash, and a digest left without a right neighbour is joined with
itself. At least one round always runs, so a single digest `d` folds to `node d d`, and the fold
stops at the first round that leaves one digest. A list that eleven rounds do not reduce to one
digest, one of more than 2048 digests, has no root.

A path of an index lists, level by level from the leaves up, the digest the node on the way is
joined with: its neighbour, or itself where it had none.

## Main definitions

* `Levels.ofLeaves`: the levels of a fold and its root.
* `merkleRoot`, `merklePath`: the root of a list of digests, and the path of one of them.
-/

namespace StripedMerkle

/-- One round of a fold: consecutive digests are joined, and an odd last digest is joined with
itself. -/
def pairUp (node : Digest → Digest → Digest) : List Digest → List Digest
  | [] => []
  | [last] => [node last last]
  | left :: right :: rest => node left right :: pairUp node rest

@[simp] theorem pairUp_nil (node : Digest → Digest → Digest) : pairUp node [] = [] := rfl

@[simp] theorem pairUp_singleton (node : Digest → Digest → Digest) (last : Digest) :
    pairUp node [last] = [node last last] := rfl

@[simp] theorem pairUp_cons_cons (node : Digest → Digest → Digest) (left right : Digest)
    (rest : List Digest) :
    pairUp node (left :: right :: rest) = node left right :: pairUp node rest := rfl

/-- The levels of a fold below its root, leaves first, and the root. -/
structure Levels where
  /-- Every level below the root, the leaves first. -/
  below : List (List Digest)
  /-- The single digest of the last level. -/
  root : Digest

namespace Levels

/-- Folds `level` in at most `rounds` rounds: the levels from `level` up to the one below the
single digest, and that digest; `none` if the rounds run out first. -/
def climb (node : Digest → Digest → Digest) : Nat → List Digest → Option Levels
  | 0, _ => none
  | rounds + 1, level =>
      match pairUp node level with
      | [top] => some ⟨[level], top⟩
      | next => (climb node rounds next).map fun above => ⟨level :: above.below, above.root⟩

/-- The fold of a list of leaf digests. -/
def ofLeaves (scheme : Scheme) (leaves : List Digest) : Except CommitError Levels :=
  if leaves.isEmpty then
    .error .emptyLeafSet
  else
    match climb scheme.node maxRounds leaves with
    | some levels => .ok levels
    | none => .error (.tooManyLeaves leaves.length)

/-- The digest a node at `index` of a level is joined with: its neighbour, or itself when it
has none. -/
def partner (level : List Digest) (index : Nat) : Digest :=
  level[index ^^^ 1]?.getD (level[index]?.getD default)

/-- The partners met on the way up from `index`, one per level, leaf level first. -/
def pathFrom : List (List Digest) → Nat → List Digest
  | [], _ => []
  | level :: above, index => partner level index :: pathFrom above (index / 2)

/-- The leaf level of a fold. -/
def leaves (levels : Levels) : List Digest :=
  levels.below.headD []

/-- The path of the leaf at `index`. -/
def path (levels : Levels) (index : Nat) : List Digest :=
  pathFrom levels.below index

end Levels

/-- The root of a non-empty list of at most 2048 digests. -/
def merkleRoot (scheme : Scheme) (leaves : List Digest) : Except CommitError Digest :=
  (Levels.ofLeaves scheme leaves).map (·.root)

/-- The path of the digest at `index`, after the list is known to fold. -/
def merklePath (scheme : Scheme) (leaves : List Digest) (index : Nat) :
    Except CommitError (List Digest) := do
  let levels ← Levels.ofLeaves scheme leaves
  if index < leaves.length then
    pure (levels.path index)
  else
    throw (.leafIndexOutOfRange index leaves.length)

end StripedMerkle
