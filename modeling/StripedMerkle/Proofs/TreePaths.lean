import StripedMerkle.Proofs.Shape

/-!
# Paths of a tree

A closed tree builds the path of a leaf from the fold it keeps, which the first reading of its root
or of a path computed; the free functions fold the leaf digests afresh. The two agree because the
kept fold of every tree a session reaches is the fold of its leaf digests (`Tree.CacheSound`): the
tree's path of leaf `i` names the digest of leaf `i`, the root the tree reports, and the partners
that `merklePath` finds for `i` among the leaf digests, ten of them, whichever readings came first.

Main statement: `tree_paths_agree`.
-/

namespace StripedMerkle

namespace Levels

/-- The first level of a fold is the list folded. -/
theorem leaves_of_ofLeaves {scheme : Scheme} {leaves : List Digest} {levels : Levels}
    (folds : ofLeaves scheme leaves = .ok levels) : levels.leaves = leaves := by
  obtain ⟨nonempty, climbs⟩ := (ofLeaves_eq_ok_iff scheme leaves levels).mp folds
  have started : 0 < levels.below.length := by
    rw [length_below_of_climb climbs nonempty]
    omega
  rw [Levels.leaves, List.headD_eq_head?_getD, List.head?_eq_getElem?,
    List.getElem?_eq_getElem started, getElem_below_zero climbs started, Option.getD_some]

/-- The path a fold gives for a leaf verifies with that leaf and the root of the fold. -/
theorem verify_path {scheme : Scheme} {leaves : List Digest} {levels : Levels}
    (folds : ofLeaves scheme leaves = .ok levels) {index : Nat} (inRange : index < leaves.length) :
    (Path.mk leaves[index] levels.root (levels.path index) index.toUInt64).verify scheme =
      true := by
  obtain ⟨nonempty, climbs⟩ := (ofLeaves_eq_ok_iff scheme leaves levels).mp folds
  have small := (bounds_of_ofLeaves folds).2
  have sameIndex : index.toUInt64.toNat = index := by
    simp only [Nat.toUInt64_eq, UInt64.toNat_ofNat']
    omega
  -- one partner per round, and the rounds cover every index of the list
  have fits : index < 2 ^ levels.below.length :=
    calc index < leaves.length := inRange
      _ ≤ 2 ^ Nat.clog 2 leaves.length := Nat.le_pow_clog (by decide) _
      _ ≤ 2 ^ levels.below.length :=
        Nat.pow_le_pow_right (by decide) (by rw [length_below_of_climb climbs nonempty]; omega)
  rw [Path.verify_eq_true_iff]
  simp only [sameIndex, path, length_pathFrom, Path.computeRoot]
  exact ⟨fits, replay_pathFrom scheme climbs inRange⟩

end Levels

namespace Tree

variable {scheme : Scheme} {tree : Tree}

/-- A closed tree with a sound cache reads the fold of its leaf digests, kept or computed now. -/
theorem CacheSound.levels_eq (sound : tree.CacheSound scheme) (closed : tree.finalized = true)
    {levels : Levels} (folds : Levels.ofLeaves scheme (tree.leafDigests scheme) = .ok levels) :
    ∃ kept, tree.levels scheme = .ok (levels, kept) := by
  cases cached : tree.cache with
  | some found =>
    have same : found = levels := by
      have refolds := (sound found cached).2
      rw [folds, Except.ok.injEq] at refolds
      exact refolds.symm
    exact ⟨tree, by simp [Tree.levels, cached, same]⟩
  | none =>
    exact ⟨{ tree with cache := some levels },
      by simp [Tree.levels, cached, closed, folds, bind, Except.bind, pure, Except.pure]⟩

/-- The root a closed tree with a sound cache reports is the root of the fold of its leaf
digests. -/
theorem CacheSound.call_rootBytes (sound : tree.CacheSound scheme) (closed : tree.finalized = true)
    {levels : Levels} (folds : Levels.ofLeaves scheme (tree.leafDigests scheme) = .ok levels) :
    (tree.call scheme .rootBytes).1 = .digest levels.root := by
  obtain ⟨kept, found⟩ := sound.levels_eq closed folds
  simp [Tree.call, Tree.root, found, Except.map]

/-- The path a closed tree with a sound cache builds for a leaf: the leaf's digest, the root of
the fold of the leaf digests, and the path that fold gives. -/
theorem CacheSound.call_buildPath (sound : tree.CacheSound scheme) (closed : tree.finalized = true)
    {levels : Levels} (folds : Levels.ofLeaves scheme (tree.leafDigests scheme) = .ok levels)
    {index : Nat} (inRange : index < leafCount) :
    (tree.call scheme (.buildPath index)).1 =
      .path ⟨scheme.leaf tree.leaves[index], levels.root, levels.path index, index.toUInt64⟩ := by
  obtain ⟨kept, found⟩ := sound.levels_eq closed folds
  simp [Tree.call, Tree.buildPath, inRange, found, Except.map, Levels.leaves_of_ofLeaves folds,
    Tree.leafDigests]

/-- A path asked past the leaves is refused before anything else, closed tree or not. -/
theorem call_buildPath_of_le (tree : Tree) {index : Nat} (past : leafCount ≤ index) :
    tree.call scheme (.buildPath index) =
      (.failed (.leafIndexOutOfRange index leafCount), tree) := by
  simp [Tree.call, Tree.buildPath, Nat.not_lt.mpr past]

end Tree

/-- The paths of a tree agree with the free functions over its leaf digests. After every session
of a fresh tree, whatever readings of the root or of paths came before: a path asked past the 1024
leaves is refused as out of range, closed tree or not; an open tree refuses every other path as
not yet closed; and a closed tree gives for leaf `i` the path with the digest of leaf `i`, the root
the tree reports and the ten partners that `merklePath` finds for `i` among the leaf digests, a
path that verifies, and verifies against that root. -/
theorem tree_paths_agree (scheme : Scheme) (calls : List Call) :
    let tree := (Tree.empty.session scheme calls).2
    (∀ index, leafCount ≤ index →
      tree.call scheme (.buildPath index) =
        (.failed (.leafIndexOutOfRange index leafCount), tree)) ∧
    (tree.finalized = false → ∀ index < leafCount,
      tree.call scheme (.buildPath index) = (.failed .notFinalized, tree)) ∧
    (tree.finalized = true → ∀ index < leafCount, ∃ leaf root digests nodes,
      (tree.call scheme (.leafHash index)).1 = .digest leaf ∧
      (tree.call scheme .rootBytes).1 = .digest root ∧
      (tree.call scheme .leafHashes).1 = .digests digests ∧
      merklePath scheme digests index = .ok nodes ∧
      nodes.length = 10 ∧
      (tree.call scheme (.buildPath index)).1 = .path ⟨leaf, root, nodes, index.toUInt64⟩ ∧
      (Path.mk leaf root nodes index.toUInt64).verify scheme = true ∧
      (Path.mk leaf root nodes index.toUInt64).verifyAgainst scheme root = true) := by
  intro tree
  have sound : tree.CacheSound scheme := (Tree.CacheSound.empty scheme).session calls
  refine ⟨fun index past => Tree.call_buildPath_of_le tree past,
    fun isOpen => (sound.readings_of_open isOpen).2.2.2, fun closed index inRange => ?_⟩
  -- the fold of the 1024 leaf digests takes ten rounds, one partner each
  obtain ⟨levels, folds, rounds⟩ := Tree.leafDigests_fold_in_ten_rounds scheme tree
  have inDigests : index < (tree.leafDigests scheme).length := by simpa using inRange
  have verifies := Levels.verify_path folds inDigests
  have leafDigest : (tree.leafDigests scheme)[index] = scheme.leaf tree.leaves[index] := by
    simp [Tree.leafDigests]
  rw [leafDigest] at verifies
  refine ⟨scheme.leaf tree.leaves[index], levels.root, tree.leafDigests scheme,
    levels.path index, ?_, sound.call_rootBytes closed folds, rfl,
    merklePath_of_ofLeaves folds inDigests, by simp [Levels.path, rounds],
    sound.call_buildPath closed folds inRange, verifies, by simp [Path.verifyAgainst, verifies]⟩
  simp [Tree.call, Tree.leafHash, inRange]

end StripedMerkle
