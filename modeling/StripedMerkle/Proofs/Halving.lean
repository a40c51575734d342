import StripedMerkle.Proofs.Shape
import StripedMerkle.Proofs.Soundness
import Mathlib.Data.List.Basic

/-!
# The fold of a full level is the halving tree

On `2 ^ k` digests, `k ≥ 1`, the level-by-level fold computes the root of the perfect binary tree
that splits its leaves into halves: two digests join into their parent, and a list of
`2 ^ (h + 1)` digests joins the roots of its two halves. One round of pairing never joins a digest
of one half with a digest of the other, so it turns the tree of height `h + 1` into the tree of
height `h` over the parents (`halvingRoot_pairUp`), and `k` rounds leave the single digest that is
the root of both.

A single digest is the one exception: the fold runs at least one round and joins it with itself,
while the tree of height zero is the digest alone.

Main statement: `fold_agrees_with_halving`.
-/

namespace StripedMerkle

/-- The root of the perfect binary tree of height `height` over `2 ^ height` digests: a single
digest is its own root, and a taller tree joins the roots of its two halves. -/
def halvingRoot (node : Digest → Digest → Digest) : Nat → List Digest → Digest
  | 0, leaves => leaves.headD default
  | height + 1, leaves =>
      node (halvingRoot node height (leaves.take (2 ^ height)))
        (halvingRoot node height (leaves.drop (2 ^ height)))

section Halving

variable (node : Digest → Digest → Digest)

/-- Two digests join into their parent. -/
theorem halvingRoot_pair (left right : Digest) :
    halvingRoot node 1 [left, right] = node left right := rfl

/-- A tree of height `h + 1` joins the roots of its two halves of `2 ^ h` digests. -/
theorem halvingRoot_append {height : Nat} {first : List Digest} (half : first.length = 2 ^ height)
    (second : List Digest) :
    halvingRoot node (height + 1) (first ++ second) =
      node (halvingRoot node height first) (halvingRoot node height second) := by
  rw [halvingRoot, List.take_left' half, List.drop_left' half]

/-- A round pairs the two parts of a level split after an even number of digests on their own. -/
theorem pairUp_append {first : List Digest} (even : first.length % 2 = 0) (second : List Digest) :
    pairUp node (first ++ second) = pairUp node first ++ pairUp node second := by
  fun_induction pairUp node first with
  | case1 => rfl
  | case2 last => simp at even
  | case3 left right rest ih =>
    have restEven : rest.length % 2 = 0 := by
      simp only [List.length_cons] at even
      omega
    simp only [List.cons_append, pairUp_cons_cons, ih restEven]

/-- One round of pairing takes the tree of height `h + 1` over `2 ^ (h + 1)` digests to the tree
of height `h` over their parents. -/
theorem halvingRoot_pairUp (height : Nat) {leaves : List Digest}
    (full : leaves.length = 2 ^ (height + 1)) :
    halvingRoot node height (pairUp node leaves) = halvingRoot node (height + 1) leaves := by
  induction height generalizing leaves with
  | zero =>
    obtain ⟨left, right, rfl⟩ := List.length_eq_two.mp full
    rfl
  | succ height ih =>
    -- the halves of `2 ^ (h + 1)` digests each, which a round pairs apart
    obtain ⟨first, second, rfl, firstFull, secondFull⟩ :
        ∃ first second, leaves = first ++ second ∧
          first.length = 2 ^ (height + 1) ∧ second.length = 2 ^ (height + 1) := by
      refine ⟨leaves.take (2 ^ (height + 1)), leaves.drop (2 ^ (height + 1)),
        (List.take_append_drop _ _).symm, ?_, ?_⟩ <;>
        simp only [List.length_take, List.length_drop, full, Nat.pow_succ] <;> omega
    have firstEven : first.length % 2 = 0 := by
      rw [firstFull, Nat.pow_succ]
      omega
    have parents : (pairUp node first).length = 2 ^ height := by
      rw [length_pairUp, firstFull, Nat.pow_succ]
      omega
    rw [pairUp_append node firstEven, halvingRoot_append node parents,
      halvingRoot_append node firstFull, ih firstFull, ih secondFull]

/-- `k` rounds of pairing leave of `2 ^ k` digests the root of their tree of height `k` alone. -/
theorem iterate_pairUp_of_pow (height : Nat) {leaves : List Digest}
    (full : leaves.length = 2 ^ height) :
    (pairUp node)^[height] leaves = [halvingRoot node height leaves] := by
  induction height generalizing leaves with
  | zero =>
    obtain ⟨single, rfl⟩ := List.length_eq_one_iff.mp full
    rfl
  | succ height ih =>
    have parents : (pairUp node leaves).length = 2 ^ height := by
      rw [length_pairUp, full, Nat.pow_succ]
      omega
    rw [Function.iterate_succ_apply, ih parents, halvingRoot_pairUp node height full]

end Halving

/-- The root of a climb is the single digest its rounds of pairing leave. -/
theorem Levels.iterate_pairUp_root {node : Digest → Digest → Digest} {rounds : Nat}
    {level : List Digest} {levels : Levels} (climbs : climb node rounds level = some levels) :
    (pairUp node)^[levels.below.length] level = [levels.root] :=
  (eq_iterate_of_getElem?_all climbs (by simp [all])).symm

/-- The root of `2 ^ k` digests, `1 ≤ k ≤ 11`, is the root of their halving tree. -/
theorem merkleRoot_eq_halvingRoot (scheme : Scheme) {k : Nat} (positive : 1 ≤ k)
    (bounded : k ≤ 11) {leaves : List Digest} (full : leaves.length = 2 ^ k) :
    merkleRoot scheme leaves = .ok (halvingRoot scheme.node k leaves) := by
  obtain ⟨levels, folds, height⟩ := ofLeaves_of_pow scheme positive bounded full
  have climbs := ((Levels.ofLeaves_eq_ok_iff _ _ _).mp folds).2
  have last := Levels.iterate_pairUp_root climbs
  rw [height, iterate_pairUp_of_pow scheme.node k full, List.singleton_inj] at last
  rw [merkleRoot_of_ofLeaves folds, last]

/-- The level-by-level fold agrees with the recursive Merkle tree on powers of two. Two lists of
`2 ^ k` digests each, `1 ≤ k ≤ 10`, both have roots, and their concatenation has the root that
joins them. Equivalently, the root of `2 ^ k` digests, `1 ≤ k ≤ 11`, is the root of the tree that
joins two digests into their parent and joins the roots of the two halves of a longer list. -/
theorem fold_agrees_with_halving (scheme : Scheme) :
    (∀ k, 1 ≤ k → k ≤ 10 → ∀ first second : List Digest,
      first.length = 2 ^ k → second.length = 2 ^ k →
        ∃ left right, merkleRoot scheme first = .ok left ∧ merkleRoot scheme second = .ok right ∧
          merkleRoot scheme (first ++ second) = .ok (scheme.node left right)) ∧
    (∀ left right, halvingRoot scheme.node 1 [left, right] = scheme.node left right) ∧
    (∀ height (first second : List Digest), first.length = 2 ^ height →
      second.length = 2 ^ height →
        halvingRoot scheme.node (height + 1) (first ++ second) =
          scheme.node (halvingRoot scheme.node height first)
            (halvingRoot scheme.node height second)) ∧
    (∀ k, 1 ≤ k → k ≤ 11 → ∀ leaves : List Digest, leaves.length = 2 ^ k →
      merkleRoot scheme leaves = .ok (halvingRoot scheme.node k leaves)) := by
  refine ⟨fun k positive bounded first second firstFull secondFull => ?_,
    halvingRoot_pair scheme.node,
    fun height first second firstFull _ => halvingRoot_append scheme.node firstFull second,
    fun k positive bounded leaves full => merkleRoot_eq_halvingRoot scheme positive bounded full⟩
  -- both halves and the whole are full levels, so each root is a halving root
  have whole : (first ++ second).length = 2 ^ (k + 1) := by
    rw [List.length_append, firstFull, secondFull, Nat.pow_succ]
    omega
  refine ⟨_, _, merkleRoot_eq_halvingRoot scheme positive (by omega) firstFull,
    merkleRoot_eq_halvingRoot scheme positive (by omega) secondFull, ?_⟩
  rw [merkleRoot_eq_halvingRoot scheme (by omega) (by omega) whole,
    halvingRoot_append scheme.node firstFull]

/-- Under BLAKE3, two pairs of digests fold into the root that joins the roots of the pairs. -/
theorem fold_agrees_with_halving_two_pairs :
    1 ≤ 1 ∧ 1 ≤ 10 ∧ ([default, default] : List Digest).length = 2 ^ 1 ∧
    ∃ left right, merkleRoot Scheme.blake3 [default, default] = .ok left ∧
      merkleRoot Scheme.blake3 [default, default] = .ok right ∧
      merkleRoot Scheme.blake3 ([default, default] ++ [default, default]) =
        .ok (Scheme.blake3.node left right) :=
  ⟨by decide, by decide, rfl,
    (fold_agrees_with_halving Scheme.blake3).1 1 (by decide) (by decide) _ _ rfl rfl⟩

end StripedMerkle
