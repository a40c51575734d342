import StripedMerkle.Proofs.Cache

/-!
# The shape of a fold

A fold refuses a list of digests for two reasons only, both invalid input: the list is empty, or it
holds more than `2 ^ 11 = 2048` digests, which eleven rounds of pairing cannot bring down to one.
Any other list of `n` digests folds into `max 1 ⌈log₂ n⌉ + 1` levels, and level `k` is what `k`
rounds of pairing make of the list (`Levels.all_eq_iterate`): so it holds `⌈n / 2ᵏ⌉` digests, the
digest at `j` joins the digests at `2 j` and `2 j + 1` of the level below, or the one at `2 j` with
itself where the level below ends there, and the last level is the root alone.

Main statement: `fold_shape`.
-/

namespace StripedMerkle

/-- Why a fold refuses a list of digests. Both are invalid input. -/
inductive FoldRefusal : List Digest → CommitError → Prop where
  /-- There is nothing to fold. -/
  | empty : FoldRefusal [] .emptyLeafSet
  /-- Eleven rounds of pairing leave more than one digest. -/
  | tooMany {leaves : List Digest} (tooLong : 2048 < leaves.length) :
      FoldRefusal leaves (.tooManyLeaves leaves.length)

namespace Levels

/-- Every level of a fold, from the leaves up to the level of the root alone. -/
def all (levels : Levels) : List (List Digest) :=
  levels.below ++ [[levels.root]]

@[simp] theorem length_all (levels : Levels) : levels.all.length = levels.below.length + 1 := by
  simp [all]

@[simp] theorem getLast?_all (levels : Levels) : levels.all.getLast? = some [levels.root] := by
  simp [all]

end Levels

section Pairing

variable (node : Digest → Digest → Digest)

/-- The digest at `j` after a round joins the digests at `2 j` and `2 j + 1`, or the one at `2 j`
with itself where the level ends there; past the end there is none. -/
theorem getElem?_pairUp_eq (level : List Digest) (j : Nat) :
    (pairUp node level)[j]? =
      level[2 * j]?.map fun left => node left (level[2 * j + 1]?.getD left) := by
  fun_induction pairUp node level generalizing j with
  | case1 => simp
  | case2 last =>
    cases j with
    | zero => rfl
    | succ j => simp [show 2 * (j + 1) = 2 * j + 1 + 1 by omega]
  | case3 left right rest ih =>
    cases j with
    | zero => rfl
    | succ j =>
      have double : 2 * (j + 1) = 2 * j + 2 := by omega
      simp [double, ih]

/-- Halving a count of `⌈n / 2ᵏ⌉`, rounding up, gives `⌈n / 2ᵏ⁺¹⌉`. -/
theorem ceil_div_two_pow_succ (n k : Nat) :
    ((n + 2 ^ k - 1) / 2 ^ k + 1) / 2 = (n + 2 ^ (k + 1) - 1) / 2 ^ (k + 1) := by
  have positive : 0 < 2 ^ k := Nat.two_pow_pos k
  have oneMore : (n + 2 ^ k - 1) / 2 ^ k + 1 = (n + 2 ^ k * 2 - 1) / 2 ^ k := by
    rw [← Nat.add_div_right _ positive]
    congr 1
    omega
  rw [oneMore, Nat.div_div_eq_div_mul, Nat.pow_succ]

/-- `k` rounds of pairing leave `⌈n / 2ᵏ⌉` of `n` digests. -/
theorem length_iterate_pairUp (level : List Digest) (k : Nat) :
    ((pairUp node)^[k] level).length = (level.length + 2 ^ k - 1) / 2 ^ k := by
  induction k with
  | zero => simp
  | succ k ih => rw [Function.iterate_succ_apply', length_pairUp, ih, ceil_div_two_pow_succ]

end Pairing

namespace Levels

section Climbing

variable {node : Digest → Digest → Digest}

/-- A climb takes at most the rounds it is given. -/
theorem length_below_le_rounds {rounds : Nat} {level : List Digest} {levels : Levels}
    (climbs : climb node rounds level = some levels) : levels.below.length ≤ rounds := by
  induction rounds generalizing level levels with
  | zero => simp [climb] at climbs
  | succ rest ih =>
    obtain ⟨previous, same, ⟨-, below⟩ | ⟨-, above, climbsAbove, below, -⟩⟩ := climb_eq_some climbs
    all_goals obtain rfl : previous = rest := by omega
    · simp [below]
    · have := ih climbsAbove
      simp only [below, List.length_cons]
      omega

/-- A level of more than `2 ^ rounds` digests does not climb to a root in `rounds` rounds. -/
theorem climb_eq_none {rounds : Nat} {level : List Digest}
    (tooLong : 2 ^ rounds < level.length) :
    climb node rounds level = none := by
  cases climbs : climb node rounds level with
  | none => rfl
  | some levels =>
    have nonempty : level ≠ [] := by
      rintro rfl
      simp at tooLong
    have taken := length_below_of_climb climbs nonempty
    have bounded := length_below_le_rounds climbs
    have fits : level.length ≤ 2 ^ rounds :=
      calc level.length ≤ 2 ^ Nat.clog 2 level.length := Nat.le_pow_clog (by decide) _
        _ ≤ 2 ^ rounds := Nat.pow_le_pow_right (by decide) (by omega)
    omega

/-- Level `k` of a climb is what `k` rounds of pairing make of its first level. -/
theorem all_eq_iterate {rounds : Nat} {level : List Digest} {levels : Levels}
    (climbs : climb node rounds level = some levels) :
    levels.all = (List.range (levels.below.length + 1)).map fun k => (pairUp node)^[k] level := by
  induction rounds generalizing level levels with
  | zero => simp [climb] at climbs
  | succ rest ih =>
    obtain ⟨previous, same, ⟨parents, below⟩ | ⟨-, above, climbsAbove, below, root⟩⟩ :=
      climb_eq_some climbs
    all_goals obtain rfl : previous = rest := by omega
    · -- one round: the leaves, then the root alone
      simp [all, below, parents, List.range_succ]
    · -- the first level, then the levels of the climb from its parents
      have rest : levels.all = level :: above.all := by simp [all, below, root]
      rw [rest, ih climbsAbove, below, List.length_cons,
        List.range_succ_eq_map (n := above.below.length + 1), List.map_cons, List.map_map]
      simp [Function.comp_def, Function.iterate_succ_apply]

/-- Every level of a climb is what as many rounds of pairing as its height make of the first. -/
theorem eq_iterate_of_getElem?_all {rounds : Nat} {level : List Digest} {levels : Levels}
    (climbs : climb node rounds level = some levels) {k : Nat} {found : List Digest}
    (located : levels.all[k]? = some found) : found = (pairUp node)^[k] level := by
  rw [all_eq_iterate climbs, List.getElem?_map, Option.map_eq_some_iff] at located
  obtain ⟨k', inRange, rfl⟩ := located
  have same : k = k' := by simpa using (List.getElem?_eq_some_iff.mp inRange).2
  rw [same]

end Climbing

/-! ## When a fold refuses -/

/-- A fold refuses exactly the empty list and the lists of more than 2048 digests. -/
theorem ofLeaves_eq_error_iff (scheme : Scheme) (leaves : List Digest) (error : CommitError) :
    ofLeaves scheme leaves = .error error ↔ FoldRefusal leaves error := by
  by_cases empty : leaves = []
  · subst empty
    constructor
    · intro refused
      cases (show CommitError.emptyLeafSet = error by simpa [ofLeaves] using refused)
      exact .empty
    · rintro (_ | ⟨tooLong⟩)
      · rfl
      · simp at tooLong
  · by_cases small : leaves.length ≤ 2048
    · obtain ⟨levels, folds, -⟩ := ofLeaves_isOk scheme empty small
      rw [folds]
      constructor
      · intro refused
        cases refused
      · rintro (_ | ⟨tooLong⟩)
        · exact absurd rfl empty
        · omega
    · have refused : ofLeaves scheme leaves = .error (.tooManyLeaves leaves.length) := by
        have none : climb scheme.node maxRounds leaves = none :=
          climb_eq_none (by simp only [maxRounds]; omega)
        simp [ofLeaves, empty, none]
      rw [refused]
      constructor
      · intro same
        cases same
        exact .tooMany (by omega)
      · rintro (_ | ⟨tooLong⟩)
        · exact absurd rfl empty
        · rfl

/-- A list the fold accepts is non-empty and holds at most 2048 digests. -/
theorem bounds_of_ofLeaves {scheme : Scheme} {leaves : List Digest} {levels : Levels}
    (folds : ofLeaves scheme leaves = .ok levels) : leaves ≠ [] ∧ leaves.length ≤ 2048 := by
  constructor
  · rintro rfl
    have := (ofLeaves_eq_error_iff scheme [] .emptyLeafSet).mpr .empty
    rw [folds] at this
    cases this
  · apply Nat.le_of_not_lt
    intro tooLong
    have := (ofLeaves_eq_error_iff scheme leaves _).mpr (.tooMany tooLong)
    rw [folds] at this
    cases this

end Levels

theorem merkleRoot_eq_error_iff (scheme : Scheme) (leaves : List Digest) (error : CommitError) :
    merkleRoot scheme leaves = .error error ↔ FoldRefusal leaves error := by
  rw [← Levels.ofLeaves_eq_error_iff scheme leaves error, merkleRoot]
  cases Levels.ofLeaves scheme leaves <;> simp [Except.map]

/-- The path of an index fails where the fold refuses, and otherwise exactly for an index past the
leaves. -/
theorem merklePath_eq_error_iff (scheme : Scheme) (leaves : List Digest) (index : Nat)
    (error : CommitError) :
    merklePath scheme leaves index = .error error ↔
      FoldRefusal leaves error ∨
        (leaves ≠ [] ∧ leaves.length ≤ 2048 ∧ leaves.length ≤ index ∧
          error = .leafIndexOutOfRange index leaves.length) := by
  cases folds : Levels.ofLeaves scheme leaves with
  | error refusal =>
    have refused := (Levels.ofLeaves_eq_error_iff scheme leaves refusal).mp folds
    have path : merklePath scheme leaves index = .error refusal := by
      simp [merklePath, folds, bind, Except.bind]
    rw [path, Except.error.injEq]
    constructor
    · rintro rfl
      exact .inl refused
    · rintro (other | ⟨nonempty, small, -⟩)
      · have found := (Levels.ofLeaves_eq_error_iff scheme leaves error).mpr other
        rw [folds, Except.error.injEq] at found
        exact found
      · -- a list the fold refuses is empty or too long
        cases refused with
        | empty => exact absurd rfl nonempty
        | tooMany tooLong => omega
  | ok levels =>
    obtain ⟨nonempty, small⟩ := Levels.bounds_of_ofLeaves folds
    have accepted : ¬ FoldRefusal leaves error := by
      rw [← Levels.ofLeaves_eq_error_iff, folds]
      exact fun refused => by cases refused
    by_cases inRange : index < leaves.length
    · rw [merklePath_of_ofLeaves folds inRange]
      simp [accepted, inRange]
    · have path : merklePath scheme leaves index =
          .error (.leafIndexOutOfRange index leaves.length) := by
        simp [merklePath, folds, inRange, bind, Except.bind, throw, throwThe,
          MonadExceptOf.throw]
      rw [path]
      constructor
      · intro same
        cases same
        exact .inr ⟨nonempty, small, by omega, rfl⟩
      · rintro (refused | ⟨-, -, -, rfl⟩)
        · exact absurd refused accepted
        · rfl

/-- The 1024 leaf digests of every tree fold in ten rounds: 1024 is `2 ^ 10`, which each round
halves. -/
theorem Tree.leafDigests_fold_in_ten_rounds (scheme : Scheme) (tree : Tree) :
    ∃ levels, Levels.ofLeaves scheme (tree.leafDigests scheme) = .ok levels ∧
      levels.below.length = 10 := by
  have count := Tree.length_leafDigests scheme tree
  have nonempty : tree.leafDigests scheme ≠ [] := by
    rw [← List.length_pos_iff, count]
    decide
  obtain ⟨levels, folds, rounds⟩ :=
    Levels.ofLeaves_isOk scheme nonempty (by rw [count]; decide)
  have tenRounds : Nat.clog 2 leafCount = 10 := Nat.clog_pow 2 10 (by decide)
  refine ⟨levels, folds, ?_⟩
  rw [rounds, count, tenRounds]
  decide

/-- The shape of every fold. A fold, its root and every path of it fail on invalid input exactly
for the empty list and for lists of more than 2048 digests, and a path fails otherwise exactly for
an index past the leaves. A list of `n` digests that folds has `max 1 ⌈log₂ n⌉ + 1` levels: the
list first, `⌈n / 2ᵏ⌉` digests at level `k`, the digest at `j` of a level joining the digests at
`2 j` and `2 j + 1` of the level below, or the one at `2 j` with itself where that level ends, and
the root alone at the last level. The 1024 leaf digests of every tree fold into eleven levels, in
ten rounds. -/
theorem fold_shape (scheme : Scheme) (leaves : List Digest) :
    (∀ error, Levels.ofLeaves scheme leaves = .error error ↔ FoldRefusal leaves error) ∧
    (∀ error, merkleRoot scheme leaves = .error error ↔ FoldRefusal leaves error) ∧
    (∀ index error, merklePath scheme leaves index = .error error ↔
      FoldRefusal leaves error ∨
        (leaves ≠ [] ∧ leaves.length ≤ 2048 ∧ leaves.length ≤ index ∧
          error = .leafIndexOutOfRange index leaves.length)) ∧
    (leaves ≠ [] → leaves.length ≤ 2048 → ∃ levels,
      Levels.ofLeaves scheme leaves = .ok levels ∧
      merkleRoot scheme leaves = .ok levels.root ∧
      levels.all.length = max 1 (Nat.clog 2 leaves.length) + 1 ∧
      levels.all[0]? = some leaves ∧
      (∀ k level, levels.all[k]? = some level →
        level.length = (leaves.length + 2 ^ k - 1) / 2 ^ k) ∧
      (∀ k level above, levels.all[k]? = some level → levels.all[k + 1]? = some above →
        ∀ j, above[j]? =
          level[2 * j]?.map fun left => scheme.node left (level[2 * j + 1]?.getD left)) ∧
      levels.all.getLast? = some [levels.root]) ∧
    (∀ tree : Tree, ∃ levels,
      Levels.ofLeaves scheme (tree.leafDigests scheme) = .ok levels ∧ levels.all.length = 11) := by
  refine ⟨Levels.ofLeaves_eq_error_iff scheme leaves, merkleRoot_eq_error_iff scheme leaves,
    merklePath_eq_error_iff scheme leaves, fun nonempty small => ?_, fun tree => ?_⟩
  · obtain ⟨levels, folds, rounds⟩ := Levels.ofLeaves_isOk scheme nonempty small
    have climbs := ((Levels.ofLeaves_eq_ok_iff scheme leaves levels).mp folds).2
    -- every level is read off the iterates of one round of pairing
    refine ⟨levels, folds, merkleRoot_of_ofLeaves folds, by simp [rounds], ?_, ?_, ?_,
      Levels.getLast?_all levels⟩
    · simp [Levels.all_eq_iterate climbs]
    · intro k level found
      rw [Levels.eq_iterate_of_getElem?_all climbs found, length_iterate_pairUp]
    · intro k level above found foundAbove
      rw [Levels.eq_iterate_of_getElem?_all climbs found,
        Levels.eq_iterate_of_getElem?_all climbs foundAbove, Function.iterate_succ_apply']
      exact getElem?_pairUp_eq scheme.node _
  · obtain ⟨levels, folds, rounds⟩ := Tree.leafDigests_fold_in_ten_rounds scheme tree
    exact ⟨levels, folds, by rw [Levels.length_all, rounds]⟩

end StripedMerkle
