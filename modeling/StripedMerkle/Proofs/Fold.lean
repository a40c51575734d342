import StripedMerkle.Fold
import StripedMerkle.Path.Basic
import Mathlib.Data.Nat.Bitwise
import Mathlib.Data.Nat.Log

/-!
# The shape of a fold and the completeness of its paths

One round of a fold halves a level, rounding up, and the parent at `index / 2` is the join of the
digest at `index` with its partner: its neighbour, or itself at an odd tail. From these two facts,
a non-empty list of `n ≤ 2048` digests folds in `max 1 ⌈log₂ n⌉` rounds, and replaying the path of
any index from the digest at that index ends at the root, so that every path the fold gives
verifies.
-/

namespace StripedMerkle

/-- The parent of a digest at `position` and its partner: the digest is the left child at an even
position and the right child at an odd one. -/
def join (node : Digest → Digest → Digest) (current partner : Digest) (position : Nat) : Digest :=
  if position % 2 = 0 then node current partner else node partner current

/-- The neighbour of an index: the next index for an even one, the previous for an odd one. -/
theorem xor_one_eq (index : Nat) :
    index ^^^ 1 = if index % 2 = 0 then index + 1 else index - 1 := by
  split
  · exact Nat.xor_one_of_even (Nat.even_iff.mpr ‹_›)
  · exact Nat.xor_one_of_odd (Nat.odd_iff.mpr (by omega))

namespace Levels

@[simp] theorem partner_cons_cons (left right : Digest) (rest : List Digest) (index : Nat) :
    partner (left :: right :: rest) (index + 2) = partner rest index := by
  have neighbour : (index + 2) ^^^ 1 = (index ^^^ 1) + 2 := by
    rw [xor_one_eq, xor_one_eq]
    split <;> split <;> omega
  simp [partner, neighbour]

@[simp] theorem partner_singleton (last : Digest) : partner [last] 0 = last := rfl

@[simp] theorem pathFrom_nil (index : Nat) : pathFrom [] index = [] := rfl

@[simp] theorem pathFrom_cons (level : List Digest) (above : List (List Digest)) (index : Nat) :
    pathFrom (level :: above) index = partner level index :: pathFrom above (index / 2) := rfl

@[simp] theorem length_pathFrom (below : List (List Digest)) (index : Nat) :
    (pathFrom below index).length = below.length := by
  induction below generalizing index with
  | nil => rfl
  | cons level above ih => simp [ih]

end Levels

section Pairing

variable (node : Digest → Digest → Digest)

/-- One round of a fold halves a level, rounding up. -/
@[simp] theorem length_pairUp (level : List Digest) :
    (pairUp node level).length = (level.length + 1) / 2 := by
  fun_induction pairUp node level with
  | case1 => rfl
  | case2 last => simp
  | case3 left right rest ih =>
      simp only [List.length_cons, ih]
      omega

/-- The parent at `index / 2` joins the digest at `index` with its partner. -/
theorem getElem?_pairUp (level : List Digest) (index : Nat) (inRange : index < level.length) :
    (pairUp node level)[index / 2]? =
      some (join node level[index] (Levels.partner level index) index) := by
  fun_induction pairUp node level generalizing index with
  | case1 => simp at inRange
  | case2 last =>
      obtain rfl : index = 0 := by simpa using inRange
      rfl
  | case3 left right rest ih =>
      match index, inRange with
      | 0, _ => rfl
      | 1, _ => rfl
      | index + 2, inRange =>
          have below : index < rest.length := by simpa using inRange
          have halve : (index + 2) / 2 = index / 2 + 1 := by omega
          have parity : (index + 2) % 2 = index % 2 := by omega
          simp only [halve, List.getElem?_cons_succ, ih index below,
            Levels.partner_cons_cons, List.getElem_cons_succ, join, parity]

end Pairing

/-- A fold of at most two digests takes one round. -/
theorem rounds_of_le_two {count : Nat} (few : count ≤ 2) :
    max 1 (Nat.clog 2 count) = 1 := by
  have : Nat.clog 2 count ≤ 1 := (Nat.clog_le_iff_le_pow (by decide)).mpr (by simpa using few)
  omega

/-- A fold of three digests or more takes one round more than the fold of its parents. -/
theorem rounds_of_three_le {count : Nat} (several : 3 ≤ count) :
    max 1 (Nat.clog 2 count) = max 1 (Nat.clog 2 ((count + 1) / 2)) + 1 := by
  have halve : Nat.clog 2 count = Nat.clog 2 ((count + 1) / 2) + 1 :=
    Nat.clog_of_two_le (by decide) (by omega)
  have parents : 0 < Nat.clog 2 ((count + 1) / 2) := Nat.clog_pos (by decide) (by omega)
  omega

namespace Levels

section Climbing

variable {node : Digest → Digest → Digest}

theorem climb_succ_of_single {rounds : Nat} {level : List Digest} {top : Digest}
    (single : pairUp node level = [top]) :
    climb node (rounds + 1) level = some ⟨[level], top⟩ := by
  simp [climb, single]

theorem climb_succ_of_length_ne_one {rounds : Nat} {level : List Digest}
    (several : (pairUp node level).length ≠ 1) :
    climb node (rounds + 1) level =
      (climb node rounds (pairUp node level)).map
        fun above => ⟨level :: above.below, above.root⟩ := by
  rw [climb]
  split
  · simp_all
  · rfl

/-- What a climb that reaches a root did in its first round: it stopped at a single parent, or it
climbed on from the parents with one round fewer. -/
theorem climb_eq_some {rounds : Nat} {level : List Digest} {levels : Levels}
    (climbs : climb node rounds level = some levels) :
    ∃ rest, rounds = rest + 1 ∧
      ((pairUp node level = [levels.root] ∧ levels.below = [level]) ∨
        ((pairUp node level).length ≠ 1 ∧ ∃ above,
          climb node rest (pairUp node level) = some above ∧
            levels.below = level :: above.below ∧ levels.root = above.root)) := by
  cases rounds with
  | zero => simp [climb] at climbs
  | succ rest =>
      refine ⟨rest, rfl, ?_⟩
      by_cases single : (pairUp node level).length = 1
      · obtain ⟨top, parents⟩ := List.length_eq_one_iff.mp single
        rw [climb_succ_of_single parents, Option.some.injEq] at climbs
        subst climbs
        exact .inl ⟨parents, rfl⟩
      · rw [climb_succ_of_length_ne_one single] at climbs
        obtain ⟨above, climbsAbove, rfl⟩ := Option.map_eq_some_iff.mp climbs
        exact .inr ⟨single, above, climbsAbove, rfl, rfl⟩

/-- A climb from a non-empty level takes `max 1 ⌈log₂ n⌉` rounds for a level of `n` digests. -/
theorem length_below_of_climb {rounds : Nat} {level : List Digest} {levels : Levels}
    (climbs : climb node rounds level = some levels) (nonempty : level ≠ []) :
    levels.below.length = max 1 (Nat.clog 2 level.length) := by
  induction rounds generalizing level levels with
  | zero => simp [climb] at climbs
  | succ rest ih =>
      have positive : 0 < level.length := List.length_pos_iff.mpr nonempty
      obtain ⟨previous, same, ⟨parents, below⟩ | ⟨several, above, climbsAbove, below, -⟩⟩ :=
        climb_eq_some climbs
      all_goals obtain rfl : previous = rest := by omega
      · have one := congrArg List.length parents
        simp only [length_pairUp, List.length_singleton] at one
        rw [below, rounds_of_le_two (by omega), List.length_singleton]
      · simp only [length_pairUp] at several
        have parentsNonempty : pairUp node level ≠ [] := by
          rw [← List.length_pos_iff, length_pairUp]
          omega
        rw [below, List.length_cons, ih climbsAbove parentsNonempty, length_pairUp]
        exact (rounds_of_three_le (by omega)).symm

/-- A non-empty level climbs to a root when it is given the rounds its fold takes. -/
theorem climb_isSome {rounds : Nat} {level : List Digest} (nonempty : level ≠ [])
    (enough : max 1 (Nat.clog 2 level.length) ≤ rounds) :
    ∃ levels, climb node rounds level = some levels := by
  induction rounds generalizing level with
  | zero => omega
  | succ rest ih =>
      have positive : 0 < level.length := List.length_pos_iff.mpr nonempty
      by_cases single : (pairUp node level).length = 1
      · obtain ⟨top, parents⟩ := List.length_eq_one_iff.mp single
        exact ⟨_, climb_succ_of_single parents⟩
      · have several : 3 ≤ level.length := by
          rw [length_pairUp] at single
          omega
        have parentsNonempty : pairUp node level ≠ [] := by
          rw [← List.length_pos_iff, length_pairUp]
          omega
        rw [rounds_of_three_le several] at enough
        obtain ⟨above, climbsAbove⟩ :=
          ih parentsNonempty (by rw [length_pairUp]; omega)
        rw [climb_succ_of_length_ne_one single, climbsAbove]
        exact ⟨_, rfl⟩

/-- A climb starts at its own level. -/
theorem getElem_below_zero {rounds : Nat} {level : List Digest} {levels : Levels}
    (climbs : climb node rounds level = some levels) (started : 0 < levels.below.length) :
    levels.below[0] = level := by
  obtain ⟨_, -, ⟨-, below⟩ | ⟨-, above, -, below, -⟩⟩ := climb_eq_some climbs <;> simp [below]

/-- The rest of a climb, from any of its levels, is a climb from that level. -/
theorem climb_drop {rounds : Nat} {level : List Digest} {levels : Levels}
    (climbs : climb node rounds level = some levels) {height : Nat}
    (below : height < levels.below.length) :
    ∃ rest, climb node rest levels.below[height] =
      some ⟨levels.below.drop height, levels.root⟩ := by
  induction height generalizing rounds level levels with
  | zero =>
      rw [getElem_below_zero climbs below]
      exact ⟨rounds, climbs⟩
  | succ height ih =>
      obtain ⟨_, -, ⟨-, single⟩ | ⟨-, above, climbsAbove, levelsBelow, root⟩⟩ :=
        climb_eq_some climbs
      · simp [single] at below
      · have aboveBelow : height < above.below.length := by
          simpa [levelsBelow] using below
        obtain ⟨rest, climbsRest⟩ := ih climbsAbove aboveBelow
        refine ⟨rest, ?_⟩
        simpa [levelsBelow, root] using climbsRest

/-- Each level of a climb is the parents of the level before it. -/
theorem getElem_below_succ {rounds : Nat} {level : List Digest} {levels : Levels}
    (climbs : climb node rounds level = some levels) {height : Nat}
    (below : height + 1 < levels.below.length) :
    levels.below[height + 1] = pairUp node levels.below[height] := by
  obtain ⟨rest, climbsRest⟩ := climb_drop climbs (Nat.lt_of_succ_lt below)
  obtain ⟨_, -, ⟨-, single⟩ | ⟨-, above, climbsAbove, levelsBelow, -⟩⟩ :=
    climb_eq_some climbsRest
  · have := congrArg List.length single
    simp at this
    omega
  · have started : 0 < above.below.length := by
      have := congrArg List.length levelsBelow
      simp at this
      omega
    have shifted : levels.below[height + 1] = above.below[0] := by
      have := congrArg (·[1]?) levelsBelow
      simp only [List.getElem?_drop, List.getElem?_cons_succ] at this
      rw [List.getElem?_eq_getElem below, List.getElem?_eq_getElem started,
        Option.some.injEq] at this
      simpa [Nat.add_comm] using this
    rw [shifted, getElem_below_zero climbsAbove started]

/-- The levels of the fold of `2 ^ k` digests in `k` rounds halve exactly. -/
theorem length_getElem_below_of_pow {rounds : Nat} {level : List Digest} {levels : Levels}
    (climbs : climb node rounds level = some levels) {k : Nat}
    (full : level.length = 2 ^ k) (height : levels.below.length = k) :
    ∀ (j : Nat) (below : j < levels.below.length), levels.below[j].length = 2 ^ (k - j)
  | 0, below => by rw [getElem_below_zero climbs below, full, Nat.sub_zero]
  | j + 1, below => by
      have halve : k - j = (k - (j + 1)) + 1 := by omega
      rw [getElem_below_succ climbs below, length_pairUp,
        length_getElem_below_of_pow climbs full height j (by omega), halve, Nat.pow_succ]
      omega

end Climbing

end Levels

namespace Path

@[simp] theorem replay_nil (scheme : Scheme) (current : Digest) (position : Nat) :
    replay scheme current position [] = current := rfl

@[simp] theorem replay_cons (scheme : Scheme) (current partner : Digest) (position : Nat)
    (above : List Digest) :
    replay scheme current position (partner :: above) =
      replay scheme (join scheme.node current partner position) (position / 2) above := rfl

/-- Replaying a path in two parts: the second part starts from where the first ends, with the
position shifted past the bits the first part used. -/
theorem replay_append (scheme : Scheme) (current : Digest) (position : Nat)
    (lower upper : List Digest) :
    replay scheme current position (lower ++ upper) =
      replay scheme (replay scheme current position lower) (position / 2 ^ lower.length)
        upper := by
  induction lower generalizing current position with
  | nil => simp
  | cons sibling rest ih =>
      rw [List.cons_append, replay_cons, replay_cons, ih, List.length_cons, Nat.pow_succ,
        Nat.mul_comm, Nat.div_div_eq_div_mul]

/-- The shift count of a path is its number of levels, saturated at the largest 32-bit count. -/
theorem toNat_shiftCount (levels : Nat) : (shiftCount levels).toNat = min levels 0xFFFFFFFF := by
  unfold shiftCount
  split
  · simp only [Nat.toUInt32_eq, UInt32.toNat_ofNat']
    omega
  · have saturated : (0xFFFFFFFF : UInt32).toNat = 0xFFFFFFFF := rfl
    omega

/-- The shift count is below the width of a word exactly when the path has fewer than 64 levels:
a count saturated at the 32-bit limit is far past the width. -/
theorem shiftCount_lt_iff (levels : Nat) : shiftCount levels < 64 ↔ levels < 64 := by
  have width : (64 : UInt32).toNat = 64 := rfl
  rw [UInt32.lt_iff_toNat_lt, toNat_shiftCount, width]
  omega

/-- The bits of an index above its lowest `levels` are all clear exactly when the index is below
`2 ^ levels`; past the width of the word, every index is. -/
theorem highBits_eq_zero_iff (index : UInt64) (levels : Nat) :
    highBits index levels = 0 ↔ index.toNat < 2 ^ levels := by
  unfold highBits checkedShiftRight
  split
  · rename_i narrow
    rw [shiftCount_lt_iff] at narrow
    have shift : (shiftCount levels).toUInt64.toNat % 64 = levels := by
      rw [UInt32.toNat_toUInt64, toNat_shiftCount]
      omega
    rw [Option.getD_some, ← UInt64.toNat_inj, UInt64.toNat_shiftRight, shift,
      Nat.shiftRight_eq_div_pow, UInt64.toNat_zero, Nat.div_eq_zero_iff_lt (Nat.two_pow_pos levels)]
  · rename_i wide
    rw [shiftCount_lt_iff] at wide
    have word : index.toNat < 2 ^ 64 := index.toNat_lt_size
    have past : 2 ^ 64 ≤ 2 ^ levels := Nat.pow_le_pow_right (by decide) (by omega)
    simp only [Option.getD_none, true_iff]
    omega

/-- A path verifies exactly when its index fits in as many bits as it has levels and its replay
ends at its root. -/
theorem verify_eq_true_iff (scheme : Scheme) (path : Path) :
    path.verify scheme = true ↔
      path.index.toNat < 2 ^ path.nodes.length ∧ path.computeRoot scheme = path.root := by
  simp [verify, highBits_eq_zero_iff]

end Path

namespace Levels

/-- Replaying the path of an index from the digest at that index climbs back to the root. -/
theorem replay_pathFrom (scheme : Scheme) {rounds : Nat} {level : List Digest} {levels : Levels}
    (climbs : climb scheme.node rounds level = some levels) {index : Nat}
    (inRange : index < level.length) :
    Path.replay scheme level[index] index (pathFrom levels.below index) = levels.root := by
  induction rounds generalizing level levels index with
  | zero => simp [climb] at climbs
  | succ rest ih =>
      have parent := getElem?_pairUp scheme.node level index inRange
      obtain ⟨previous, same, ⟨parents, below⟩ | ⟨several, above, climbsAbove, below, root⟩⟩ :=
        climb_eq_some climbs
      all_goals obtain rfl : previous = rest := by omega
      · -- one round: the parent of the index is the root itself
        have first : index / 2 = 0 := by
          have := congrArg List.length parents
          simp only [length_pairUp, List.length_singleton] at this
          omega
        rw [parents, first, List.getElem?_cons_zero, Option.some.injEq] at parent
        simp [below, ← parent]
      · -- the parent of the index starts the replay of the path one level up
        have parentInRange : index / 2 < (pairUp scheme.node level).length := by
          rw [length_pairUp]
          omega
        have joined : join scheme.node level[index] (partner level index) index =
            (pairUp scheme.node level)[index / 2] := by
          rw [List.getElem?_eq_getElem parentInRange, Option.some.injEq] at parent
          exact parent.symm
        rw [below, pathFrom_cons, Path.replay_cons, joined, root]
        exact ih climbsAbove parentInRange

/-- A list of digests folds exactly when it is non-empty and climbs to a root in eleven rounds. -/
theorem ofLeaves_eq_ok_iff (scheme : Scheme) (leaves : List Digest) (levels : Levels) :
    ofLeaves scheme leaves = .ok levels ↔
      leaves ≠ [] ∧ climb scheme.node maxRounds leaves = some levels := by
  unfold ofLeaves
  split
  · rename_i empty
    simp_all
  · rename_i nonempty
    simp only [List.isEmpty_iff] at nonempty
    split <;> simp_all

/-- A non-empty list of at most 2048 digests folds in `max 1 ⌈log₂ n⌉` rounds. -/
theorem ofLeaves_isOk (scheme : Scheme) {leaves : List Digest} (nonempty : leaves ≠ [])
    (small : leaves.length ≤ 2048) :
    ∃ levels, ofLeaves scheme leaves = .ok levels ∧
      levels.below.length = max 1 (Nat.clog 2 leaves.length) := by
  have enough : max 1 (Nat.clog 2 leaves.length) ≤ maxRounds := by
    have : Nat.clog 2 leaves.length ≤ 11 :=
      (Nat.clog_le_iff_le_pow (by decide)).mpr (by simpa using small)
    simp only [maxRounds]
    omega
  obtain ⟨levels, climbs⟩ := climb_isSome nonempty enough
  exact ⟨levels, (ofLeaves_eq_ok_iff scheme leaves levels).mpr ⟨nonempty, climbs⟩,
    length_below_of_climb climbs nonempty⟩

end Levels

theorem merkleRoot_of_ofLeaves {scheme : Scheme} {leaves : List Digest} {levels : Levels}
    (folds : Levels.ofLeaves scheme leaves = .ok levels) :
    merkleRoot scheme leaves = .ok levels.root := by
  simp [merkleRoot, folds, Except.map]

theorem merklePath_of_ofLeaves {scheme : Scheme} {leaves : List Digest} {levels : Levels}
    (folds : Levels.ofLeaves scheme leaves = .ok levels) {index : Nat}
    (inRange : index < leaves.length) :
    merklePath scheme leaves index = .ok (levels.path index) := by
  simp [merklePath, folds, inRange, bind, Except.bind, pure, Except.pure]

/-- Every leaf of a non-empty list of at most 2048 digests has a path, with one partner for each
round of the fold, that replays from the leaf to the root and verifies against it. -/
theorem merklePath_verifies (scheme : Scheme) (leaves : List Digest) (index : Nat)
    (nonempty : leaves ≠ []) (small : leaves.length ≤ 2048) (inRange : index < leaves.length) :
    ∃ levels root nodes,
      Levels.ofLeaves scheme leaves = .ok levels ∧
      merkleRoot scheme leaves = .ok root ∧
      merklePath scheme leaves index = .ok nodes ∧
      nodes.length = levels.below.length ∧
      nodes.length = max 1 (Nat.clog 2 leaves.length) ∧
      (Path.mk leaves[index] root nodes index.toUInt64).computeRoot scheme = root ∧
      (Path.mk leaves[index] root nodes index.toUInt64).verify scheme = true ∧
      (Path.mk leaves[index] root nodes index.toUInt64).verifyAgainst scheme root = true := by
  obtain ⟨levels, folds, rounds⟩ := Levels.ofLeaves_isOk scheme nonempty small
  have climbs := ((Levels.ofLeaves_eq_ok_iff scheme leaves levels).mp folds).2
  have sameIndex : index.toUInt64.toNat = index := by
    simp only [Nat.toUInt64_eq, UInt64.toNat_ofNat']
    omega
  -- the path has one partner per round, so the index fits in its bits
  have fits : index < 2 ^ levels.below.length :=
    calc index < leaves.length := inRange
      _ ≤ 2 ^ Nat.clog 2 leaves.length := Nat.le_pow_clog (by decide) _
      _ ≤ 2 ^ levels.below.length := Nat.pow_le_pow_right (by decide) (by omega)
  have replays : (Path.mk leaves[index] levels.root (levels.path index)
      index.toUInt64).computeRoot scheme = levels.root := by
    simp only [Path.computeRoot, sameIndex, Levels.path]
    exact Levels.replay_pathFrom scheme climbs inRange
  have verifies : (Path.mk leaves[index] levels.root (levels.path index)
      index.toUInt64).verify scheme = true := by
    rw [Path.verify_eq_true_iff]
    simp only [sameIndex, Levels.path, Levels.length_pathFrom]
    exact ⟨fits, replays⟩
  refine ⟨levels, levels.root, levels.path index, folds, merkleRoot_of_ofLeaves folds,
    merklePath_of_ofLeaves folds inRange, by simp [Levels.path], by simp [Levels.path, rounds],
    replays, verifies, ?_⟩
  simp [Path.verifyAgainst, verifies]

/-- The odd tail of three digests has a path of two partners that verifies. -/
theorem merklePath_verifies_odd_tail :
    ([default, default, default] : List Digest) ≠ [] ∧
    ([default, default, default] : List Digest).length ≤ 2048 ∧
    2 < ([default, default, default] : List Digest).length ∧
    ∃ levels root nodes,
      Levels.ofLeaves Scheme.blake3 [default, default, default] = .ok levels ∧
      merkleRoot Scheme.blake3 [default, default, default] = .ok root ∧
      merklePath Scheme.blake3 [default, default, default] 2 = .ok nodes ∧
      nodes.length = levels.below.length ∧
      nodes.length = max 1 (Nat.clog 2 3) ∧
      (Path.mk default root nodes (2 : Nat).toUInt64).computeRoot Scheme.blake3 = root ∧
      (Path.mk default root nodes (2 : Nat).toUInt64).verify Scheme.blake3 = true ∧
      (Path.mk default root nodes (2 : Nat).toUInt64).verifyAgainst Scheme.blake3 root = true :=
  ⟨by simp, by simp, by simp,
    merklePath_verifies Scheme.blake3 [default, default, default] 2 (by simp) (by simp) (by simp)⟩

end StripedMerkle
