import StripedMerkle.Proofs.Binding

/-!
# Soundness of paths under the root of a full level

Under the root of `2 ^ k` digests, `1 ≤ k ≤ 11`, a path of `k` partners that verifies is the
fold's own path of its index, or comparing its climb with the fold's finds a collision of the
hash. A path of any other length verifies only through a collision, found once the contents fed
to the leaves are known: where the path and the fold meet, one side is a leaf and the other a
parent, and the tags keep their inputs apart.

For a level whose length is not a power of two neither holds: the odd tail is joined with itself,
so an index past the end replays to the root like the last index does.
-/

namespace StripedMerkle

namespace Path

/-- The input of the last join of a replay, for a path of at least one partner. -/
def topInput (scheme : Scheme) : Digest → Nat → List Digest → ByteArray
  | current, position, [sibling] => joinInput current sibling position
  | current, position, sibling :: next :: rest =>
      topInput scheme (join scheme.node current sibling position) (position / 2) (next :: rest)
  | _, _, [] => .empty

/-- A replay of at least one partner ends at the hash of its last join's input. -/
theorem replay_eq_hash_topInput (scheme : Scheme) :
    ∀ (current : Digest) (position : Nat) (nodes : List Digest), nodes ≠ [] →
      replay scheme current position nodes = scheme.hash (topInput scheme current position nodes)
  | current, position, [sibling], _ => by
      rw [replay_cons, replay_nil, topInput, join_eq_hash]
  | current, position, sibling :: next :: rest, _ => by
      rw [replay_cons, topInput, replay_eq_hash_topInput scheme _ _ (next :: rest) (by simp)]
  | _, _, [], nonempty => absurd rfl nonempty

/-- The last join of a replay is a parent, so its input is no leaf's. -/
theorem topInput_ne_leafInput (scheme : Scheme) (content : ByteArray) :
    ∀ (current : Digest) (position : Nat) (nodes : List Digest), nodes ≠ [] →
      topInput scheme current position nodes ≠ Scheme.leafInput content
  | current, position, [sibling], _ => by
      rw [topInput, joinInput]
      split <;> exact (Scheme.leafInput_ne_nodeInput content _ _).symm
  | current, position, sibling :: next :: rest, _ => by
      rw [topInput]
      exact topInput_ne_leafInput scheme content _ _ (next :: rest) (by simp)
  | _, _, [], nonempty => absurd rfl nonempty

end Path

namespace Levels

/-- A climb with one partner fewer than a fold has levels, that replays to the fold's root from an
index of the parents of the fold's first level, starts at the parent at that index; otherwise the
comparison of the two climbs above the first level finds a collision. -/
theorem climb_binds_above (scheme : Scheme) {rounds : Nat} {level : List Digest}
    {levels : Levels} (climbs : climb scheme.node rounds level = some levels) {index : Nat}
    (inRange : index < (pairUp scheme.node level).length) {current : Digest}
    {nodes : List Digest} (sameLength : nodes.length + 1 = levels.below.length)
    (reaches : Path.replay scheme current index nodes = levels.root) :
    (climbCollision scheme levels.below.tail current index nodes = none ∧
        current = (pairUp scheme.node level)[index]) ∨
      ∃ pair, climbCollision scheme levels.below.tail current index nodes = some pair ∧
        scheme.Collides pair := by
  obtain ⟨_, -, ⟨parents, below⟩ | ⟨-, above, climbsAbove, below, root⟩⟩ :=
    climb_eq_some climbs
  · -- one round: the path is empty and its leaf is the root, the single parent
    obtain rfl : nodes = [] := by simpa [below] using sameLength
    have first : index = 0 := by simpa [parents] using inRange
    subst first
    refine .inl ⟨by simp [below, climbCollision], ?_⟩
    simpa [parents] using reaches
  · -- several rounds: the climb above the first level is the fold of the parents
    have upperLength : nodes.length = above.below.length := by simpa [below] using sameLength
    obtain ⟨unchanged, atParent, -⟩ | found :=
      climb_binds scheme climbsAbove inRange upperLength (by rw [reaches, root])
    · exact .inl ⟨by simpa [below] using unchanged, atParent⟩
    · exact .inr (by simpa [below] using found)

end Levels

/-- The collision a path claimed under the root of `leaves` gives when it is not the fold's own
path: the comparison of its climb with the fold's. -/
def pathCollision (scheme : Scheme) (leaves : List Digest) (path : Path) :
    Option (ByteArray × ByteArray) :=
  match Levels.ofLeaves scheme leaves with
  | .ok levels => Levels.climbCollision scheme levels.below path.leaf path.index.toNat path.nodes
  | .error _ => none

/-- The collision a path of the wrong length gives under the root of the leaves fed `contents`,
when its own leaf was fed `content`: the comparison of the climbs where both have parents, then,
where the path and the fold meet, the input of a leaf against the input of a parent. -/
def heightCollision (scheme : Scheme) (contents : List ByteArray) (content : ByteArray)
    (path : Path) : Option (ByteArray × ByteArray) :=
  match Levels.ofLeaves scheme (contents.map scheme.leaf) with
  | .error _ => none
  | .ok levels =>
      let height := levels.below.length
      let depth := path.nodes.length
      let index := path.index.toNat
      if depth < height then
        -- the path's leaf stands where the fold has a parent of two digests of `level`
        let level := levels.below.getD (height - depth - 1) []
        (Levels.climbCollision scheme (levels.below.drop (height - depth)) path.leaf index
            path.nodes).orElse fun _ =>
          Scheme.compareInputs (Scheme.leafInput content)
            (Scheme.nodeInput (level.getD (2 * index) default) (Levels.partner level (2 * index)))
      else
        -- the path passes parents of its own before it meets the fold's leaves
        let lower := path.nodes.take (depth - height)
        let position := index / 2 ^ (depth - height)
        (Levels.climbCollision scheme levels.below (Path.replay scheme path.leaf index lower)
            position (path.nodes.drop (depth - height))).orElse fun _ =>
          Scheme.compareInputs (Path.topInput scheme path.leaf index lower)
            (Scheme.leafInput (contents.getD position .empty))

/-- The fold of `2 ^ k` digests, `1 ≤ k ≤ 11`, takes exactly `k` rounds. -/
theorem ofLeaves_of_pow (scheme : Scheme) {leaves : List Digest} {k : Nat} (positive : 1 ≤ k)
    (bounded : k ≤ 11) (full : leaves.length = 2 ^ k) :
    ∃ levels, Levels.ofLeaves scheme leaves = .ok levels ∧ levels.below.length = k := by
  have nonempty : leaves ≠ [] := by
    rw [← List.length_pos_iff, full]
    exact Nat.two_pow_pos k
  have small : leaves.length ≤ 2048 :=
    calc leaves.length = 2 ^ k := full
      _ ≤ 2 ^ 11 := Nat.pow_le_pow_right (by decide) bounded
  obtain ⟨levels, folds, rounds⟩ := Levels.ofLeaves_isOk scheme nonempty small
  refine ⟨levels, folds, ?_⟩
  rw [rounds, full, Nat.clog_pow 2 k (by decide)]
  omega

section WrongHeight

variable {scheme : Scheme} {contents : List ByteArray} {content : ByteArray} {path : Path}
  {levels : Levels} {k : Nat}

/-- A path shorter than the fold's height claims a leaf where the fold has a parent: past the
comparison of the climbs, the leaf's input and the parent's collide. -/
theorem heightCollision_of_short
    (folds : Levels.ofLeaves scheme (contents.map scheme.leaf) = .ok levels)
    (full : contents.length = 2 ^ k) (height : levels.below.length = k)
    (short : path.nodes.length < k) (fits : path.index.toNat < 2 ^ path.nodes.length)
    (reaches : Path.replay scheme path.leaf path.index.toNat path.nodes = levels.root)
    (fed : path.leaf = scheme.leaf content) :
    ∃ pair, heightCollision scheme contents content path = some pair ∧ scheme.Collides pair := by
  have climbs := ((Levels.ofLeaves_eq_ok_iff _ _ _).mp folds).2
  -- the path's leaf claims a place among the parents of `level`
  have lowerHeight : k - path.nodes.length - 1 < levels.below.length := by omega
  obtain ⟨rest, climbsFrom⟩ := Levels.climb_drop climbs lowerHeight
  have levelLength : levels.below[k - path.nodes.length - 1].length =
      2 ^ (path.nodes.length + 1) := by
    rw [Levels.length_getElem_below_of_pow climbs (by simp [full]) height]
    congr 1
    omega
  obtain ⟨level, levelAt⟩ : ∃ level, levels.below[k - path.nodes.length - 1]? = some level :=
    ⟨_, List.getElem?_eq_getElem lowerHeight⟩
  have levelEq : levels.below[k - path.nodes.length - 1] = level := by
    rw [List.getElem?_eq_getElem lowerHeight, Option.some.injEq] at levelAt
    exact levelAt
  rw [levelEq] at climbsFrom levelLength
  have inRange : path.index.toNat < (pairUp scheme.node level).length := by
    rw [length_pairUp, levelLength, Nat.pow_succ]
    omega
  have sameLength : path.nodes.length + 1 =
      (levels.below.drop (k - path.nodes.length - 1)).length := by
    rw [List.length_drop]
    omega
  have above : (levels.below.drop (k - path.nodes.length - 1)).tail =
      levels.below.drop (k - path.nodes.length) := by
    rw [List.tail_drop]
    congr 1
    omega
  -- the parent at the path's index, and its input
  have evenInRange : 2 * path.index.toNat < level.length := by
    rw [levelLength, Nat.pow_succ]
    omega
  have parent := getElem?_pairUp scheme.node _ _ evenInRange
  rw [Nat.mul_div_cancel_left _ (by decide), List.getElem?_eq_getElem inRange,
    Option.some.injEq, join_eq_hash] at parent
  have evenInput : joinInput level[2 * path.index.toNat]
      (Levels.partner level (2 * path.index.toNat)) (2 * path.index.toNat) =
        Scheme.nodeInput level[2 * path.index.toNat]
          (Levels.partner level (2 * path.index.toNat)) := by
    simp [joinInput]
  rw [evenInput] at parent
  have unfolded : heightCollision scheme contents content path =
      (Levels.climbCollision scheme (levels.below.drop (k - path.nodes.length)) path.leaf
          path.index.toNat path.nodes).orElse fun _ =>
        Scheme.compareInputs (Scheme.leafInput content)
          (Scheme.nodeInput level[2 * path.index.toNat]
            (Levels.partner level (2 * path.index.toNat))) := by
    simp [heightCollision, folds, height, short, levelAt, List.getElem?_eq_getElem evenInRange]
  obtain ⟨unchanged, atParent⟩ | ⟨pair, found, collides⟩ :=
    Levels.climb_binds_above scheme climbsFrom inRange sameLength (by rw [reaches])
  · rw [above] at unchanged
    rw [parent, fed, Scheme.leaf_eq_hash] at atParent
    have different := Scheme.leafInput_ne_nodeInput content level[2 * path.index.toNat]
      (Levels.partner level (2 * path.index.toNat))
    rw [unfolded, unchanged, Option.orElse_none, Scheme.compareInputs_of_ne different]
    exact ⟨_, rfl, different, atParent⟩
  · rw [above] at found
    exact ⟨pair, by rw [unfolded, found, Option.orElse_some], collides⟩

/-- A path longer than the fold's height passes parents of its own before it meets the fold's
leaves: past the comparison of the climbs, the input of its last own parent and a leaf's
collide. -/
theorem heightCollision_of_long
    (folds : Levels.ofLeaves scheme (contents.map scheme.leaf) = .ok levels)
    (full : contents.length = 2 ^ k) (height : levels.below.length = k)
    (long : k < path.nodes.length) (fits : path.index.toNat < 2 ^ path.nodes.length)
    (reaches : Path.replay scheme path.leaf path.index.toNat path.nodes = levels.root) :
    ∃ pair, heightCollision scheme contents content path = some pair ∧ scheme.Collides pair := by
  have climbs := ((Levels.ofLeaves_eq_ok_iff _ _ _).mp folds).2
  -- the path is the parents of its own, then a climb as high as the fold
  have lowerLength : (path.nodes.take (path.nodes.length - k)).length =
      path.nodes.length - k := by
    rw [List.length_take]
    omega
  have lowerNonempty : path.nodes.take (path.nodes.length - k) ≠ [] := by
    rw [← List.length_pos_iff, lowerLength]
    omega
  have upperLength : (path.nodes.drop (path.nodes.length - k)).length = levels.below.length := by
    rw [List.length_drop]
    omega
  have positionInRange : path.index.toNat / 2 ^ (path.nodes.length - k) < contents.length := by
    have split : 2 ^ path.nodes.length = 2 ^ k * 2 ^ (path.nodes.length - k) := by
      rw [← Nat.pow_add]
      congr 1
      omega
    rw [full, Nat.div_lt_iff_lt_mul (Nat.two_pow_pos _), ← split]
    exact fits
  rw [← List.take_append_drop (path.nodes.length - k) path.nodes, Path.replay_append,
    lowerLength] at reaches
  have unfolded : heightCollision scheme contents content path =
      (Levels.climbCollision scheme levels.below
          (Path.replay scheme path.leaf path.index.toNat (path.nodes.take (path.nodes.length - k)))
          (path.index.toNat / 2 ^ (path.nodes.length - k))
          (path.nodes.drop (path.nodes.length - k))).orElse fun _ =>
        Scheme.compareInputs
          (Path.topInput scheme path.leaf path.index.toNat
            (path.nodes.take (path.nodes.length - k)))
          (Scheme.leafInput contents[path.index.toNat / 2 ^ (path.nodes.length - k)]) := by
    simp [heightCollision, folds, height, Nat.not_lt.mpr long.le,
      List.getElem?_eq_getElem positionInRange]
  obtain ⟨unchanged, atLeaf, -⟩ | ⟨pair, found, collides⟩ :=
    Levels.climb_binds scheme climbs (by simpa using positionInRange) upperLength reaches
  · rw [List.getElem_map, Scheme.leaf_eq_hash,
      Path.replay_eq_hash_topInput scheme _ _ _ lowerNonempty] at atLeaf
    have different := Path.topInput_ne_leafInput scheme
      contents[path.index.toNat / 2 ^ (path.nodes.length - k)] path.leaf path.index.toNat _
      lowerNonempty
    rw [unfolded, unchanged, Option.orElse_none, Scheme.compareInputs_of_ne different]
    exact ⟨_, rfl, different, atLeaf⟩
  · exact ⟨pair, by rw [unfolded, found, Option.orElse_some], collides⟩

end WrongHeight

/-- Under the root of `2 ^ k` digests, `1 ≤ k ≤ 11`, a path that verifies with `k` partners is the
fold's own path of an index of the level, or comparing its climb with the fold's finds a
collision. With any other number of partners, when its leaf and every digest of the level are
leaf digests of known contents, a collision is always found. -/
theorem verified_path_binds (scheme : Scheme) (k : Nat) (leaves : List Digest) (path : Path)
    (positive : 1 ≤ k) (bounded : k ≤ 11) (full : leaves.length = 2 ^ k)
    (rooted : merkleRoot scheme leaves = .ok path.root) (verified : path.verify scheme = true) :
    (path.nodes.length = k →
      (path.index.toNat < 2 ^ k ∧ leaves[path.index.toNat]? = some path.leaf ∧
          merklePath scheme leaves path.index.toNat = .ok path.nodes) ∨
        ∃ pair, pathCollision scheme leaves path = some pair ∧ scheme.Collides pair) ∧
    (path.nodes.length ≠ k → ∀ (content : ByteArray) (contents : List ByteArray),
      path.leaf = scheme.leaf content → leaves = contents.map scheme.leaf →
        ∃ pair, heightCollision scheme contents content path = some pair ∧
          scheme.Collides pair) := by
  obtain ⟨levels, folds, height⟩ := ofLeaves_of_pow scheme positive bounded full
  have climbs := ((Levels.ofLeaves_eq_ok_iff _ _ _).mp folds).2
  have root : path.root = levels.root := by
    rw [merkleRoot_of_ofLeaves folds, Except.ok.injEq] at rooted
    exact rooted.symm
  obtain ⟨fits, replays⟩ := (Path.verify_eq_true_iff scheme path).mp verified
  have reaches : Path.replay scheme path.leaf path.index.toNat path.nodes = levels.root := by
    rw [← root]
    exact replays
  constructor
  · intro exactHeight
    rw [exactHeight] at fits
    have inRange : path.index.toNat < leaves.length := full ▸ fits
    obtain ⟨-, atLeaf, ownPath⟩ | ⟨pair, found, collides⟩ :=
      Levels.climb_binds scheme climbs inRange (by rw [exactHeight, height]) reaches
    · refine .inl ⟨fits, by rw [List.getElem?_eq_getElem inRange, atLeaf], ?_⟩
      rw [merklePath_of_ofLeaves folds inRange, ownPath]
      rfl
    · exact .inr ⟨pair, by simp [pathCollision, folds, found], collides⟩
  · intro wrongHeight content contents fed fromContents
    subst fromContents
    have contentsFull : contents.length = 2 ^ k := by simpa using full
    rcases Nat.lt_or_gt_of_ne wrongHeight with short | long
    · exact heightCollision_of_short folds contentsFull height short fits reaches fed
    · exact heightCollision_of_long folds contentsFull height long fits reaches

/-- Under a hash that gives every input one digest, the path of one partner for index 0 of two
digests verifies, and the theorem applies to it. -/
theorem verified_path_binds_constant_hash :
    let scheme : Scheme := ⟨fun _ => default⟩
    let path : Path := ⟨default, default, [default], 0⟩
    1 ≤ 1 ∧ 1 ≤ 11 ∧ ([default, default] : List Digest).length = 2 ^ 1 ∧
    merkleRoot scheme [default, default] = .ok path.root ∧ path.verify scheme = true ∧
    (path.nodes.length = 1 →
      (path.index.toNat < 2 ^ 1 ∧ [default, default][path.index.toNat]? = some path.leaf ∧
          merklePath scheme [default, default] path.index.toNat = .ok path.nodes) ∨
        ∃ pair, pathCollision scheme [default, default] path = some pair ∧
          scheme.Collides pair) ∧
    (path.nodes.length ≠ 1 → ∀ (content : ByteArray) (contents : List ByteArray),
      path.leaf = scheme.leaf content → [default, default] = contents.map scheme.leaf →
        ∃ pair, heightCollision scheme contents content path = some pair ∧
          scheme.Collides pair) := by
  intro scheme path
  have rooted : merkleRoot scheme [default, default] = .ok path.root := rfl
  have verified : path.verify scheme = true := by decide
  exact ⟨by decide, by decide, rfl, rooted, verified,
    verified_path_binds scheme 1 [default, default] path (by decide) (by decide) rfl rooted
      verified⟩

end StripedMerkle
