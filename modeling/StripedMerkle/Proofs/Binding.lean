import StripedMerkle.Proofs.Fold

/-!
# Binding, up to collisions of the hash

A hash from byte strings to 32-byte digests is never injective, so binding is stated as a
reduction: when two different things have one root, a computable search over them finds two
different byte strings with one digest. Leaves and parents are hashed under different one-byte
tags, so a leaf digest met where the fold has a parent, or a parent where it has a leaf, gives a
collision as well.

## Main results

* `Levels.climb_binds`: a climb with one partner per level that replays from an index of a level
  to the root of its fold starts at the digest at that index and uses the fold's own path, or the
  search finds a collision along it.
* `Levels.climb_binds_level`: two levels of one length whose folds have one root are equal, or the
  search finds a collision between them.
-/

namespace StripedMerkle

namespace Scheme

/-- The bytes a parent's digest is the hash of. -/
def nodeInput (left right : Digest) : ByteArray :=
  ByteArray.mk #[nodeTag] ++ left.toByteArray ++ right.toByteArray

/-- The bytes the digest of a leaf fed `content` is the hash of. -/
def leafInput (content : ByteArray) : ByteArray :=
  ByteArray.mk #[leafTag] ++ content

/-- Two different byte strings with one digest. -/
def Collides (scheme : Scheme) (pair : ByteArray × ByteArray) : Prop :=
  pair.1 ≠ pair.2 ∧ scheme.hash pair.1 = scheme.hash pair.2

/-- A pair of inputs, kept when the inputs differ. The bytes are compared as arrays. -/
def compareInputs (claimed genuine : ByteArray) : Option (ByteArray × ByteArray) :=
  if claimed.data = genuine.data then none else some (claimed, genuine)

theorem node_eq_hash (scheme : Scheme) (left right : Digest) :
    scheme.node left right = scheme.hash (nodeInput left right) := rfl

theorem leaf_eq_hash (scheme : Scheme) (content : ByteArray) :
    scheme.leaf content = scheme.hash (leafInput content) := rfl

/-- The input of a parent gives back both children. -/
theorem nodeInput_injective {left right left' right' : Digest}
    (equal : nodeInput left right = nodeInput left' right') : left = left' ∧ right = right' := by
  have tagged : (ByteArray.mk #[nodeTag] ++ left.toByteArray).size =
      (ByteArray.mk #[nodeTag] ++ left'.toByteArray).size := by
    simp
  obtain ⟨leftEqual, rightEqual⟩ :=
    (ByteArray.append_eq_append_iff_of_size_eq_left tagged).mp equal
  rw [ByteArray.append_right_inj] at leftEqual
  exact ⟨Digest.toByteArray_injective leftEqual, Digest.toByteArray_injective rightEqual⟩

/-- The input of a leaf gives back its content. -/
theorem leafInput_injective {content content' : ByteArray}
    (equal : leafInput content = leafInput content') : content = content' :=
  (ByteArray.append_right_inj _).mp equal

/-- The tags keep the input of a leaf apart from the input of a parent. -/
theorem leafInput_ne_nodeInput (content : ByteArray) (left right : Digest) :
    leafInput content ≠ nodeInput left right := by
  intro equal
  rw [nodeInput, ByteArray.append_assoc] at equal
  have tags := ((ByteArray.append_eq_append_iff_of_size_eq_left (by rfl)).mp equal).1
  simp [leafTag, nodeTag] at tags

/-- Two inputs with one digest are equal, or the comparison keeps them as a collision. -/
theorem compareInputs_of_hash_eq (scheme : Scheme) {claimed genuine : ByteArray}
    (same : scheme.hash claimed = scheme.hash genuine) :
    (compareInputs claimed genuine = none ∧ claimed = genuine) ∨
      ∃ pair, compareInputs claimed genuine = some pair ∧ scheme.Collides pair := by
  by_cases equal : claimed = genuine
  · exact .inl ⟨by simp [compareInputs, equal], equal⟩
  · exact .inr ⟨(claimed, genuine), by simp [compareInputs, ← ByteArray.ext_iff, equal], equal,
      same⟩

/-- Inputs that differ are kept. -/
theorem compareInputs_of_ne {claimed genuine : ByteArray} (different : claimed ≠ genuine) :
    compareInputs claimed genuine = some (claimed, genuine) := by
  simp [compareInputs, ← ByteArray.ext_iff, different]

end Scheme

/-- The bytes the join of a digest at `position` with its partner is the hash of. -/
def joinInput (current partner : Digest) (position : Nat) : ByteArray :=
  if position % 2 = 0 then Scheme.nodeInput current partner
  else Scheme.nodeInput partner current

theorem join_eq_hash (scheme : Scheme) (current partner : Digest) (position : Nat) :
    join scheme.node current partner position =
      scheme.hash (joinInput current partner position) := by
  unfold join joinInput
  split <;> rfl

/-- The input of a join at a position gives back the digest and its partner. -/
theorem joinInput_injective {current partner current' partner' : Digest} {position : Nat}
    (equal : joinInput current partner position = joinInput current' partner' position) :
    current = current' ∧ partner = partner' := by
  unfold joinInput at equal
  split at equal
  · exact Scheme.nodeInput_injective equal
  · exact (Scheme.nodeInput_injective equal).symm

/-- Two joins at one position with one digest: the same digest and partner, or a collision
between their inputs. -/
theorem join_binds (scheme : Scheme) {current partner current' partner' : Digest}
    {position : Nat}
    (same : join scheme.node current partner position =
      join scheme.node current' partner' position) :
    (Scheme.compareInputs (joinInput current partner position)
        (joinInput current' partner' position) = none ∧ current = current' ∧
        partner = partner') ∨
      ∃ pair, Scheme.compareInputs (joinInput current partner position)
        (joinInput current' partner' position) = some pair ∧ scheme.Collides pair := by
  rw [join_eq_hash, join_eq_hash] at same
  obtain ⟨none, equal⟩ | found := Scheme.compareInputs_of_hash_eq scheme same
  · exact .inl ⟨none, joinInput_injective equal⟩
  · exact .inr found

namespace Levels

/-- Compares a claimed climb with the fold's own, from the top down: the highest level where the
claimed join has other inputs than the fold's gives the two inputs. -/
def climbCollision (scheme : Scheme) :
    List (List Digest) → Digest → Nat → List Digest → Option (ByteArray × ByteArray)
  | level :: above, current, index, sibling :: rest =>
      (climbCollision scheme above (join scheme.node current sibling index) (index / 2) rest).orElse
        fun _ => Scheme.compareInputs (joinInput current sibling index)
          (joinInput (level.getD index default) (partner level index) index)
  | _, _, _, _ => none

/-- A climb with one partner per level that replays from an index of a level to the root of its
fold starts at the digest at that index and uses the fold's path; otherwise the comparison of the
two climbs finds a collision. -/
theorem climb_binds (scheme : Scheme) {rounds : Nat} {level : List Digest} {levels : Levels}
    (climbs : climb scheme.node rounds level = some levels) {index : Nat}
    (inRange : index < level.length) {current : Digest} {nodes : List Digest}
    (sameLength : nodes.length = levels.below.length)
    (reaches : Path.replay scheme current index nodes = levels.root) :
    (climbCollision scheme levels.below current index nodes = none ∧
        current = level[index] ∧ nodes = pathFrom levels.below index) ∨
      ∃ pair, climbCollision scheme levels.below current index nodes = some pair ∧
        scheme.Collides pair := by
  induction rounds generalizing level levels index current nodes with
  | zero => simp [climb] at climbs
  | succ rest ih =>
      have parent := getElem?_pairUp scheme.node level index inRange
      have lookup : level[index]?.getD default = level[index] := by
        rw [List.getElem?_eq_getElem inRange, Option.getD_some]
      obtain ⟨previous, same, ⟨parents, below⟩ | ⟨several, above, climbsAbove, below, root⟩⟩ :=
        climb_eq_some climbs
      all_goals obtain rfl : previous = rest := by omega
      · -- one round: the claimed join is compared with the root's
        obtain ⟨sibling, rfl⟩ : ∃ sibling, nodes = [sibling] := by
          rw [below, List.length_singleton] at sameLength
          exact List.length_eq_one_iff.mp sameLength
        have first : index / 2 = 0 := by
          have := congrArg List.length parents
          simp only [length_pairUp, List.length_singleton] at this
          omega
        rw [parents, first, List.getElem?_cons_zero, Option.some.injEq] at parent
        rw [Path.replay_cons, Path.replay_nil, parent] at reaches
        obtain ⟨unchanged, rfl, rfl⟩ | ⟨pair, found, collides⟩ := join_binds scheme reaches
        · exact .inl ⟨by simp [below, climbCollision, lookup, unchanged], rfl, by simp [below]⟩
        · exact .inr ⟨pair, by simp [below, climbCollision, lookup, found], collides⟩
      · -- several rounds: the levels above are compared first
        obtain ⟨sibling, upper, rfl⟩ : ∃ sibling upper, nodes = sibling :: upper := by
          rw [below, List.length_cons] at sameLength
          exact List.exists_cons_of_length_eq_add_one sameLength
        have parentInRange : index / 2 < (pairUp scheme.node level).length := by
          rw [length_pairUp]
          omega
        have joined : join scheme.node level[index] (partner level index) index =
            (pairUp scheme.node level)[index / 2] := by
          rw [List.getElem?_eq_getElem parentInRange, Option.some.injEq] at parent
          exact parent.symm
        rw [Path.replay_cons, root] at reaches
        have upperLength : upper.length = above.below.length := by
          simpa [below] using sameLength
        obtain ⟨unchangedAbove, atParent, path⟩ | ⟨pair, found, collides⟩ :=
          ih climbsAbove parentInRange upperLength reaches
        · rw [← joined] at atParent
          obtain ⟨unchanged, rfl, rfl⟩ | ⟨pair, found, collides⟩ := join_binds scheme atParent
          · exact .inl ⟨by simp [below, climbCollision, lookup, unchangedAbove, unchanged], rfl,
              by simp [below, path]⟩
          · exact .inr ⟨pair, by simp [below, climbCollision, lookup, unchangedAbove, found],
              collides⟩
        · exact .inr ⟨pair, by simp [below, climbCollision, found], collides⟩

/-- Compares two levels of one length pair by pair: the first two consecutive digests that differ
give the inputs of their two parents. -/
def pairCollision : List Digest → List Digest → Option (ByteArray × ByteArray)
  | left :: right :: rest, left' :: right' :: rest' =>
      (Scheme.compareInputs (Scheme.nodeInput left right) (Scheme.nodeInput left' right')).orElse
        fun _ => pairCollision rest rest'
  | [last], [last'] =>
      Scheme.compareInputs (Scheme.nodeInput last last) (Scheme.nodeInput last' last')
  | _, _ => none

/-- Two levels of one length with the same parents are equal; otherwise the comparison of their
pairs finds a collision. -/
theorem pairUp_binds (scheme : Scheme) :
    ∀ {level level' : List Digest}, level.length = level'.length →
      pairUp scheme.node level = pairUp scheme.node level' →
      (pairCollision level level' = none ∧ level = level') ∨
        ∃ pair, pairCollision level level' = some pair ∧ scheme.Collides pair
  | [], [], _, _ => .inl ⟨rfl, rfl⟩
  | [last], [last'], _, same => by
      rw [pairUp_singleton, pairUp_singleton, List.cons.injEq, Scheme.node_eq_hash,
        Scheme.node_eq_hash] at same
      obtain ⟨unchanged, equal⟩ | found := Scheme.compareInputs_of_hash_eq scheme same.1
      · exact .inl ⟨unchanged, by rw [(Scheme.nodeInput_injective equal).1]⟩
      · exact .inr found
  | left :: right :: rest, left' :: right' :: rest', sameLength, same => by
      rw [pairUp_cons_cons, pairUp_cons_cons, List.cons.injEq, Scheme.node_eq_hash,
        Scheme.node_eq_hash] at same
      obtain ⟨unchanged, equal⟩ | ⟨pair, found, collides⟩ :=
        Scheme.compareInputs_of_hash_eq scheme same.1
      · obtain ⟨rfl, rfl⟩ := Scheme.nodeInput_injective equal
        obtain ⟨unchangedRest, rfl⟩ | ⟨pair, found, collides⟩ :=
          pairUp_binds scheme (by simpa using sameLength) same.2
        · exact .inl ⟨by simp [pairCollision, unchanged, unchangedRest], rfl⟩
        · exact .inr ⟨pair, by simp [pairCollision, unchanged, found], collides⟩
      · exact .inr ⟨pair, by simp [pairCollision, found], collides⟩
  | [], _ :: _, sameLength, _ | _ :: _, [], sameLength, _
  | [_], _ :: _ :: _, sameLength, _ | _ :: _ :: _, [_], sameLength, _ => by
      simp at sameLength

/-- Compares the folds of two levels from the top down: the highest pair of levels that differ
gives a collision. -/
def foldCollision : List (List Digest) → List (List Digest) → Option (ByteArray × ByteArray)
  | level :: above, level' :: above' =>
      (foldCollision above above').orElse fun _ => pairCollision level level'
  | _, _ => none

/-- Two levels of one length whose folds reach one root are equal; otherwise the comparison of
the two folds finds a collision. -/
theorem climb_binds_level (scheme : Scheme) {rounds : Nat} {level level' : List Digest}
    {levels levels' : Levels} (climbs : climb scheme.node rounds level = some levels)
    (climbs' : climb scheme.node rounds level' = some levels')
    (sameLength : level.length = level'.length) (sameRoot : levels.root = levels'.root) :
    (foldCollision levels.below levels'.below = none ∧ level = level') ∨
      ∃ pair, foldCollision levels.below levels'.below = some pair ∧ scheme.Collides pair := by
  induction rounds generalizing level level' levels levels' with
  | zero => simp [climb] at climbs
  | succ rest ih =>
      have parentsLength : (pairUp scheme.node level).length =
          (pairUp scheme.node level').length := by
        simp [sameLength]
      obtain ⟨previous, same, ⟨parents, below⟩ | ⟨several, above, climbsAbove, below, root⟩⟩ :=
        climb_eq_some climbs
      all_goals obtain rfl : previous = rest := by omega
      all_goals
        obtain ⟨previous', same', ⟨parents', below'⟩ |
            ⟨several', above', climbsAbove', below', root'⟩⟩ := climb_eq_some climbs'
      all_goals obtain rfl : previous' = previous := by omega
      · -- one round each: the single parents are the roots
        have sameParents : pairUp scheme.node level = pairUp scheme.node level' := by
          rw [parents, parents', sameRoot]
        obtain ⟨unchanged, rfl⟩ | ⟨pair, found, collides⟩ :=
          pairUp_binds scheme sameLength sameParents
        · exact .inl ⟨by simp [below, below', foldCollision, unchanged], rfl⟩
        · exact .inr ⟨pair, by simp [below, below', foldCollision, found], collides⟩
      · rw [parents] at parentsLength
        exact absurd parentsLength.symm (by simpa using several')
      · rw [parents'] at parentsLength
        exact absurd parentsLength (by simpa using several)
      · -- several rounds each: the folds of the parents are compared first
        obtain ⟨unchangedAbove, sameParents⟩ | ⟨pair, found, collides⟩ :=
          ih climbsAbove climbsAbove' parentsLength (by rw [← root, ← root', sameRoot])
        · obtain ⟨unchanged, rfl⟩ | ⟨pair, found, collides⟩ :=
            pairUp_binds scheme sameLength sameParents
          · exact .inl ⟨by simp [below, below', foldCollision, unchangedAbove, unchanged], rfl⟩
          · exact .inr ⟨pair, by simp [below, below', foldCollision, unchangedAbove, found],
              collides⟩
        · exact .inr ⟨pair, by simp [below, below', foldCollision, found], collides⟩

end Levels

end StripedMerkle
