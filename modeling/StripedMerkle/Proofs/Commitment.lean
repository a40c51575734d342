import StripedMerkle.Proofs.Stream
import StripedMerkle.Proofs.Binding

/-!
# The root binds the stream

Two different streams never feed the leaves alike: the feeds give back the length of the stream,
since the leaf it ends in has a short last chunk and the leaves after it have none, and then
every byte, as byte `64 w + k` of the feed of the leaf whose chunk of window `w` holds it. So two
closed trees with one root that took different streams have different leaf digests or the same
digests of different feeds, and in both cases the comparison of the two folds from the top down
finds two different inputs of the hash with one digest. As in `Proofs.Binding`, the collision is
computed from the two streams (`streamCollision`), not merely said to exist.

Main statement: `equal_roots_bind_streams`.
-/

namespace StripedMerkle

/-! ## The feeds determine the stream -/

theorem size_chunkOf (stream : ByteArray) (w i : Nat) :
    (chunkOf stream w i).size =
      min chunkSize (stream.size - (w * windowSize + i * chunkSize)) := by
  rw [chunkOf, ByteArray.size_extract]
  omega

theorem size_stripe {stream : ByteArray} {i windows : Nat} (inRange : i < leafCount)
    (whole : windows * windowSize ≤ stream.size) :
    (stripe stream i windows).size = windows * chunkSize := by
  induction windows with
  | zero => rfl
  | succ windows ih =>
    rw [Nat.add_mul] at whole
    rw [stripe_succ, ByteArray.size_append, ih (by omega), size_chunkOf]
    simp only [windowSize, leafCount, chunkSize] at *
    omega

/-- A prefix at least as long as the bytes is all of them. -/
theorem extract_self_of_size_le {bytes : ByteArray} {stop : Nat} (short : bytes.size ≤ stop) :
    bytes.extract 0 stop = bytes := by
  rw [@extract_eq_extract_of_min_eq bytes 0 stop bytes.size (by omega),
    ByteArray.extract_zero_size]

/-- Chunk `w` of a stripe is the chunk of window `w`: the windows before it are whole, so each
gave exactly one chunk. -/
theorem extract_stripe {stream : ByteArray} {i windows w : Nat} (inRange : i < leafCount)
    (before : w ≤ windows) (whole : windows * windowSize ≤ stream.size) :
    (stripe stream i (windows + 1)).extract (w * chunkSize) (w * chunkSize + chunkSize) =
      chunkOf stream w i := by
  induction windows with
  | zero =>
    obtain rfl : w = 0 := by omega
    rw [stripe_succ, stripe_zero, ByteArray.empty_append, Nat.zero_mul, Nat.zero_add]
    exact extract_self_of_size_le (by rw [size_chunkOf]; omega)
  | succ windows ih =>
    have earlier : windows * windowSize ≤ stream.size := by
      rw [Nat.add_mul] at whole
      omega
    rw [stripe_succ]
    by_cases last : w = windows + 1
    · -- the last chunk starts where the whole windows before it end
      subst last
      have passed : (stripe stream i (windows + 1)).extract ((windows + 1) * chunkSize)
          ((windows + 1) * chunkSize + chunkSize) = .empty := by
        rw [ByteArray.extract_eq_empty_iff, size_stripe inRange whole]
        omega
      rw [ByteArray.extract_append, passed, ByteArray.empty_append, size_stripe inRange whole,
        Nat.sub_self, Nat.add_sub_cancel_left]
      exact extract_self_of_size_le (by rw [size_chunkOf]; omega)
    · rw [extract_append_of_le (by rw [size_stripe inRange whole]; simp only [chunkSize]; omega)]
      exact ih (by omega) earlier

/-- Byte `offset` of a window lies in the chunk of a leaf. -/
theorem chunkIndex_lt (offset : Nat) : offset % windowSize / chunkSize < leafCount := by
  simp only [windowSize, leafCount, chunkSize]
  omega

theorem stripe_eq_of_leafFeeds_eq {stream stream' : ByteArray}
    (same : leafFeeds stream = leafFeeds stream') {i : Nat} (inRange : i < leafCount) :
    stripe stream i (stream.size / windowSize + 1) =
      stripe stream' i (stream'.size / windowSize + 1) := by
  have atLeaf := congrArg (·[i]?) same
  simpa [leafFeeds, inRange] using atLeaf

theorem size_leafFeed (stream : ByteArray) {i : Nat} (inRange : i < leafCount) :
    (stripe stream i (stream.size / windowSize + 1)).size =
      stream.size / windowSize * chunkSize +
        min chunkSize (stream.size - (stream.size / windowSize * windowSize + i * chunkSize)) := by
  rw [stripe_succ, ByteArray.size_append, size_stripe inRange (Nat.div_mul_le_self _ _),
    size_chunkOf]

/-- The feeds give the length of the stream: the leaf it ends in has a short last chunk, or the
leaves after it have none. -/
theorem size_eq_of_leafFeeds_eq {stream stream' : ByteArray}
    (same : leafFeeds stream = leafFeeds stream') : stream.size = stream'.size := by
  have sizeAt : ∀ i < leafCount, (stripe stream i (stream.size / windowSize + 1)).size =
      (stripe stream' i (stream'.size / windowSize + 1)).size := by
    intro i inRange
    rw [stripe_eq_of_leafFeeds_eq same inRange]
  -- compare the feeds of the leaves where each stream ends
  have ends := sizeAt _ (chunkIndex_lt stream.size)
  have ends' := sizeAt _ (chunkIndex_lt stream'.size)
  rw [size_leafFeed _ (chunkIndex_lt _), size_leafFeed _ (chunkIndex_lt _)] at ends ends'
  simp only [windowSize, leafCount, chunkSize] at ends ends'
  omega

/-- Every byte of a stream sits in the feed of one leaf. -/
theorem extract_one_of_stripe {stream : ByteArray} {position : Nat}
    (inside : position < stream.size) :
    stream.extract position (position + 1) =
      (stripe stream (position % windowSize / chunkSize) (stream.size / windowSize + 1)).extract
        (position / windowSize * chunkSize + position % chunkSize)
        (position / windowSize * chunkSize + position % chunkSize + 1) := by
  have chunk := @extract_stripe stream _ (stream.size / windowSize) (position / windowSize)
    (chunkIndex_lt position)
    (Nat.div_le_div_right (Nat.le_of_lt inside)) (Nat.div_mul_le_self _ _)
  calc stream.extract position (position + 1)
      = (chunkOf stream (position / windowSize) (position % windowSize / chunkSize)).extract
          (position % chunkSize) (position % chunkSize + 1) := by
        rw [chunkOf, ByteArray.extract_extract]
        simp only [windowSize, leafCount, chunkSize]
        congr 1 <;> omega
    _ = _ := by
        rw [← chunk, ByteArray.extract_extract]
        simp only [chunkSize]
        congr 1
        omega

/-- Different streams feed the leaves differently: trailing zero bytes, another length or another
last window all change some feed. -/
theorem leafFeeds_injective : Function.Injective leafFeeds := by
  intro stream stream' same
  have sizes := size_eq_of_leafFeeds_eq same
  apply ByteArray.ext_getElem sizes
  intro position inside inside'
  have bytes : stream.extract position (position + 1) =
      stream'.extract position (position + 1) := by
    rw [extract_one_of_stripe inside, extract_one_of_stripe inside',
      stripe_eq_of_leafFeeds_eq same (chunkIndex_lt position)]
  rw [ByteArray.extract_add_one inside, ByteArray.extract_add_one inside',
    List.toByteArray_inj, List.cons.injEq] at bytes
  exact bytes.1

/-! ## Collisions behind one root -/

/-- Compares two lists of leaf contents one by one: the first two that differ give the inputs of
their two leaf digests. -/
def feedCollision : List ByteArray → List ByteArray → Option (ByteArray × ByteArray)
  | feed :: feeds, feed' :: feeds' =>
      (Scheme.compareInputs (Scheme.leafInput feed) (Scheme.leafInput feed')).orElse fun _ =>
        feedCollision feeds feeds'
  | _, _ => none

/-- Contents of one count with the same leaf digests are equal; otherwise their comparison finds a
collision. -/
theorem feeds_bind (scheme : Scheme) :
    ∀ {feeds feeds' : List ByteArray}, feeds.length = feeds'.length →
      feeds.map scheme.leaf = feeds'.map scheme.leaf →
      (feedCollision feeds feeds' = none ∧ feeds = feeds') ∨
        ∃ pair, feedCollision feeds feeds' = some pair ∧ scheme.Collides pair
  | [], [], _, _ => .inl ⟨rfl, rfl⟩
  | feed :: feeds, feed' :: feeds', sameLength, same => by
      rw [List.map_cons, List.map_cons, List.cons.injEq, Scheme.leaf_eq_hash,
        Scheme.leaf_eq_hash] at same
      cases Scheme.compareInputs_of_hash_eq scheme same.1 with
      | inl equalHere =>
        have sameFeed := Scheme.leafInput_injective equalHere.2
        subst sameFeed
        cases feeds_bind scheme (by simpa using sameLength) same.2 with
        | inl equalRest =>
          exact .inl ⟨by simp [feedCollision, equalHere.1, equalRest.1], by rw [equalRest.2]⟩
        | inr found =>
          obtain ⟨pair, foundRest, collides⟩ := found
          exact .inr ⟨pair, by simp [feedCollision, equalHere.1, foundRest], collides⟩
      | inr found =>
        obtain ⟨pair, foundHere, collides⟩ := found
        exact .inr ⟨pair, by simp [feedCollision, foundHere], collides⟩
  | [], _ :: _, sameLength, _ | _ :: _, [], sameLength, _ => by simp at sameLength

/-- The collision behind two streams with one root: the comparison of the folds of their leaf
digests from the top down, and then of their leaf contents. -/
def streamCollision (scheme : Scheme) (stream stream' : ByteArray) :
    Option (ByteArray × ByteArray) :=
  match Levels.ofLeaves scheme ((leafFeeds stream).map scheme.leaf),
      Levels.ofLeaves scheme ((leafFeeds stream').map scheme.leaf) with
  | .ok levels, .ok levels' =>
      (Levels.foldCollision levels.below levels'.below).orElse fun _ =>
        feedCollision (leafFeeds stream) (leafFeeds stream')
  | _, _ => none

theorem streamCollision_of_fold {scheme : Scheme} {stream stream' : ByteArray}
    {levels levels' : Levels}
    (folds : Levels.ofLeaves scheme ((leafFeeds stream).map scheme.leaf) = .ok levels)
    (folds' : Levels.ofLeaves scheme ((leafFeeds stream').map scheme.leaf) = .ok levels') :
    streamCollision scheme stream stream' =
      (Levels.foldCollision levels.below levels'.below).orElse fun _ =>
        feedCollision (leafFeeds stream) (leafFeeds stream') := by
  unfold streamCollision
  rw [folds, folds']

theorem length_leafFeeds (stream : ByteArray) : (leafFeeds stream).length = leafCount := by
  simp [leafFeeds]

theorem leafFeeds_fold (scheme : Scheme) (stream : ByteArray) :
    ∃ levels, Levels.ofLeaves scheme ((leafFeeds stream).map scheme.leaf) = .ok levels := by
  have nonempty : (leafFeeds stream).map scheme.leaf ≠ [] := by
    rw [← List.length_pos_iff, List.length_map, length_leafFeeds]
    decide
  have small : ((leafFeeds stream).map scheme.leaf).length ≤ 2048 := by
    rw [List.length_map, length_leafFeeds]
    decide
  obtain ⟨levels, folds, -⟩ := Levels.ofLeaves_isOk scheme nonempty small
  exact ⟨levels, folds⟩

/-- Two fresh trees that took different streams, in any pieces and with any readings between
them, and were closed with one root: each has fed its leaves the stream's feeds, the feeds of
different streams differ, and a collision of the hash is found from the two streams. -/
theorem equal_roots_bind_streams (scheme : Scheme) {calls calls' : List Call}
    {replies replies' : List Reply} {tree tree' : Tree} {stream stream' : ByteArray}
    (noReload : ∀ call ∈ calls, ∀ readings, call ≠ .reload readings)
    (noReload' : ∀ call ∈ calls', ∀ readings, call ≠ .reload readings)
    (ran : Tree.empty.session scheme calls = (replies, tree))
    (ran' : Tree.empty.session scheme calls' = (replies', tree'))
    (taken : streamOf calls replies = stream) (taken' : streamOf calls' replies' = stream')
    (closed : tree.finalized = true) (closed' : tree'.finalized = true)
    (sameRoot : (tree.root scheme).map Prod.fst = (tree'.root scheme).map Prod.fst)
    (different : stream ≠ stream') :
    tree.leaves.toList = leafFeeds stream ∧ tree'.leaves.toList = leafFeeds stream' ∧
      Function.Injective leafFeeds ∧
      ∃ pair, streamCollision scheme stream stream' = some pair ∧ scheme.Collides pair := by
  have holds : Streamed scheme stream tree := taken ▸ Streamed.of_session noReload ran
  have holds' : Streamed scheme stream' tree' := taken' ▸ Streamed.of_session noReload' ran'
  refine ⟨holds.leaves_of_closed closed, holds'.leaves_of_closed closed', leafFeeds_injective, ?_⟩
  obtain ⟨levels, folds⟩ := leafFeeds_fold scheme stream
  obtain ⟨levels', folds'⟩ := leafFeeds_fold scheme stream'
  -- both roots are the roots of the folds of the streams' leaf digests
  have sameTop : levels.root = levels'.root := by
    rw [holds.root_of_closed closed, holds.leafDigests_of_closed closed,
      merkleRoot_of_ofLeaves folds, holds'.root_of_closed closed',
      holds'.leafDigests_of_closed closed', merkleRoot_of_ofLeaves folds'] at sameRoot
    injection sameRoot
  have climbs := ((Levels.ofLeaves_eq_ok_iff scheme _ levels).mp folds).2
  have climbs' := ((Levels.ofLeaves_eq_ok_iff scheme _ levels').mp folds').2
  have sameLength : ((leafFeeds stream).map scheme.leaf).length =
      ((leafFeeds stream').map scheme.leaf).length := by
    simp [length_leafFeeds]
  cases Levels.climb_binds_level scheme climbs climbs' sameLength sameTop with
  | inl equalDigests =>
    -- the folds agree all the way down, so the leaf inputs carry the collision
    cases feeds_bind scheme (by simp [length_leafFeeds]) equalDigests.2 with
    | inl equalFeeds => exact absurd (leafFeeds_injective equalFeeds.2) different
    | inr found =>
      obtain ⟨pair, foundLeaves, collides⟩ := found
      refine ⟨pair, ?_, collides⟩
      rw [streamCollision_of_fold folds folds', equalDigests.1, Option.orElse_none, foundLeaves]
  | inr found =>
    obtain ⟨pair, foundAbove, collides⟩ := found
    refine ⟨pair, ?_, collides⟩
    rw [streamCollision_of_fold folds folds', foundAbove, Option.orElse_some]

/-- With a constant hash every closed tree has one root: a stream of one byte against the empty
stream. -/
theorem equal_roots_bind_streams_constant_hash :
    let scheme : Scheme := ⟨fun _ => default⟩
    let calls := [Call.finalize]
    let calls' := [Call.write (ByteArray.mk #[0]), .finalize]
    let run := Tree.empty.session scheme calls
    let run' := Tree.empty.session scheme calls'
    (∀ call ∈ calls, ∀ readings, call ≠ .reload readings) ∧
    (∀ call ∈ calls', ∀ readings, call ≠ .reload readings) ∧
    streamOf calls run.1 = .empty ∧ streamOf calls' run'.1 = ByteArray.mk #[0] ∧
    run.2.finalized = true ∧ run'.2.finalized = true ∧
    (run.2.root scheme).map Prod.fst = (run'.2.root scheme).map Prod.fst ∧
    ByteArray.empty ≠ ByteArray.mk #[0] ∧
    run.2.leaves.toList = leafFeeds .empty ∧ run'.2.leaves.toList = leafFeeds (ByteArray.mk #[0]) ∧
    Function.Injective leafFeeds ∧
      ∃ pair, streamCollision scheme .empty (ByteArray.mk #[0]) = some pair ∧
        scheme.Collides pair := by
  intro scheme calls calls' run run'
  have noReload : ∀ call ∈ calls, ∀ readings, call ≠ .reload readings := by simp [calls]
  have noReload' : ∀ call ∈ calls', ∀ readings, call ≠ .reload readings := by simp [calls']
  obtain ⟨written, wrote, -⟩ := ((Streamed.empty scheme).write (ByteArray.mk #[0])).resolve_left
    (fun refused => by cases refused.1)
  have first : Tree.empty.call scheme (.write (ByteArray.mk #[0])) = (.accepted 1, written) := by
    simp only [Tree.call, wrote]
    rfl
  have ranWrite : run' = ([.accepted 1, (written.call scheme .finalize).1],
      (written.call scheme .finalize).2) := by
    simp only [run', calls', Tree.session, first]
  have taken : streamOf calls run.1 = .empty := rfl
  have taken' : streamOf calls' run'.1 = ByteArray.mk #[0] := by
    simp [ranWrite, calls', streamOf, Call.appended]
  have closed : run.2.finalized = true := rfl
  have closed' : run'.2.finalized = true := by
    rw [ranWrite]
    exact Tree.finalized_call_finalize scheme written
  -- with a constant hash the leaf digests, and so the roots, do not depend on the stream
  have sameRoot : (run.2.root scheme).map Prod.fst = (run'.2.root scheme).map Prod.fst := by
    have holds : Streamed scheme (streamOf calls run.1) run.2 := Streamed.of_session noReload rfl
    have holds' : Streamed scheme (streamOf calls' run'.1) run'.2 :=
      Streamed.of_session noReload' rfl
    rw [holds.root_of_closed closed, holds.leafDigests_of_closed closed,
      holds'.root_of_closed closed', holds'.leafDigests_of_closed closed']
    have constant : ∀ content, scheme.leaf content = default := fun _ => rfl
    simp only [leafFeeds, List.map_map, Function.comp_def, constant]
  have different : ByteArray.empty ≠ ByteArray.mk #[0] := by decide
  exact ⟨noReload, noReload', taken, taken', closed, closed', sameRoot, different,
    equal_roots_bind_streams scheme noReload noReload' rfl rfl taken taken' closed closed' sameRoot
      different⟩

end StripedMerkle
