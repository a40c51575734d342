import StripedMerkle.Proofs.Cache

/-!
# Reloading takes the stream again

A reload empties the leaves and the stage of an open tree and writes what a source gives, a window
at a time. The window being read and the tree together always hold the bytes read so far: the
tree has taken the windows written, and the window holds what follows them
(`Streamed.fill`, `Streamed.refill`). A source that gives a stream in non-empty pieces and then
ends therefore leaves an open tree that took exactly that stream, whatever the pieces, and
whatever the tree held before, as long as it kept no fold, which no open tree of a session
does. Closing it gives the tree that one write of the stream to a fresh tree and a finalization
give (`Streamed.eq_of_finalized`).

Main statement: `reload_rebuilds_commitment`.
-/

namespace StripedMerkle

/-! ## Whole windows of a byte string -/

/-- Chunk `i` of the window `w` cut out of a byte string is chunk `i` of its window `w`. -/
theorem extract_window (bytes : ByteArray) (w : Nat) {i : Nat} (inRange : i < leafCount) :
    (Tree.window bytes w).extract (i * chunkSize) (i * chunkSize + chunkSize) =
      chunkOf bytes w i := by
  rw [Tree.window, ByteArray.extract_extract, chunkOf, Nat.add_assoc (w * windowSize)]
  apply extract_eq_extract_of_min_eq
  simp only [windowSize, leafCount, chunkSize] at *
  omega

/-- Handing the first `n` windows of a byte string to the leaves, in order, feeds each leaf its
stripe of them. -/
theorem getElem_foldl_dispatch (bytes : ByteArray) (leaves : Vector ByteArray leafCount)
    (n : Nat) {i : Nat} (inRange : i < leafCount) :
    ((List.range n).foldl (fun leaves w => Tree.dispatch leaves (Tree.window bytes w)) leaves)[i] =
      leaves[i] ++ stripe bytes i n := by
  induction n with
  | zero => simp
  | succ n ih =>
    rw [List.range_succ, List.foldl_append, List.foldl_cons, List.foldl_nil,
      getElem_dispatch _ _ inRange, ih, extract_window bytes n inRange, stripe_succ,
      ByteArray.append_assoc]

/-- Chunk `i` of window `w` of what follows the first `windows` windows. -/
theorem chunkOf_rest (stream : ByteArray) (windows w i : Nat) :
    chunkOf (stream.extract (windows * windowSize) stream.size) w i =
      chunkOf stream (windows + w) i := by
  unfold chunkOf
  have start : windows * windowSize + (w * windowSize + i * chunkSize) =
      (windows + w) * windowSize + i * chunkSize := by
    rw [Nat.add_mul, Nat.add_assoc]
  rw [ByteArray.extract_extract, start]
  apply extract_eq_extract_of_min_eq
  rw [Nat.add_mul] at *
  omega

/-- A stripe over more windows is the stripe over the first ones and then the stripe of what
follows them. -/
theorem stripe_add (stream : ByteArray) (i windows more : Nat) :
    stripe stream i (windows + more) =
      stripe stream i windows ++
        stripe (stream.extract (windows * windowSize) stream.size) i more := by
  induction more with
  | zero => simp
  | succ more ih =>
    rw [← Nat.add_assoc, stripe_succ, ih, stripe_succ, ByteArray.append_assoc, chunkOf_rest]

/-- What follows `start`, cut again after `more` of its bytes. -/
theorem extract_extract_rest (stream : ByteArray) {start : Nat} (more : Nat)
    (before : start ≤ stream.size) :
    (stream.extract start stream.size).extract more (stream.extract start stream.size).size =
      stream.extract (start + more) stream.size := by
  rw [ByteArray.extract_extract]
  apply extract_eq_extract_of_min_eq
  rw [ByteArray.size_extract]
  omega

namespace Streamed

variable {scheme : Scheme} {stream : ByteArray} {tree : Tree}

/-! ## Staging, filling and refilling -/

/-- Bytes staged in one step on an open tree: the whole windows of the stage and the bytes go to
the leaves, and what follows them is staged. -/
theorem stageBytes (holds : Streamed scheme stream tree) (isOpen : tree.finalized = false)
    (data : ByteArray) : Streamed scheme (stream ++ data) (tree.stageBytes data) := by
  have whole : stream.size / windowSize * windowSize ≤ stream.size := Nat.div_mul_le_self _ _
  -- the stage and the data are what follows the whole windows of the stream
  have staged : tree.stage ++ data = (stream ++ data).extract
      (stream.size / windowSize * windowSize) (stream ++ data).size := by
    rw [holds.stage_of_open isOpen, extract_append_rest data whole]
  have windows : (stream ++ data).size / windowSize =
      stream.size / windowSize + (tree.stage ++ data).size / windowSize := by
    rw [ByteArray.size_append, ByteArray.size_append, holds.size_stage_of_open isOpen]
    simp only [windowSize_eq]
    omega
  constructor
  · show (tree.stage ++ data).extract ((tree.stage ++ data).size / windowSize * windowSize)
      (tree.stage ++ data).size = if tree.finalized then _ else _
    rw [isOpen, if_neg Bool.false_ne_true, windows, Nat.add_mul]
    conv => lhs; rw [staged]
    rw [extract_extract_rest _ _ (by rw [ByteArray.size_append]; omega), ← staged]
  · intro i inRange
    have stillOpen : (tree.stageBytes data).finalized = false := isOpen
    show ((List.range ((tree.stage ++ data).size / windowSize)).foldl _ tree.leaves)[i] = _
    rw [getElem_foldl_dispatch _ _ _ inRange, holds.leaves_of_open isOpen i inRange, stillOpen,
      if_neg Bool.false_ne_true, Nat.add_zero, windows, stripe_add, ← staged,
      stripe_append inRange whole]
  · exact holds.cache_eq_of_open isOpen rfl

/-- Reading from a chunk: the tree and the window being read hold what the tree took before, the
window before, and the chunk from `offset` on. -/
theorem fill (holds : Streamed scheme stream tree) (isOpen : tree.finalized = false)
    (window : OpenWindow) (chunk : ByteArray) (offset : Nat) :
    ∃ taken, Streamed scheme taken (tree.fill window chunk offset).1 ∧
      (tree.fill window chunk offset).1.finalized = false ∧
      taken ++ (tree.fill window chunk offset).2.val =
        stream ++ window.val ++ chunk.extract offset chunk.size := by
  fun_induction tree.fill window chunk offset generalizing stream with
  | case1 tree window offset fits =>
    exact ⟨stream, holds, isOpen, ByteArray.append_assoc.symm⟩
  | case2 tree window offset room full =>
    -- the window became whole and was written; reading goes on from an empty window
    rename_i ih
    obtain ⟨taken, after, stillOpen, joined⟩ := ih (holds.stageBytes isOpen _) isOpen
    refine ⟨taken, after, stillOpen, ?_⟩
    have within : offset + room ≤ chunk.size := by
      have := window.property
      omega
    rw [joined, show Tree.emptyWindow.val = .empty from rfl, ByteArray.append_empty,
      ← ByteArray.append_assoc, append_extract_append_extract _ _ (by omega) within]

/-- Reading non-empty pieces to the end of the source: the tree ends up having taken what it took
before, the window being read, and every piece, and stays open. -/
theorem refill (holds : Streamed scheme stream tree) (isOpen : tree.finalized = false)
    (window : OpenWindow) (pieces : List ByteArray)
    (nonempty : ∀ piece ∈ pieces, 0 < piece.size) :
    ∃ reloaded, tree.refill window (pieces.map .bytes) = (reloaded, .ok ()) ∧
      reloaded.finalized = false ∧
      Streamed scheme (stream ++ window.val ++ pieces.foldr (· ++ ·) .empty) reloaded := by
  induction pieces generalizing stream tree window with
  | nil =>
    by_cases nothing : window.val.size = 0
    · refine ⟨tree, by simp [Tree.refill, nothing], isOpen, ?_⟩
      rw [ByteArray.size_eq_zero_iff.mp nothing]
      simpa using holds
    · exact ⟨tree.stageBytes window.val, by simp [Tree.refill, nothing], isOpen,
        by simpa using holds.stageBytes isOpen window.val⟩
  | cons piece pieces ih =>
    have something : piece.size ≠ 0 := (nonempty piece List.mem_cons_self).ne'
    obtain ⟨taken, filled, stillOpen, joined⟩ := holds.fill isOpen window piece 0
    obtain ⟨reloaded, refills, reloadedOpen, after⟩ := ih filled stillOpen _
      fun other mem => nonempty other (List.mem_cons_of_mem piece mem)
    refine ⟨reloaded, by simpa [Tree.refill, something] using refills, reloadedOpen, ?_⟩
    rw [joined, ByteArray.extract_zero_size] at after
    simpa [ByteArray.append_assoc] using after

/-- Emptying the leaves and the stage of an open tree that keeps no fold starts its stream
again. -/
theorem reset (isOpen : tree.finalized = false) (empty : tree.cache = none) :
    Streamed scheme .empty
      { tree with leaves := Tree.freshLeaves, stage := .empty, stage_le := Nat.zero_le _ } where
  stage_eq := by simp [isOpen]
  leaves_eq i inRange := by simp [Tree.freshLeaves, isOpen]
  cache_eq levels kept := by simp [empty] at kept

/-- Closing a tree that took a stream: it succeeds, keeps the kept fold, and the closed tree took
the same stream. -/
theorem finalize_of_open (holds : Streamed scheme stream tree) (isOpen : tree.finalized = false) :
    ∃ closed, tree.finalize = (closed, .ok ()) ∧ Streamed scheme stream closed ∧
      closed.finalized = true ∧ closed.cache = tree.cache := by
  obtain ⟨closed, finalizes, closedFlag, kept⟩ := Tree.finalize_of_open isOpen
  rcases holds.finalize with ⟨refused, -⟩ | ⟨closed', finalizes', after⟩
  · simp [isOpen] at refused
  · obtain ⟨rfl, -⟩ := Prod.mk.inj (finalizes.symm.trans finalizes')
    exact ⟨closed, finalizes, after, closedFlag, kept⟩

/-- Two closed trees that took one stream and keep the same fold are one tree. -/
theorem eq_of_finalized {other : Tree} (holds : Streamed scheme stream tree)
    (holds' : Streamed scheme stream other) (closed : tree.finalized = true)
    (closed' : other.finalized = true) (cache : tree.cache = other.cache) : tree = other := by
  have leaves : tree.leaves = other.leaves := by
    apply Vector.ext
    intro i inRange
    rw [holds.leaves_eq i inRange, holds'.leaves_eq i inRange, closed, closed']
  have stage : tree.stage = other.stage := by
    rw [holds.stage_eq, holds'.stage_eq, closed, closed']
  cases tree
  cases other
  simp_all

end Streamed

namespace Tree

/-- A source that gives a stream in non-empty pieces and then ends reloads an open tree that keeps
no fold into an open tree that took exactly that stream. -/
theorem reload_pieces {scheme : Scheme} {tree : Tree} (isOpen : tree.finalized = false)
    (empty : tree.cache = none) (pieces : List ByteArray)
    (nonempty : ∀ piece ∈ pieces, 0 < piece.size) :
    ∃ reloaded, tree.reload (pieces.map .bytes) = (reloaded, .ok ()) ∧
      reloaded.finalized = false ∧ reloaded.cache = none ∧
      Streamed scheme (pieces.foldr (· ++ ·) .empty) reloaded := by
  obtain ⟨reloaded, refills, reloadedOpen, after⟩ :=
    (@Streamed.reset scheme tree isOpen empty).refill isOpen emptyWindow pieces nonempty
  have reloads : tree.reload (pieces.map .bytes) = (reloaded, .ok ()) := by
    simpa [reload, isOpen] using refills
  have kept := (reload_of_open isOpen (pieces.map .bytes)).2
  rw [reloads] at kept
  refine ⟨reloaded, reloads, reloadedOpen, kept.trans empty, ?_⟩
  simpa [show emptyWindow.val = .empty from rfl] using after

/-- The tree that one write of a stream to a fresh tree and a finalization give: it took the
stream, is closed, and keeps no fold. -/
theorem streamed_write_finalize (scheme : Scheme) (stream : ByteArray) :
    Streamed scheme stream ((Tree.empty.write stream).1.finalize).1 ∧
      ((Tree.empty.write stream).1.finalize).1.finalized = true ∧
      ((Tree.empty.write stream).1.finalize).1.cache = none := by
  obtain ⟨written, writes, stillOpen, kept⟩ := @write_of_open Tree.empty rfl stream
  rcases (Streamed.empty scheme).write stream with ⟨refused, -⟩ | ⟨written', writes', after⟩
  · cases refused
  · obtain ⟨rfl, -⟩ := Prod.mk.inj (writes.symm.trans writes')
    rw [ByteArray.empty_append] at after
    obtain ⟨closed, finalizes, holds, closedFlag, closedCache⟩ :=
      after.finalize_of_open stillOpen
    rw [writes, finalizes]
    exact ⟨holds, closedFlag, closedCache.trans kept⟩

/-- Reloading an open tree that keeps no fold from a source that gives a stream in non-empty
pieces, then closing it, gives the tree of one write of the stream to a fresh tree. -/
theorem finalize_reload {scheme : Scheme} {tree : Tree} (isOpen : tree.finalized = false)
    (empty : tree.cache = none) (pieces : List ByteArray)
    (nonempty : ∀ piece ∈ pieces, 0 < piece.size) :
    ∃ reloaded, tree.reload (pieces.map .bytes) = (reloaded, .ok ()) ∧
      reloaded.finalized = false ∧
      reloaded.finalize =
        (((Tree.empty.write (pieces.foldr (· ++ ·) .empty)).1.finalize).1, .ok ()) := by
  obtain ⟨reloaded, reloads, reloadedOpen, reloadedCache, holds⟩ :=
    @reload_pieces scheme _ isOpen empty pieces nonempty
  obtain ⟨closed, finalizes, closedHolds, closedFlag, closedCache⟩ :=
    holds.finalize_of_open reloadedOpen
  obtain ⟨freshHolds, freshFlag, freshCache⟩ :=
    streamed_write_finalize scheme (pieces.foldr (· ++ ·) .empty)
  refine ⟨reloaded, reloads, reloadedOpen, ?_⟩
  rw [finalizes, closedHolds.eq_of_finalized freshHolds closedFlag freshFlag
    (by rw [closedCache, reloadedCache, freshCache])]

end Tree

/-- Reloading rebuilds the commitment of the stream. Take any open tree a session of a fresh tree
leaves, whatever it wrote, staged or failed to reload before, and a source that gives a stream
in non-empty pieces of any sizes and then ends: the reload succeeds and leaves the tree open, and
closing it gives exactly the tree, with its leaf digests and root, of one write of the stream to a
fresh tree and a finalization. The closed tree of everything the source gives is that tree too. -/
theorem reload_rebuilds_commitment (scheme : Scheme) (earlier : List Call)
    (isOpen : (Tree.empty.session scheme earlier).2.finalized = false)
    (pieces : List ByteArray) (nonempty : ∀ piece ∈ pieces, 0 < piece.size)
    (stream : ByteArray) (yields : pieces.foldr (· ++ ·) .empty = stream) :
    (∃ reloaded,
      (Tree.empty.session scheme earlier).2.reload (pieces.map .bytes) = (reloaded, .ok ()) ∧
      reloaded.finalized = false ∧
      reloaded.finalize = (((Tree.empty.write stream).1.finalize).1, .ok ())) ∧
    Tree.ofReadings (pieces.map .bytes) = .ok ((Tree.empty.write stream).1.finalize).1 := by
  subst yields
  have sound := (Tree.CacheSound.empty scheme).session earlier
  refine ⟨@Tree.finalize_reload scheme _ isOpen (sound.cache_of_open isOpen) pieces nonempty,
    ?_⟩
  -- the closed tree of a source is the reload of a fresh tree, closed
  obtain ⟨reloaded, reloads, -, finalizes⟩ :=
    @Tree.finalize_reload scheme Tree.empty rfl rfl pieces nonempty
  simp [Tree.ofReadings, reloads, finalizes]

/-- A tree that wrote three bytes and then failed to reload part-way, reloaded from a source that
gives two pieces. -/
theorem reload_rebuilds_commitment_after_fault :
    let earlier := [Call.write (ByteArray.mk #[1, 2, 3]),
      .reload [.bytes (ByteArray.mk #[7]), .failed "connection reset"]]
    let pieces := [ByteArray.mk #[4, 5], ByteArray.mk #[6]]
    (Tree.empty.session Scheme.blake3 earlier).2.finalized = false ∧
    (∀ piece ∈ pieces, 0 < piece.size) ∧
    pieces.foldr (· ++ ·) .empty = ByteArray.mk #[4, 5, 6] ∧
    (∃ reloaded,
      (Tree.empty.session Scheme.blake3 earlier).2.reload (pieces.map .bytes) =
        (reloaded, .ok ()) ∧
      reloaded.finalized = false ∧
      reloaded.finalize = (((Tree.empty.write (ByteArray.mk #[4, 5, 6])).1.finalize).1, .ok ())) ∧
    Tree.ofReadings (pieces.map .bytes) =
      .ok ((Tree.empty.write (ByteArray.mk #[4, 5, 6])).1.finalize).1 := by
  intro earlier pieces
  have isOpen : (Tree.empty.session Scheme.blake3 earlier).2.finalized = false := by
    have closes := @Tree.finalized_session_iff Scheme.blake3 Tree.empty rfl
      earlier
    simpa [earlier] using closes
  have nonempty : ∀ piece ∈ pieces, 0 < piece.size := by decide
  have yields : pieces.foldr (· ++ ·) .empty = ByteArray.mk #[4, 5, 6] := by decide
  exact ⟨isOpen, nonempty, yields,
    reload_rebuilds_commitment Scheme.blake3 earlier isOpen pieces nonempty _ yields⟩

end StripedMerkle
