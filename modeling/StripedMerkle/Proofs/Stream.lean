import StripedMerkle.Tree.Call

/-!
# The stream a tree takes

A session writes bytes to a tree in pieces of any size, with finalization and readings between
them. Whatever the pieces, the tree is a function of the stream `S` it took, the data of its
accepted writes in order: with `N = |S|` and `W` the window size, an open tree stages the last
`N mod W` bytes of `S`, and every leaf `i` has been fed its stripe, chunk `i` of each of the
`⌊N / W⌋` whole windows in window order; a closed tree stages nothing, and every leaf has been
fed its chunk of the short last window as well. The digests and the root of a closed tree are
therefore those of the stream, however it was split.

The invariant `Streamed` says this of one tree. Every pass of the write loop, the last flush of
finalization and every reading keep it (`Streamed.writeFrom`, `Streamed.finalize`,
`Streamed.levels`), so every call does (`Streamed.call`) and so does every session
(`Streamed.session`). Main statement: `session_feeds_stripes`.
-/

namespace StripedMerkle

/-! ## Stripes -/

/-- Chunk `i` of window `w` of a stream: its bytes `w W + 64 i` up to `w W + 64 i + 64`, fewer
where the stream ends inside them. -/
def chunkOf (stream : ByteArray) (w i : Nat) : ByteArray :=
  stream.extract (w * windowSize + i * chunkSize) (w * windowSize + i * chunkSize + chunkSize)

/-- The bytes leaf `i` is fed by the first `windows` windows of a stream: its chunk of each, in
window order. -/
def stripe (stream : ByteArray) (i : Nat) : Nat → ByteArray
  | 0 => .empty
  | windows + 1 => stripe stream i windows ++ chunkOf stream windows i

@[simp] theorem stripe_zero (stream : ByteArray) (i : Nat) : stripe stream i 0 = .empty := rfl

theorem stripe_succ (stream : ByteArray) (i windows : Nat) :
    stripe stream i (windows + 1) = stripe stream i windows ++ chunkOf stream windows i := rfl

/-- What every leaf of a closed tree has been fed by a stream, in leaf order: its chunks of the
whole windows and of the short last one. -/
def leafFeeds (stream : ByteArray) : List ByteArray :=
  (List.range leafCount).map fun i => stripe stream i (stream.size / windowSize + 1)

theorem extract_eq_extract_of_min_eq {bytes : ByteArray} {start stop stop' : Nat}
    (same : min stop bytes.size = min stop' bytes.size) :
    bytes.extract start stop = bytes.extract start stop' := by
  apply ByteArray.ext
  rw [ByteArray.data_extract, ByteArray.data_extract, Array.extract_eq_extract_right,
    ByteArray.size_data]
  omega

theorem extract_append_of_le {front back : ByteArray} {start stop : Nat}
    (within : stop ≤ front.size) :
    (front ++ back).extract start stop = front.extract start stop := by
  have nothing : back.extract (start - front.size) 0 = .empty :=
    ByteArray.extract_eq_empty_iff.mpr (by omega)
  rw [ByteArray.extract_append, Nat.sub_eq_zero_of_le within, nothing, ByteArray.append_empty]

/-- What follows `start` grows by what is appended. -/
theorem extract_append_rest {stream : ByteArray} (chunk : ByteArray) {start : Nat}
    (before : start ≤ stream.size) :
    stream.extract start stream.size ++ chunk =
      (stream ++ chunk).extract start (stream ++ chunk).size := by
  rw [ByteArray.extract_append, ByteArray.size_append, Nat.sub_eq_zero_of_le before,
    Nat.add_sub_cancel_left, ByteArray.extract_zero_size]
  congr 1
  apply extract_eq_extract_of_min_eq
  omega

/-- The bytes up to `middle` and those after it are the bytes from `start` on. -/
theorem append_extract_append_extract (stream data : ByteArray) {start middle : Nat}
    (before : start ≤ middle) (within : middle ≤ data.size) :
    stream ++ data.extract start middle ++ data.extract middle data.size =
      stream ++ data.extract start data.size := by
  rw [ByteArray.append_assoc, ← ByteArray.extract_eq_extract_append_extract middle before within]

theorem size_rest (stream : ByteArray) :
    (stream.extract (stream.size / windowSize * windowSize) stream.size).size =
      stream.size % windowSize := by
  rw [ByteArray.size_extract, Nat.min_self, Nat.mod_eq_sub_div_mul]

/-- A whole window keeps its chunks when more bytes follow. -/
theorem chunkOf_append {stream more : ByteArray} {w i : Nat} (inRange : i < leafCount)
    (whole : (w + 1) * windowSize ≤ stream.size) :
    chunkOf (stream ++ more) w i = chunkOf stream w i := by
  unfold chunkOf
  apply extract_append_of_le
  simp only [windowSize, leafCount, chunkSize] at *
  rw [Nat.add_mul] at whole
  omega

theorem stripe_append {stream more : ByteArray} {i windows : Nat} (inRange : i < leafCount)
    (whole : windows * windowSize ≤ stream.size) :
    stripe (stream ++ more) i windows = stripe stream i windows := by
  induction windows with
  | zero => rfl
  | succ windows ih =>
    have earlier : windows * windowSize ≤ stream.size := by
      rw [Nat.add_mul] at whole
      omega
    rw [stripe_succ, stripe_succ, ih earlier, chunkOf_append inRange whole]

/-- Chunk `i` of what follows the first `w` windows is chunk `i` of window `w`. -/
theorem extract_chunk_of_rest (stream : ByteArray) (w i : Nat) :
    (stream.extract (w * windowSize) stream.size).extract (i * chunkSize)
      (i * chunkSize + chunkSize) = chunkOf stream w i := by
  rw [ByteArray.extract_extract, chunkOf, Nat.add_assoc (w * windowSize)]
  apply extract_eq_extract_of_min_eq
  omega

/-- The chunks of the last, short window: cut where the stream ends, and nothing for the leaves
it does not reach. -/
theorem chunkOf_last (stream : ByteArray) (i : Nat) :
    chunkOf stream (stream.size / windowSize) i =
      if stream.size / windowSize * windowSize + i * chunkSize < stream.size then
        stream.extract (stream.size / windowSize * windowSize + i * chunkSize)
          (min (stream.size / windowSize * windowSize + i * chunkSize + chunkSize) stream.size)
      else .empty := by
  unfold chunkOf
  split
  · apply extract_eq_extract_of_min_eq
    omega
  · exact ByteArray.extract_eq_empty_iff.mpr (by omega)

/-! ## Handing a window to the leaves -/

theorem getElem_feedLeaf (leaves : Vector ByteArray leafCount) (j : Nat) (chunk : ByteArray)
    {i : Nat} (inRange : i < leafCount) :
    (Tree.feedLeaf leaves j chunk)[i] = if j = i then leaves[i] ++ chunk else leaves[i] := by
  simp [Tree.feedLeaf, Array.getElem_modify]

/-- A pass over the leaf indices that touches leaf `i` only at step `i` appends there once. -/
theorem getElem_foldl_range
    {step : Vector ByteArray leafCount → Nat → Vector ByteArray leafCount} {i : Nat}
    (inRange : i < leafCount) {chunk : ByteArray}
    (touches : ∀ leaves j, (step leaves j)[i] = if j = i then leaves[i] ++ chunk else leaves[i])
    (leaves : Vector ByteArray leafCount) (n : Nat) :
    ((List.range n).foldl step leaves)[i] = if i < n then leaves[i] ++ chunk else leaves[i] := by
  induction n with
  | zero => simp
  | succ n ih =>
    rw [List.range_succ, List.foldl_append, List.foldl_cons, List.foldl_nil, touches, ih]
    by_cases before : i < n
    · simp [before, show n ≠ i by omega, show i < n + 1 by omega]
    · by_cases here : n = i
      · simp [here]
      · simp [before, here, show ¬ i < n + 1 by omega]

theorem getElem_dispatch (leaves : Vector ByteArray leafCount) (window : ByteArray) {i : Nat}
    (inRange : i < leafCount) :
    (Tree.dispatch leaves window)[i] =
      leaves[i] ++ window.extract (i * chunkSize) (i * chunkSize + chunkSize) := by
  unfold Tree.dispatch
  rw [getElem_foldl_range inRange _ leaves leafCount, if_pos inRange]
  intro leaves j
  split
  · rw [getElem_feedLeaf leaves j _ inRange]
    by_cases here : j = i
    · subst here
      simp
    · simp [here]
  · -- a leaf past the end of a short window is fed its empty chunk
    by_cases here : j = i
    · subst here
      rw [if_pos rfl, ByteArray.extract_eq_empty_iff.mpr (by omega), ByteArray.append_empty]
    · rw [if_neg here]

namespace Tree

/-- A whole stage, or any stage of a closed tree, is a window the leaves accept. -/
theorem flushWindow_of_accepted {tree : Tree}
    (accepted : tree.stage.size = windowSize ∨ tree.finalized = true) :
    ∃ flushed, tree.flushWindow = (flushed, .ok ()) ∧
      flushed.leaves = dispatch tree.leaves tree.stage ∧ flushed.stage = .empty ∧
      flushed.finalized = tree.finalized ∧ flushed.cache = tree.cache := by
  have fits := tree.stage_le
  have refused : ¬ (tree.stage.size < windowSize && !tree.finalized) = true := by
    rcases accepted with whole | closed
    · simp [whole]
    · simp [closed]
  have flushes : tree.flushWindow = ({ tree with
      leaves := dispatch tree.leaves tree.stage, stage := .empty, stage_le := Nat.zero_le _ },
      .ok ()) := by
    simp only [flushWindow, writeToLeaves, if_neg (Nat.not_lt.mpr fits), if_neg refused]
  -- the leaves are read off by projection: a bare rfl would unfold the dispatch instead
  exact ⟨_, flushes, by dsimp only, rfl, rfl, rfl⟩

theorem levels_of_root {scheme : Scheme} {tree kept : Tree} {root : Digest}
    (result : tree.root scheme = .ok (root, kept)) :
    ∃ levels, tree.levels scheme = .ok (levels, kept) ∧ levels.root = root := by
  unfold Tree.root at result
  cases found : tree.levels scheme with
  | error error => simp [found, Except.map] at result
  | ok pair =>
    simp only [found, Except.map, Except.ok.injEq, Prod.mk.injEq] at result
    exact ⟨pair.1, by rw [← result.2], result.1⟩

theorem levels_of_buildPath {scheme : Scheme} {tree kept : Tree} {index : Nat} {path : Path}
    (result : tree.buildPath scheme index = .ok (path, kept)) :
    ∃ levels, tree.levels scheme = .ok (levels, kept) := by
  unfold Tree.buildPath at result
  split at result
  · cases found : tree.levels scheme with
    | error error => simp [found, Except.map] at result
    | ok pair =>
      simp only [found, Except.map, Except.ok.injEq, Prod.mk.injEq] at result
      exact ⟨pair.1, by rw [← result.2]⟩
  · cases result

/-- Whatever it replies, finalization leaves the tree closed. -/
theorem finalized_call_finalize (scheme : Scheme) (tree : Tree) :
    (tree.call scheme .finalize).2.finalized = true := by
  cases isOpen : tree.finalized with
  | true => simp [call, finalize, isOpen]
  | false =>
    by_cases staged : 0 < tree.stage.size
    · obtain ⟨closed, flushes, -, -, closedFlag, -⟩ :=
        @flushWindow_of_accepted { tree with finalized := true } (.inr rfl)
      simpa [call, finalize, isOpen, staged, flushes] using closedFlag
    · simp [call, finalize, isOpen, staged]

end Tree

/-! ## The stream of a session -/

/-- The bytes a call added to the stream, by its reply: the data of a write that was
accepted. -/
def Call.appended : Call → Reply → ByteArray
  | .write data, .accepted _ => data
  | .sinkWrite data, .accepted _ => data
  | _, _ => .empty

/-- The stream a session took: what its calls added, in order. -/
def streamOf : List Call → List Reply → ByteArray
  | call :: calls, reply :: replies => call.appended reply ++ streamOf calls replies
  | _, _ => .empty

/-- A tree that has taken `stream`. -/
structure Streamed (scheme : Scheme) (stream : ByteArray) (tree : Tree) : Prop where
  /-- An open tree stages what follows the whole windows; a closed one nothing. -/
  stage_eq : tree.stage =
    if tree.finalized then .empty
    else stream.extract (stream.size / windowSize * windowSize) stream.size
  /-- Every leaf has its chunk of every whole window, and of the last one once closed. -/
  leaves_eq : ∀ (i : Nat) (inRange : i < leafCount),
    tree.leaves[i] = stripe stream i (stream.size / windowSize + if tree.finalized then 1 else 0)
  /-- A kept fold belongs to a closed tree and is the fold of its leaf digests. -/
  cache_eq : ∀ levels, tree.cache = some levels →
    tree.finalized = true ∧ Levels.ofLeaves scheme (tree.leafDigests scheme) = .ok levels

namespace Streamed

variable {scheme : Scheme} {stream : ByteArray} {tree : Tree}

theorem empty (scheme : Scheme) : Streamed scheme .empty Tree.empty where
  stage_eq := by simp [Tree.empty]
  leaves_eq i inRange := by simp [Tree.empty, Tree.freshLeaves]
  cache_eq levels kept := by cases kept

section Open

variable (holds : Streamed scheme stream tree) (isOpen : tree.finalized = false)
include holds isOpen

theorem stage_of_open :
    tree.stage = stream.extract (stream.size / windowSize * windowSize) stream.size := by
  simpa [isOpen] using holds.stage_eq

theorem leaves_of_open (i : Nat) (inRange : i < leafCount) :
    tree.leaves[i] = stripe stream i (stream.size / windowSize) := by
  simpa [isOpen] using holds.leaves_eq i inRange

theorem cache_of_open : tree.cache = none := by
  cases kept : tree.cache with
  | none => rfl
  | some levels => simpa [isOpen] using (holds.cache_eq levels kept).1

theorem size_stage_of_open : tree.stage.size = stream.size % windowSize := by
  rw [holds.stage_of_open isOpen, size_rest]

/-- A tree that keeps the cache of an open tree keeps no fold. -/
theorem cache_eq_of_open {other : Tree} (cache : other.cache = tree.cache) (levels : Levels)
    (kept : other.cache = some levels) :
    other.finalized = true ∧ Levels.ofLeaves scheme (other.leafDigests scheme) = .ok levels := by
  rw [cache, holds.cache_of_open isOpen] at kept
  cases kept

/-- Bytes copied into a stage that stays short of a window. -/
theorem copy {chunk : ByteArray} {copied : Tree} (leaves : copied.leaves = tree.leaves)
    (stage : copied.stage = tree.stage ++ chunk) (finalized : copied.finalized = false)
    (cache : copied.cache = tree.cache) (short : copied.stage.size < windowSize) :
    Streamed scheme (stream ++ chunk) copied := by
  have sameWindows : (stream ++ chunk).size / windowSize = stream.size / windowSize := by
    rw [stage, ByteArray.size_append, holds.size_stage_of_open isOpen] at short
    rw [ByteArray.size_append]
    simp only [windowSize_eq] at *
    omega
  have whole : stream.size / windowSize * windowSize ≤ stream.size := Nat.div_mul_le_self _ _
  constructor
  · simp only [finalized, Bool.false_eq_true, ↓reduceIte]
    rw [stage, holds.stage_of_open isOpen, sameWindows, extract_append_rest chunk whole]
  · intro i inRange
    simp only [finalized, Bool.false_eq_true, ↓reduceIte, Nat.add_zero]
    rw [leaves, holds.leaves_of_open isOpen i inRange, sameWindows, stripe_append inRange whole]
  · exact holds.cache_eq_of_open isOpen cache

/-- Bytes that complete the stage to a window, which goes to the leaves. -/
theorem flush {chunk : ByteArray} {flushed : Tree}
    (full : tree.stage.size + chunk.size = windowSize)
    (leaves : flushed.leaves = Tree.dispatch tree.leaves (tree.stage ++ chunk))
    (stage : flushed.stage = .empty) (finalized : flushed.finalized = false)
    (cache : flushed.cache = tree.cache) :
    Streamed scheme (stream ++ chunk) flushed := by
  have nextWindow : (stream ++ chunk).size / windowSize = stream.size / windowSize + 1 := by
    rw [holds.size_stage_of_open isOpen] at full
    rw [ByteArray.size_append]
    simp only [windowSize_eq] at *
    omega
  have whole : stream.size / windowSize * windowSize ≤ stream.size := Nat.div_mul_le_self _ _
  have staged : tree.stage ++ chunk = (stream ++ chunk).extract
      (stream.size / windowSize * windowSize) (stream ++ chunk).size := by
    rw [holds.stage_of_open isOpen, extract_append_rest chunk whole]
  constructor
  · simp only [finalized, Bool.false_eq_true, ↓reduceIte]
    rw [stage, nextWindow, eq_comm, ByteArray.extract_eq_empty_iff]
    have := Nat.div_add_mod (stream ++ chunk).size windowSize
    rw [nextWindow, ByteArray.size_append, holds.size_stage_of_open isOpen] at *
    simp only [windowSize_eq] at *
    omega
  · intro i inRange
    simp only [finalized, Bool.false_eq_true, ↓reduceIte, Nat.add_zero]
    rw [leaves, getElem_dispatch _ _ inRange, holds.leaves_of_open isOpen i inRange, staged,
      extract_chunk_of_rest, nextWindow, stripe_succ, stripe_append inRange whole]
  · exact holds.cache_eq_of_open isOpen cache

/-- Closing hands the stage to the leaves as the last window. -/
theorem close {closed : Tree}
    (leaves : ∀ (i : Nat) (inRange : i < leafCount), closed.leaves[i] =
      tree.leaves[i] ++ tree.stage.extract (i * chunkSize) (i * chunkSize + chunkSize))
    (stage : closed.stage = .empty) (finalized : closed.finalized = true)
    (cache : closed.cache = tree.cache) :
    Streamed scheme stream closed := by
  constructor
  · simp [stage, finalized]
  · intro i inRange
    simp only [finalized, ↓reduceIte]
    rw [leaves i inRange, holds.leaves_of_open isOpen i inRange, holds.stage_of_open isOpen,
      extract_chunk_of_rest, stripe_succ]
  · exact holds.cache_eq_of_open isOpen cache

end Open

theorem finalize (holds : Streamed scheme stream tree) :
    (tree.finalized = true ∧ tree.finalize = (tree, .error .alreadyFinalized)) ∨
      ∃ closed, tree.finalize = (closed, .ok ()) ∧ Streamed scheme stream closed := by
  cases isOpen : tree.finalized with
  | true => exact .inl ⟨rfl, by simp [Tree.finalize, isOpen]⟩
  | false =>
    right
    by_cases staged : 0 < tree.stage.size
    · obtain ⟨closed, flushes, dispatched, emptied, closedFlag, kept⟩ :=
        @Tree.flushWindow_of_accepted { tree with finalized := true } (.inr rfl)
      refine ⟨closed, by simpa [Tree.finalize, isOpen, staged] using flushes, ?_⟩
      refine holds.close isOpen ?_ emptied closedFlag kept
      intro i inRange
      rw [dispatched, getElem_dispatch _ _ inRange]
    · -- nothing is staged, so the last window gives every leaf nothing
      have nothing : tree.stage = .empty :=
        ByteArray.size_eq_zero_iff.mp (Nat.eq_zero_of_not_pos staged)
      refine ⟨{ tree with finalized := true }, by simp [Tree.finalize, isOpen, staged], ?_⟩
      refine holds.close isOpen ?_ nothing rfl rfl
      intro i inRange
      dsimp only
      rw [nothing, ByteArray.extract_eq_empty_iff.mpr (by simp), ByteArray.append_empty]

/-- A reading that folds the leaves keeps the fold it found. -/
theorem levels (holds : Streamed scheme stream tree) {levels : Levels} {kept : Tree}
    (result : tree.levels scheme = .ok (levels, kept)) :
    Streamed scheme stream kept := by
  unfold Tree.levels at result
  split at result
  · cases result
    exact holds
  · split at result
    · next closed =>
      cases folded : Levels.ofLeaves scheme (tree.leafDigests scheme) with
      | error error => simp [folded, bind, Except.bind] at result
      | ok found =>
        simp only [folded, bind, Except.bind, pure, Except.pure, Except.ok.injEq,
          Prod.mk.injEq] at result
        obtain ⟨rfl, rfl⟩ := result
        refine ⟨holds.stage_eq, holds.leaves_eq, ?_⟩
        intro levels kept
        cases kept
        exact ⟨closed, folded⟩
    · cases result

theorem root (holds : Streamed scheme stream tree) {root : Digest} {kept : Tree}
    (result : tree.root scheme = .ok (root, kept)) :
    Streamed scheme stream kept := by
  obtain ⟨levels, folded, -⟩ := Tree.levels_of_root result
  exact holds.levels folded

theorem buildPath (holds : Streamed scheme stream tree) {index : Nat} {path : Path} {kept : Tree}
    (result : tree.buildPath scheme index = .ok (path, kept)) :
    Streamed scheme stream kept := by
  obtain ⟨levels, folded⟩ := Tree.levels_of_buildPath result
  exact holds.levels folded

theorem leaves_of_closed (holds : Streamed scheme stream tree) (closed : tree.finalized = true) :
    tree.leaves.toList = leafFeeds stream := by
  apply List.ext_getElem
  · simp [leafFeeds]
  · intro i inLeaves inFeeds
    have inRange : i < leafCount := by simpa using inLeaves
    simp [leafFeeds, holds.leaves_eq i inRange, closed]

theorem leafDigests_of_closed (holds : Streamed scheme stream tree)
    (closed : tree.finalized = true) :
    tree.leafDigests scheme = (leafFeeds stream).map scheme.leaf := by
  rw [Tree.leafDigests, holds.leaves_of_closed closed]

theorem root_of_closed (holds : Streamed scheme stream tree) (closed : tree.finalized = true) :
    (tree.root scheme).map Prod.fst = merkleRoot scheme (tree.leafDigests scheme) := by
  unfold Tree.root Tree.levels merkleRoot
  cases kept : tree.cache with
  | some levels => simp [(holds.cache_eq levels kept).2, Except.map]
  | none =>
    cases Levels.ofLeaves scheme (tree.leafDigests scheme) <;>
      simp [closed, bind, Except.bind, pure, Except.pure, Except.map]

/-- The write loop, from any offset of the data: it never stops on a refused window, and the
tree it leaves has taken the rest of the data. -/
theorem writeFrom (holds : Streamed scheme stream tree) (isOpen : tree.finalized = false)
    (data : ByteArray) (offset : Nat) :
    ∃ written, tree.writeFrom data offset = (written, .ok ()) ∧ written.finalized = false ∧
      Streamed scheme (stream ++ data.extract offset data.size) written := by
  fun_induction tree.writeFrom data offset generalizing stream with
  | case1 tree offset inside take copied whole flushed flushes =>
    rename_i ih
    obtain ⟨_, accepted, dispatched, emptied, sameFlag, kept⟩ :=
      Tree.flushWindow_of_accepted (.inl whole)
    obtain ⟨rfl, -⟩ := Prod.mk.inj (flushes.symm.trans accepted)
    have full : tree.stage.size + (data.extract offset (offset + take)).size = windowSize := by
      rw [← ByteArray.size_append]
      exact whole
    obtain ⟨written, loops, stillOpen, after⟩ :=
      ih (holds.flush isOpen full dispatched emptied (sameFlag.trans isOpen) kept)
        (sameFlag.trans isOpen)
    refine ⟨written, loops, stillOpen, ?_⟩
    rwa [append_extract_append_extract stream data (by omega) (by omega)] at after
  | case2 tree offset inside take copied whole failed error =>
    -- an open tree's whole stage is never refused
    rename_i flushes
    obtain ⟨_, accepted, -⟩ := Tree.flushWindow_of_accepted (.inl whole)
    cases (Prod.mk.inj (flushes.symm.trans accepted)).2
  | case3 tree offset inside take copied notWhole =>
    rename_i ih
    have short : copied.stage.size < windowSize := Nat.lt_of_le_of_ne copied.stage_le notWhole
    obtain ⟨written, loops, stillOpen, after⟩ :=
      ih (holds.copy isOpen rfl rfl isOpen rfl short) isOpen
    refine ⟨written, loops, stillOpen, ?_⟩
    rwa [append_extract_append_extract stream data (by omega) (by omega)] at after
  | case4 tree offset past =>
    have nothing : data.extract offset data.size = .empty :=
      ByteArray.extract_eq_empty_iff.mpr (by omega)
    rw [nothing, ByteArray.append_empty]
    exact ⟨tree, rfl, isOpen, holds⟩

theorem write (holds : Streamed scheme stream tree) (data : ByteArray) :
    (tree.finalized = true ∧ tree.write data = (tree, .error .treeFinalized)) ∨
      ∃ written, tree.write data = (written, .ok data.size) ∧
        Streamed scheme (stream ++ data) written := by
  cases isOpen : tree.finalized with
  | true => exact .inl ⟨rfl, by simp [Tree.write, isOpen]⟩
  | false =>
    obtain ⟨written, loops, -, after⟩ := holds.writeFrom isOpen data 0
    rw [ByteArray.extract_zero_size] at after
    exact .inr ⟨written, by simp [Tree.write, isOpen, loops], after⟩

/-- One call: the tree after it has taken what the call added. -/
theorem call (holds : Streamed scheme stream tree) (call : Call)
    (notReload : ∀ readings, call ≠ .reload readings) :
    Streamed scheme (stream ++ call.appended (tree.call scheme call).1)
      (tree.call scheme call).2 := by
  cases call with
  | write data =>
    rcases holds.write data with ⟨-, refused⟩ | ⟨written, accepted, after⟩
    · simpa [Tree.call, refused, Call.appended] using holds
    · simpa [Tree.call, accepted, Call.appended] using after
  | sinkWrite data =>
    rcases holds.write data with ⟨-, refused⟩ | ⟨written, accepted, after⟩
    · simpa [Tree.call, refused, Call.appended] using holds
    · simpa [Tree.call, accepted, Call.appended] using after
  | finalize =>
    rcases holds.finalize with ⟨-, refused⟩ | ⟨closed, closes, after⟩
    · simpa [Tree.call, refused, Call.appended] using holds
    · simpa [Tree.call, closes, Call.appended] using after
  | isFinalized => simpa [Tree.call, Call.appended] using holds
  | leafHash index =>
    simp only [Tree.call]
    split <;> simpa [Call.appended] using holds
  | leafHashes => simpa [Tree.call, Call.appended] using holds
  | root =>
    simp only [Tree.call]
    split
    · next found => simpa [Call.appended] using holds.root found
    · simpa [Call.appended] using holds
  | rootBytes =>
    simp only [Tree.call]
    split
    · next found => simpa [Call.appended] using holds.root found
    · simpa [Call.appended] using holds
  | buildPath index =>
    simp only [Tree.call]
    split
    · next found => simpa [Call.appended] using holds.buildPath found
    · simpa [Call.appended] using holds
  | reload readings => exact absurd rfl (notReload readings)

/-- A session without reloads: the tree after it has taken what its calls added. -/
theorem session (holds : Streamed scheme stream tree) (calls : List Call)
    (noReload : ∀ call ∈ calls, ∀ readings, call ≠ .reload readings) :
    Streamed scheme (stream ++ streamOf calls (tree.session scheme calls).1)
      (tree.session scheme calls).2 := by
  induction calls generalizing stream tree with
  | nil => simpa [Tree.session, streamOf] using holds
  | cons call calls ih =>
    have step := holds.call call (noReload call List.mem_cons_self)
    have rest := ih step fun other mem => noReload other (List.mem_cons_of_mem call mem)
    simpa [Tree.session, streamOf, ByteArray.append_assoc] using rest

/-- A fresh tree has taken the stream of every session without reloads. -/
theorem of_session {calls : List Call} {replies : List Reply}
    (noReload : ∀ call ∈ calls, ∀ readings, call ≠ .reload readings)
    (ran : Tree.empty.session scheme calls = (replies, tree)) :
    Streamed scheme (streamOf calls replies) tree := by
  have run := (Streamed.empty scheme).session calls noReload
  rwa [ran, ByteArray.empty_append] at run

end Streamed

/-- After any session of writes, finalization and readings on a fresh tree, the tree is the
stream's: an open tree stages the bytes past the whole windows and its leaves hold their stripes
of the whole windows; a closed tree stages nothing and its leaves also hold their chunks of the
short last window; every leaf digest is the leaf hash of that stripe; and a closed tree's root is
the fold of its leaf digests, which depend on the stream alone. -/
theorem session_feeds_stripes (scheme : Scheme) {calls : List Call} {replies : List Reply}
    {tree : Tree} {stream : ByteArray}
    (noReload : ∀ call ∈ calls, ∀ readings, call ≠ .reload readings)
    (ran : Tree.empty.session scheme calls = (replies, tree))
    (taken : streamOf calls replies = stream) :
    (tree.finalized = false →
      tree.stage.size = stream.size % windowSize ∧
      tree.stage = stream.extract (stream.size - tree.stage.size) stream.size ∧
      ∀ (i : Nat) (inRange : i < leafCount),
        tree.leaves[i] = stripe stream i (stream.size / windowSize)) ∧
    (tree.finalized = true →
      tree.stage.size = 0 ∧
      ∀ (i : Nat) (inRange : i < leafCount),
        tree.leaves[i] = stripe stream i (stream.size / windowSize) ++
          if stream.size / windowSize * windowSize + i * chunkSize < stream.size then
            stream.extract (stream.size / windowSize * windowSize + i * chunkSize)
              (min (stream.size / windowSize * windowSize + i * chunkSize + chunkSize)
                stream.size)
          else .empty) ∧
    (∀ i < leafCount, tree.leafHash scheme i = .ok (scheme.leaf
      (stripe stream i (stream.size / windowSize + if tree.finalized then 1 else 0)))) ∧
    (tree.finalized = true →
      (tree.root scheme).map Prod.fst = merkleRoot scheme (tree.leafDigests scheme) ∧
      tree.leafDigests scheme = (leafFeeds stream).map scheme.leaf) := by
  have holds : Streamed scheme stream tree := taken ▸ Streamed.of_session noReload ran
  refine ⟨fun isOpen => ⟨?_, ?_, holds.leaves_of_open isOpen⟩, fun closed => ⟨?_, ?_⟩, ?_,
    fun closed => ⟨holds.root_of_closed closed, holds.leafDigests_of_closed closed⟩⟩
  · exact holds.size_stage_of_open isOpen
  · have whole : stream.size / windowSize * windowSize ≤ stream.size := Nat.div_mul_le_self _ _
    rw [holds.size_stage_of_open isOpen, Nat.mod_eq_sub_div_mul, Nat.sub_sub_self whole]
    exact holds.stage_of_open isOpen
  · simp [holds.stage_eq, closed]
  · intro i inRange
    rw [holds.leaves_eq i inRange, closed, if_pos rfl, stripe_succ, chunkOf_last]
  · intro i inRange
    simp [Tree.leafHash, inRange, holds.leaves_eq i inRange]

/-- Two writes that split the stream, a reading between them, finalization and the root. -/
theorem session_feeds_stripes_split_writes :
    let calls := [Call.write (ByteArray.mk #[1, 2]), .leafHash 0,
      .sinkWrite (ByteArray.mk #[3]), .finalize, .rootBytes]
    let replies := (Tree.empty.session Scheme.blake3 calls).1
    let tree := (Tree.empty.session Scheme.blake3 calls).2
    let stream := streamOf calls replies
    (∀ call ∈ calls, ∀ readings, call ≠ .reload readings) ∧
    Tree.empty.session Scheme.blake3 calls = (replies, tree) ∧
    streamOf calls replies = stream ∧
    (tree.finalized = false →
      tree.stage.size = stream.size % windowSize ∧
      tree.stage = stream.extract (stream.size - tree.stage.size) stream.size ∧
      ∀ (i : Nat) (inRange : i < leafCount),
        tree.leaves[i] = stripe stream i (stream.size / windowSize)) ∧
    (tree.finalized = true →
      tree.stage.size = 0 ∧
      ∀ (i : Nat) (inRange : i < leafCount),
        tree.leaves[i] = stripe stream i (stream.size / windowSize) ++
          if stream.size / windowSize * windowSize + i * chunkSize < stream.size then
            stream.extract (stream.size / windowSize * windowSize + i * chunkSize)
              (min (stream.size / windowSize * windowSize + i * chunkSize + chunkSize)
                stream.size)
          else .empty) ∧
    (∀ i < leafCount, tree.leafHash Scheme.blake3 i = .ok (Scheme.blake3.leaf
      (stripe stream i (stream.size / windowSize + if tree.finalized then 1 else 0)))) ∧
    (tree.finalized = true →
      (tree.root Scheme.blake3).map Prod.fst =
        merkleRoot Scheme.blake3 (tree.leafDigests Scheme.blake3) ∧
      tree.leafDigests Scheme.blake3 = (leafFeeds stream).map Scheme.blake3.leaf) := by
  intro calls replies tree stream
  have noReload : ∀ call ∈ calls, ∀ readings, call ≠ .reload readings := by simp [calls]
  exact ⟨noReload, rfl, rfl, session_feeds_stripes Scheme.blake3 noReload rfl rfl⟩

end StripedMerkle
