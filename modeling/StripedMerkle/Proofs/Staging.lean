import StripedMerkle.Proofs.Shape

/-!
# The stage and the windows the leaves are handed

The leaves refuse a window longer than a whole one, and a short one while the tree is open. Neither
refusal is ever met. The stage of a tree is a buffer of one window by its type (`Tree.stage_le`),
so every pass of the write loop copies within it, and while the tree is open the stage stays short
of a whole window between calls. On such a tree the write loop comes down to one step
(`Tree.write_eq_stageBytes`): the stage and the data are cut into whole windows, which go to the
leaves in order and which an open tree's leaves accept, and the rest is staged. Finalization hands
the leaves a non-empty stage, shorter than a window, as the last window of a closed tree, which the
leaves accept too.

Every error a call reports is then a refusal for the state of the tree, a refusal of the fold, or a
fault of a source (`Tree.call_error_cases`), never a refused window. A reload hands its windows to
`write`, which on such a tree is that one step: reloading through writes is the reload
(`Tree.reloadByWrites_eq`), and its writes refuse no window either.

Main statement: `writes_never_refused`.
-/

namespace StripedMerkle

/-- The refusals of a window by the leaves: longer than a whole window, or short on an open
tree. -/
def CommitError.isWindowError : CommitError → Bool
  | .windowTooLarge _ _ | .partialWindow _ _ => true
  | _ => false

namespace Tree

theorem ext {tree other : Tree} (leaves : tree.leaves = other.leaves)
    (stage : tree.stage = other.stage) (finalized : tree.finalized = other.finalized)
    (cache : tree.cache = other.cache) : tree = other := by
  obtain ⟨_, _, _, _, _⟩ := tree
  obtain ⟨_, _, _, _, _⟩ := other
  simp_all

/-! ## Whole windows -/

/-- Every window of a byte string before its short rest is whole. -/
theorem size_window {bytes : ByteArray} {w : Nat} (before : w < bytes.size / windowSize) :
    (window bytes w).size = windowSize := by
  have fits : (w + 1) * windowSize ≤ bytes.size := (Nat.le_div_iff_mul_le windowSize_pos).mp before
  rw [Nat.add_mul, Nat.one_mul] at fits
  rw [window, ByteArray.size_extract]
  omega

/-- The leaves of an open tree accept a whole window and hand it out chunk by chunk. -/
theorem writeToLeaves_of_whole (leaves : Vector ByteArray leafCount) {window : ByteArray}
    (whole : window.size = windowSize) :
    writeToLeaves leaves window false = .ok (dispatch leaves window) := by
  simp [writeToLeaves, whole]

/-- The leaves of a closed tree accept every window of at most a whole window's bytes. -/
theorem writeToLeaves_of_finalized (leaves : Vector ByteArray leafCount) {window : ByteArray}
    (fits : window.size ≤ windowSize) :
    writeToLeaves leaves window true = .ok (dispatch leaves window) := by
  simp only [writeToLeaves, if_neg (Nat.not_lt.mpr fits), Bool.not_true, Bool.and_false,
    Bool.false_eq_true, ↓reduceIte]

/-- Handing the whole windows of a byte string one by one to the leaves of an open tree: each is
accepted, and the leaves are those the windows are dispatched to in order. -/
theorem foldlM_writeToLeaves (bytes : ByteArray) (leaves : Vector ByteArray leafCount) {n : Nat}
    (whole : n ≤ bytes.size / windowSize) :
    (List.range n).foldlM (fun leaves w => writeToLeaves leaves (window bytes w) false) leaves =
      .ok ((List.range n).foldl (fun leaves w => dispatch leaves (window bytes w)) leaves) := by
  induction n with
  | zero => rfl
  | succ n ih =>
    -- the closing step is kept syntactic: a defeq check here would unfold `dispatch`
    have last : (window bytes n).size = windowSize := size_window (by omega)
    rw [List.range_succ, List.foldlM_append, ih (by omega), List.foldl_append, List.foldl_cons,
      List.foldl_nil]
    simp only [List.foldlM_cons, List.foldlM_nil, writeToLeaves_of_whole _ last]
    rfl

/-- Window `w + 1` of a byte string that starts with a whole window is window `w` of the rest. -/
theorem window_append_succ {front : ByteArray} (back : ByteArray) (whole : front.size = windowSize)
    (w : Nat) : window (front ++ back) (w + 1) = window back w := by
  rw [window, Nat.add_mul, Nat.one_mul, Nat.add_comm (w * windowSize), Nat.add_assoc,
    ByteArray.extract_append_size_add' whole.symm, window]

/-! ## Staging in one step -/

theorem leaves_stageBytes (tree : Tree) (data : ByteArray) :
    (tree.stageBytes data).leaves =
      (List.range ((tree.stage ++ data).size / windowSize)).foldl
        (fun leaves w => dispatch leaves (window (tree.stage ++ data) w)) tree.leaves := rfl

theorem stage_stageBytes (tree : Tree) (data : ByteArray) :
    (tree.stageBytes data).stage = (tree.stage ++ data).extract
      ((tree.stage ++ data).size / windowSize * windowSize) (tree.stage ++ data).size := rfl

theorem size_stage_stageBytes (tree : Tree) (data : ByteArray) :
    (tree.stageBytes data).stage.size < windowSize :=
  size_extract_whole _

/-- Staging nothing on a short stage changes nothing. -/
theorem stageBytes_empty {tree : Tree} (short : tree.stage.size < windowSize) :
    tree.stageBytes .empty = tree := by
  have none : (tree.stage ++ .empty).size / windowSize = 0 := by
    rw [ByteArray.append_empty]
    exact Nat.div_eq_of_lt short
  apply Tree.ext
  · rw [leaves_stageBytes, none, List.range_zero, List.foldl_nil]
  · rw [stage_stageBytes, none, Nat.zero_mul, ByteArray.append_empty, ByteArray.extract_zero_size]
  · rfl
  · rfl

/-- Staging sees a tree only through its leaves, its flag, its kept fold and the stage followed by
the data. -/
theorem stageBytes_congr {tree other : Tree} {data data' : ByteArray}
    (sameLeaves : tree.leaves = other.leaves) (sameFlag : tree.finalized = other.finalized)
    (sameCache : tree.cache = other.cache) (sameBytes : tree.stage ++ data = other.stage ++ data') :
    tree.stageBytes data = other.stageBytes data' := by
  apply Tree.ext
  · rw [leaves_stageBytes, leaves_stageBytes, sameBytes, sameLeaves]
  · rw [stage_stageBytes, stage_stageBytes, sameBytes]
  · exact sameFlag
  · exact sameCache

/-- Staging bytes that complete the stage to a whole window is handing that window to the leaves,
then staging the rest on an empty stage. -/
theorem stageBytes_of_whole {tree flushed : Tree} {front : ByteArray} (back : ByteArray)
    (whole : (tree.stage ++ front).size = windowSize)
    (dispatched : flushed.leaves = dispatch tree.leaves (tree.stage ++ front))
    (emptied : flushed.stage = .empty) (sameFlag : flushed.finalized = tree.finalized)
    (sameCache : flushed.cache = tree.cache) :
    tree.stageBytes (front ++ back) = flushed.stageBytes back := by
  have joined : tree.stage ++ (front ++ back) = (tree.stage ++ front) ++ back :=
    ByteArray.append_assoc.symm
  have rest : flushed.stage ++ back = back := by rw [emptied, ByteArray.empty_append]
  have windows : ((tree.stage ++ front) ++ back).size / windowSize =
      back.size / windowSize + 1 := by
    rw [ByteArray.size_append, whole, Nat.add_comm, Nat.add_div_right _ windowSize_pos]
  have first : window ((tree.stage ++ front) ++ back) 0 = tree.stage ++ front := by
    rw [window, Nat.zero_mul, Nat.zero_add, ← whole, ByteArray.extract_append_eq_left rfl]
  apply Tree.ext
  · -- the first window is the completed stage, and the later ones are the windows of the rest
    rw [leaves_stageBytes, leaves_stageBytes, joined, rest, windows, List.range_succ_eq_map,
      List.foldl_cons, List.foldl_map, first, dispatched]
    simp only [window_append_succ back whole]
  · rw [stage_stageBytes, stage_stageBytes, joined, rest, windows, ByteArray.size_append, whole,
      Nat.add_mul, Nat.one_mul, Nat.add_comm (back.size / windowSize * windowSize),
      ByteArray.extract_append_size_add' whole.symm]
  · exact sameFlag.symm
  · exact sameCache.symm

/-- On an open tree whose stage is short of a window, the write loop from any offset is one step
of staging: it is never refused, and the tree after it has staged the rest of the data. -/
theorem writeFrom_eq_stageBytes {tree : Tree} (isOpen : tree.finalized = false)
    (short : tree.stage.size < windowSize) (data : ByteArray) (offset : Nat) :
    tree.writeFrom data offset = (tree.stageBytes (data.extract offset data.size), .ok ()) := by
  fun_induction tree.writeFrom data offset with
  | case1 tree offset inside take copied whole flushed flushes =>
    -- the copy completes the stage, whose window goes to the leaves
    rename_i ih
    obtain ⟨_, accepted, dispatched, emptied, sameFlag, kept⟩ :=
      flushWindow_of_accepted (.inl whole)
    obtain ⟨rfl, -⟩ := Prod.mk.inj (flushes.symm.trans accepted)
    have split : data.extract offset data.size =
        data.extract offset (offset + take) ++ data.extract (offset + take) data.size :=
      ByteArray.extract_eq_extract_append_extract (offset + take) (by omega) (by omega)
    rw [ih (sameFlag.trans isOpen) (by rw [emptied]; exact windowSize_pos), split,
      stageBytes_of_whole _ whole dispatched emptied sameFlag kept]
  | case2 tree offset inside take copied whole failed error =>
    rename_i flushes
    obtain ⟨_, accepted, -⟩ := flushWindow_of_accepted (.inl whole)
    cases (Prod.mk.inj (flushes.symm.trans accepted)).2
  | case3 tree offset inside take copied notWhole =>
    -- the copy leaves the stage short: it took all the data
    rename_i ih
    have same : copied.stageBytes (data.extract (offset + take) data.size) =
        tree.stageBytes (data.extract offset data.size) :=
      stageBytes_congr rfl rfl rfl
        (append_extract_append_extract tree.stage data (by omega) (by omega))
    rw [ih isOpen (Nat.lt_of_le_of_ne copied.stage_le notWhole), same]
  | case4 tree offset past =>
    have nothing : data.extract offset data.size = .empty :=
      ByteArray.extract_eq_empty_iff.mpr (by omega)
    rw [nothing, stageBytes_empty short]

/-- A write to an open tree whose stage is short of a window takes all the data in one step of
staging. -/
theorem write_eq_stageBytes {tree : Tree} (isOpen : tree.finalized = false)
    (short : tree.stage.size < windowSize) (data : ByteArray) :
    tree.write data = (tree.stageBytes data, .ok data.size) := by
  simp [write, isOpen, writeFrom_eq_stageBytes isOpen short, ByteArray.extract_zero_size]

/-- Finalizing an open tree succeeds; a non-empty stage goes to the leaves as the last window of a
closed tree, which they accept, and an empty one leaves the leaves as they are. -/
theorem finalize_hands_stage {tree : Tree} (isOpen : tree.finalized = false) :
    ∃ closed, tree.finalize = (closed, .ok ()) ∧ closed.finalized = true ∧
      closed.stage.size = 0 ∧ closed.cache = tree.cache ∧
      (0 < tree.stage.size → writeToLeaves tree.leaves tree.stage true = .ok closed.leaves) ∧
      (tree.stage.size = 0 → closed.leaves = tree.leaves) := by
  by_cases staged : 0 < tree.stage.size
  · obtain ⟨closed, flushes, dispatched, emptied, closedFlag, kept⟩ :=
      @flushWindow_of_accepted { tree with finalized := true } (.inr rfl)
    refine ⟨closed, by simpa [finalize, isOpen, staged] using flushes, closedFlag,
      by rw [emptied]; rfl, kept, fun _ => ?_, fun empty => absurd empty (by omega)⟩
    rw [dispatched]
    exact writeToLeaves_of_finalized _ tree.stage_le
  · exact ⟨{ tree with finalized := true }, by simp [finalize, isOpen, staged], rfl,
      by simpa using staged, rfl, fun positive => absurd positive staged, fun _ => rfl⟩

/-! ## The stage between calls -/

theorem fill_stage {tree : Tree} (short : tree.stage.size < windowSize) (window : OpenWindow)
    (chunk : ByteArray) (offset : Nat) :
    (tree.fill window chunk offset).1.stage.size < windowSize := by
  fun_induction tree.fill window chunk offset with
  | case1 tree window offset room fits => exact short
  | case2 tree window offset room full ih => exact ih (size_stage_stageBytes _ _)

theorem refill_stage {tree : Tree} (short : tree.stage.size < windowSize) (window : OpenWindow)
    (readings : List Reading) :
    (tree.refill window readings).1.stage.size < windowSize := by
  fun_induction tree.refill window readings with
  | case1 tree window =>
    split
    · exact short
    · exact size_stage_stageBytes _ _
  | case2 tree window chunk rest nothing empty => exact short
  | case3 tree window chunk rest nothing pending ih => exact ih (size_stage_stageBytes _ _)
  | case4 tree window chunk rest something filled filledWindow fills ih =>
    have filledShort := fill_stage short window chunk 0
    rw [fills] at filledShort
    exact ih filledShort
  | case5 tree window rest ih => exact ih short
  | case6 tree window message rest => exact short

/-! ## Reloading through writes

A reload hands each window it reads to `write`, and a failed write ends the reload with its error.
The model writes each window by `stageBytes`, which is what `write` does to an open tree whose
stage is short of a window; reloading keeps the tree so, hence the two reloads agree on every tree
and every source (`reloadByWrites_eq`). -/

/-- `fill`, each whole window handed to `write`: a failed write ends the filling with its error. -/
def fillByWrites (tree : Tree) (window : OpenWindow) (chunk : ByteArray) (offset : Nat) :
    Tree × Except CommitError OpenWindow :=
  let room := windowSize - window.val.size
  if h : chunk.size - offset < room then
    (tree, .ok ⟨window.val ++ chunk.extract offset chunk.size, by
      rw [ByteArray.size_append, ByteArray.size_extract, Nat.min_self]; omega⟩)
  else
    match tree.write (window.val ++ chunk.extract offset (offset + room)) with
    | (tree, .ok _) => fillByWrites tree emptyWindow chunk (offset + room)
    | (tree, .error error) => (tree, .error error)
termination_by chunk.size - offset
decreasing_by have := window.property; omega

/-- `refill`, each window handed to `write`: a failed write ends the reading with its error. -/
def refillByWrites (tree : Tree) (window : OpenWindow) :
    List Reading → Tree × Except CommitError Unit
  | [] =>
      if window.val.size = 0 then (tree, .ok ())
      else
        match tree.write window.val with
        | (tree, .ok _) => (tree, .ok ())
        | (tree, .error error) => (tree, .error error)
  | .bytes chunk :: rest =>
      if chunk.size = 0 then
        if window.val.size = 0 then (tree, .ok ())
        else
          match tree.write window.val with
          | (tree, .ok _) => refillByWrites tree emptyWindow rest
          | (tree, .error error) => (tree, .error error)
      else
        match fillByWrites tree window chunk 0 with
        | (tree, .ok window) => refillByWrites tree window rest
        | (tree, .error error) => (tree, .error error)
  | .interrupted :: rest => refillByWrites tree window rest
  | .failed message :: _ => (tree, .error (.io message))

/-- The reload of the source: a closed tree refuses; an open one is emptied, then every window
read goes through `write`. -/
def reloadByWrites (tree : Tree) (readings : List Reading) : Tree × Except CommitError Unit :=
  if tree.finalized then (tree, .error .treeFinalized)
  else
    refillByWrites { tree with leaves := freshLeaves, stage := .empty, stage_le := Nat.zero_le _ }
      emptyWindow readings

/-- On an open tree with a short stage every write of a window succeeds as `stageBytes`, so
filling through writes fills as `fill` does. -/
theorem fillByWrites_eq {tree : Tree} (isOpen : tree.finalized = false)
    (short : tree.stage.size < windowSize) (window : OpenWindow) (chunk : ByteArray)
    (offset : Nat) :
    tree.fillByWrites window chunk offset =
      ((tree.fill window chunk offset).1, .ok (tree.fill window chunk offset).2) := by
  fun_induction tree.fill window chunk offset with
  | case1 tree window offset room fits =>
    rw [fillByWrites, dif_pos fits]
  | case2 tree window offset room full ih =>
    rw [fillByWrites, dif_neg full, write_eq_stageBytes isOpen short]
    exact ih isOpen (size_stage_stageBytes _ _)

/-- Reading through writes reads as `refill` does, the tree staying open with a short stage. -/
theorem refillByWrites_eq {tree : Tree} (isOpen : tree.finalized = false)
    (short : tree.stage.size < windowSize) (window : OpenWindow) (readings : List Reading) :
    tree.refillByWrites window readings = tree.refill window readings := by
  fun_induction tree.refill window readings with
  | case1 tree window =>
    rw [refillByWrites]
    split
    · rfl
    · rw [write_eq_stageBytes isOpen short]
  | case2 tree window chunk rest nothing empty =>
    rw [refillByWrites, if_pos nothing, if_pos empty]
  | case3 tree window chunk rest nothing pending ih =>
    rw [refillByWrites, if_pos nothing, if_neg pending, write_eq_stageBytes isOpen short]
    exact ih isOpen (size_stage_stageBytes _ _)
  | case4 tree window chunk rest something filled filledWindow fills ih =>
    -- the filled tree is still open and short of a window
    have filledOpen := (fill_keeps tree window chunk 0).1
    have filledShort := fill_stage short window chunk 0
    rw [fills] at filledOpen filledShort
    rw [refillByWrites, if_neg something, fillByWrites_eq isOpen short, fills]
    exact ih (filledOpen.trans isOpen) filledShort
  | case5 tree window rest ih =>
    rw [refillByWrites]
    exact ih isOpen short
  | case6 tree window message rest => rfl

/-- Reloading through writes is the reload, on every tree and every source. -/
theorem reloadByWrites_eq (tree : Tree) (readings : List Reading) :
    tree.reloadByWrites readings = tree.reload readings := by
  unfold reloadByWrites reload
  split
  · rfl
  · next isOpen =>
    exact refillByWrites_eq (by simpa using isOpen) (by exact windowSize_pos) emptyWindow readings

/-- A reading of the fold keeps the stage. -/
theorem stage_of_levels {scheme : Scheme} {tree kept : Tree} {levels : Levels}
    (result : tree.levels scheme = .ok (levels, kept)) : kept.stage = tree.stage := by
  rcases levels_kept result with ⟨-, rfl⟩ | ⟨-, -, -, rfl⟩ <;> rfl

/-- Every call leaves a stage short of a window if it found one. -/
theorem stage_call (scheme : Scheme) {tree : Tree} (short : tree.stage.size < windowSize)
    (call : Call) : (tree.call scheme call).2.stage.size < windowSize := by
  cases isOpen : tree.finalized with
  | true =>
    rcases @call_of_finalized scheme _ isOpen call with same | ⟨-, levels, -, filled⟩
    · rw [same]
      exact short
    · rw [filled]
      exact short
  | false =>
    by_cases reads : call.readsRoot = true
    · -- a reading keeps the stage, whether it fails or keeps a fold
      rcases @call_of_readsRoot scheme tree _ reads with
        ⟨error, refused⟩ | ⟨levels, kept, found, after, -⟩
      · rw [refused]
        exact short
      · rw [after, stage_of_levels found]
        exact short
    · cases call with
      | write data | sinkWrite data =>
        simp only [Tree.call, write_eq_stageBytes isOpen short]
        exact size_stage_stageBytes _ _
      | finalize =>
        obtain ⟨closed, closes, -, emptied, -⟩ := finalize_hands_stage isOpen
        simp [Tree.call, closes, emptied]
      | reload readings =>
        -- a reload starts from an empty stage
        have reloaded : (tree.reload readings).1.stage.size < windowSize := by
          simp only [reload, isOpen, Bool.false_eq_true, ↓reduceIte]
          exact refill_stage (by exact windowSize_pos) emptyWindow readings
        simp only [Tree.call]
        split
        · next after reloads =>
          rw [reloads] at reloaded
          exact reloaded
        · next after fault reloads =>
          rw [reloads] at reloaded
          exact reloaded
      | isFinalized | leafHashes => exact short
      | leafHash index =>
        simp only [Tree.call]
        split <;> exact short
      | _ => simp [Call.readsRoot] at reads

/-! ## The errors a call reports -/

/-- A reading of the fold fails only on an open tree that kept none, or where the fold refuses the
leaf digests. -/
theorem levels_error {scheme : Scheme} {tree : Tree} {error : CommitError}
    (refused : tree.levels scheme = .error error) :
    error = .notFinalized ∨ FoldRefusal (tree.leafDigests scheme) error := by
  unfold Tree.levels at refused
  split at refused
  · cases refused
  · split at refused
    · cases folds : Levels.ofLeaves scheme (tree.leafDigests scheme) with
      | error refusal =>
        simp only [folds, bind, Except.bind, Except.error.injEq] at refused
        subst refused
        exact .inr ((Levels.ofLeaves_eq_error_iff scheme _ refusal).mp folds)
      | ok levels => simp [folds, bind, Except.bind, pure, Except.pure] at refused
    · cases refused
      exact .inl rfl

/-- A reading of the root fails as the reading of the fold does. -/
theorem root_error {scheme : Scheme} {tree : Tree} {error : CommitError}
    (refused : tree.root scheme = .error error) : tree.levels scheme = .error error := by
  unfold Tree.root at refused
  cases found : tree.levels scheme with
  | ok pair => simp [found, Except.map] at refused
  | error error' => simpa [found, Except.map] using refused

/-- A path fails for an index past the leaves, or as the reading of the fold does. -/
theorem buildPath_error {scheme : Scheme} {tree : Tree} {index : Nat} {error : CommitError}
    (refused : tree.buildPath scheme index = .error error) :
    error = .leafIndexOutOfRange index leafCount ∨ tree.levels scheme = .error error := by
  unfold Tree.buildPath at refused
  split at refused
  · cases found : tree.levels scheme with
    | ok pair => simp [found, Except.map] at refused
    | error error' => exact .inr (by simpa [found, Except.map] using refused)
  · cases refused
    exact .inl rfl

/-- A leaf digest fails only for an index past the leaves. -/
theorem leafHash_error {scheme : Scheme} {tree : Tree} {index : Nat} {error : CommitError}
    (refused : tree.leafHash scheme index = .error error) :
    error = .leafIndexOutOfRange index leafCount := by
  unfold leafHash at refused
  split at refused
  · cases refused
  · cases refused
    rfl

/-- A write fails only on a closed tree. -/
theorem write_error {tree written : Tree} {data : ByteArray} {error : CommitError}
    (refused : tree.write data = (written, .error error)) : error = .treeFinalized := by
  cases isOpen : tree.finalized with
  | true =>
    rw [write_of_finalized isOpen] at refused
    cases refused
    rfl
  | false =>
    obtain ⟨_, accepted, -⟩ := write_of_open isOpen data
    rw [accepted] at refused
    cases refused

/-- A finalization fails only on a closed tree. -/
theorem finalize_error {tree closed : Tree} {error : CommitError}
    (refused : tree.finalize = (closed, .error error)) : error = .alreadyFinalized := by
  cases isOpen : tree.finalized with
  | true =>
    rw [finalize_of_finalized isOpen] at refused
    cases refused
    rfl
  | false =>
    obtain ⟨_, closes, -⟩ := Tree.finalize_of_open isOpen
    rw [closes] at refused
    cases refused

/-- A reload fails on a closed tree, or on a fault of its source. -/
theorem reload_error {tree reloaded : Tree} {readings : List Reading} {error : CommitError}
    (refused : tree.reload readings = (reloaded, .error error)) :
    error = .treeFinalized ∨ ∃ message, error = .io message := by
  cases isOpen : tree.finalized with
  | true =>
    rw [reload_of_finalized isOpen] at refused
    cases refused
    exact .inl rfl
  | false =>
    simp only [reload, isOpen, Bool.false_eq_true, ↓reduceIte] at refused
    exact .inr (refill_error _ _ readings (congrArg Prod.snd refused))

/-- The reload of the source, each window through `write`, fails only as the reload does: on a
closed tree or for a failed read, never because a write refused a window. -/
theorem reloadByWrites_error {tree reloaded : Tree} {readings : List Reading}
    {error : CommitError} (refused : tree.reloadByWrites readings = (reloaded, .error error)) :
    error = .treeFinalized ∨ ∃ message, error = .io message := by
  rw [reloadByWrites_eq] at refused
  exact reload_error refused

/-- Every error a call reports is a refusal for the state of the tree, a refusal of the fold of
its leaf digests, or the fault of a source. -/
theorem call_error_cases (scheme : Scheme) {tree : Tree} {call : Call} {error : CommitError}
    (refused : (tree.call scheme call).1 = .failed error ∨
      (tree.call scheme call).1 = .sinkFailed error) :
    error.isStateError = true ∨ FoldRefusal (tree.leafDigests scheme) error ∨
      ∃ message, error = .io message := by
  -- a failed reading of the fold is a state error or a refusal of the fold
  have ofLevels : tree.levels scheme = .error error →
      error.isStateError = true ∨ FoldRefusal (tree.leafDigests scheme) error ∨
        ∃ message, error = .io message := by
    intro found
    rcases levels_error found with rfl | refusal
    · exact .inl rfl
    · exact .inr (.inl refusal)
  -- every call reports the error of the operation it runs
  cases call with
  | isFinalized | leafHashes => simp [Tree.call] at refused
  | write data | sinkWrite data =>
    simp only [Tree.call] at refused
    split at refused
    · simp at refused
    · next written reported writes =>
      obtain rfl : reported = error := by simpa using refused
      rw [write_error writes]
      exact .inl rfl
  | finalize =>
    simp only [Tree.call] at refused
    split at refused
    · simp at refused
    · next closed reported closes =>
      obtain rfl : reported = error := by simpa using refused
      rw [finalize_error closes]
      exact .inl rfl
  | reload readings =>
    simp only [Tree.call] at refused
    split at refused
    · simp at refused
    · next reloaded reported reloads =>
      obtain rfl : reported = error := by simpa using refused
      rcases reload_error reloads with rfl | fault
      · exact .inl rfl
      · exact .inr (.inr fault)
  | leafHash index =>
    simp only [Tree.call] at refused
    split at refused
    · simp at refused
    · next reported hashed =>
      obtain rfl : reported = error := by simpa using refused
      rw [leafHash_error hashed]
      exact .inl rfl
  | root | rootBytes =>
    simp only [Tree.call] at refused
    split at refused
    · simp at refused
    · next reported found =>
      obtain rfl : reported = error := by simpa using refused
      exact ofLevels (root_error found)
  | buildPath index =>
    simp only [Tree.call] at refused
    split at refused
    · simp at refused
    · next reported built =>
      obtain rfl : reported = error := by simpa using refused
      rcases buildPath_error built with rfl | found
      · exact .inl rfl
      · exact ofLevels found

/-- Building a closed tree from a source fails only on a fault of the source. -/
theorem ofReadings_error {readings : List Reading} {error : CommitError}
    (refused : ofReadings readings = .error error) : ∃ message, error = .io message := by
  unfold ofReadings at refused
  split at refused
  · next reloaded reloads =>
    -- the reloaded tree is open, and finalizing an open tree succeeds
    have isOpen : reloaded.finalized = false := by
      have := (@reload_of_open empty rfl readings).1
      rwa [reloads] at this
    obtain ⟨closed, closes, -⟩ := Tree.finalize_of_open isOpen
    simp [closes] at refused
  · next reloaded fault reloads =>
    cases refused
    simp only [reload, empty, Bool.false_eq_true, ↓reduceIte] at reloads
    exact refill_error _ _ readings (congrArg Prod.snd reloads)

/-- No refused window is a refusal for the state of the tree, of the fold, or a fault of a
source. -/
theorem not_windowError (leaves : List Digest) {error : CommitError}
    (window : error.isWindowError = true) :
    error.isStateError = false ∧ ¬ FoldRefusal leaves error ∧ ∀ message, error ≠ .io message := by
  refine ⟨?_, fun refusal => ?_, fun message same => ?_⟩
  · cases error <;> simp_all [CommitError.isWindowError, CommitError.isStateError]
  · cases refusal <;> simp [CommitError.isWindowError] at window
  · subst same
    simp [CommitError.isWindowError] at window

/-- No call reports a refused window, through either kind of failure. -/
theorem call_ne_windowError (scheme : Scheme) (tree : Tree) (call : Call) {error : CommitError}
    (window : error.isWindowError = true) :
    (tree.call scheme call).1 ≠ .failed error ∧ (tree.call scheme call).1 ≠ .sinkFailed error := by
  obtain ⟨notState, notFold, notFault⟩ := not_windowError (tree.leafDigests scheme) window
  have never : ¬ ((tree.call scheme call).1 = .failed error ∨
      (tree.call scheme call).1 = .sinkFailed error) := by
    intro refused
    rcases call_error_cases scheme refused with state | fold | ⟨message, fault⟩
    · simp [notState] at state
    · exact notFold fold
    · exact notFault message fault
  exact ⟨fun failed => never (.inl failed), fun failed => never (.inr failed)⟩

end Tree

/-- Writes are never refused, and no window the leaves are handed is. A write to an open tree whose
stage is short of a window takes all the data: the stage and the data are cut into whole windows,
each of exactly 65536 bytes, which the leaves of the open tree accept one after the other, and the
rest stays staged, short of a window. Finalizing such a tree succeeds, and hands a non-empty stage,
shorter than a window, to the leaves of the closed tree, which accept it. No call on any tree and no
building of a tree from a source reports a refused window, whether too long or short on an open
tree; and every call keeps the stage short of a window, as it is on every tree a session
reaches. -/
theorem writes_never_refused (scheme : Scheme) :
    (∀ tree : Tree, tree.finalized = false → tree.stage.size < windowSize → ∀ data,
      ∃ written, tree.write data = (written, .ok data.size) ∧
        written.finalized = false ∧ written.stage.size < windowSize ∧
        (∀ w < (tree.stage ++ data).size / windowSize,
          (Tree.window (tree.stage ++ data) w).size = windowSize) ∧
        (List.range ((tree.stage ++ data).size / windowSize)).foldlM
          (fun leaves w => Tree.writeToLeaves leaves (Tree.window (tree.stage ++ data) w) false)
          tree.leaves = .ok written.leaves) ∧
    (∀ tree : Tree, tree.finalized = false → tree.stage.size < windowSize →
      ∃ closed, tree.finalize = (closed, .ok ()) ∧ closed.finalized = true ∧
        closed.stage.size = 0 ∧
        (0 < tree.stage.size → Tree.writeToLeaves tree.leaves tree.stage true = .ok closed.leaves) ∧
        (tree.stage.size = 0 → closed.leaves = tree.leaves)) ∧
    (∀ (tree : Tree) call error, error.isWindowError = true →
      (tree.call scheme call).1 ≠ .failed error ∧ (tree.call scheme call).1 ≠ .sinkFailed error) ∧
    (∀ readings error, error.isWindowError = true → Tree.ofReadings readings ≠ .error error) ∧
    (∀ (tree : Tree) call, tree.stage.size < windowSize →
      (tree.call scheme call).2.stage.size < windowSize) ∧
    (∀ calls, (Tree.empty.session scheme calls).2.stage.size < windowSize) := by
  refine ⟨fun tree isOpen short data => ?_, fun tree isOpen _ => ?_,
    fun tree call error window => Tree.call_ne_windowError scheme tree call window,
    fun readings error window built => ?_,
    fun tree call short => Tree.stage_call scheme short call,
    fun calls => @Tree.session_induction scheme Tree.empty (·.stage.size < windowSize)
      (fun _ call short => Tree.stage_call scheme short call) calls windowSize_pos⟩
  · refine ⟨tree.stageBytes data, Tree.write_eq_stageBytes isOpen short data, isOpen,
      Tree.size_stage_stageBytes tree data, fun w before => Tree.size_window before, ?_⟩
    rw [Tree.foldlM_writeToLeaves _ _ (Nat.le_refl _)]
    rfl
  · obtain ⟨closed, closes, closedFlag, emptied, -, dispatched, kept⟩ :=
      Tree.finalize_hands_stage isOpen
    exact ⟨closed, closes, closedFlag, emptied, dispatched, kept⟩
  · obtain ⟨message, fault⟩ := Tree.ofReadings_error built
    exact (Tree.not_windowError [] window).2.2 message fault

end StripedMerkle
