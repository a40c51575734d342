import StripedMerkle.Proofs.Stream

/-!
# Open and closed trees

A tree is open until its first finalization and closed for ever after. This module says once,
call by call, what a call can do in each of the two states, and derives from it how the flag
moves along a session and which refusals leave a tree untouched.

An open tree keeps its kept fold through every call, and only finalization closes it
(`Tree.call_of_open`). A closed tree keeps its leaves, its stage and its flag through every call:
at most the fold of its leaf digests is kept the first time a root or a path is asked for
(`Tree.call_of_finalized`). A refusal for the state of the tree (a change of a closed tree, a
reading of an open one, an index past the leaves) changes nothing (`Tree.call_of_stateError`).

Main statement: `finalize_closes_once`.
-/

namespace StripedMerkle

/-- The errors a call meets through the state of the tree alone: a second finalization, a change
of a closed tree, a root or a path of an open tree, and an index past the leaves. -/
def CommitError.isStateError : CommitError → Bool
  | .alreadyFinalized | .treeFinalized | .notFinalized | .leafIndexOutOfRange _ _ => true
  | _ => false

/-- Whether a call reads the root: as text, as a digest, or inside a path. -/
def Call.readsRoot : Call → Bool
  | .root | .rootBytes | .buildPath _ => true
  | _ => false

/-- `Reports call reply root`: the reply to a reading of the root, as text or as a digest, or of
a path, names `root`. -/
inductive Reports : Call → Reply → Digest → Prop where
  /-- The root as text is the hexadecimal form of the root. -/
  | root (root : Digest) : Reports .root (.hex root.toHex) root
  /-- The root as a digest. -/
  | rootBytes (root : Digest) : Reports .rootBytes (.digest root) root
  /-- A path names the root it claims. -/
  | buildPath (index : Nat) (path : Path) : Reports (.buildPath index) (.path path) path.root

/-- A reply that reports a root is no failure. -/
theorem Reports.ne_failed {call : Call} {reply : Reply} {root : Digest}
    (reports : Reports call reply root) (error : CommitError) :
    reply ≠ .failed error ∧ reply ≠ .sinkFailed error := by
  cases reports <;> simp

namespace Tree

variable {scheme : Scheme} {tree : Tree}

/-! ## What each operation does to an open or a closed tree -/

theorem write_of_finalized (closed : tree.finalized = true) (data : ByteArray) :
    tree.write data = (tree, .error .treeFinalized) := by
  simp [write, closed]

/-- The write loop of an open tree only ever hands whole windows on, so no window is refused;
the flag and the kept fold stay as they were. -/
theorem writeFrom_of_open (isOpen : tree.finalized = false) (data : ByteArray) (offset : Nat) :
    ∃ written, tree.writeFrom data offset = (written, .ok ()) ∧
      written.finalized = false ∧ written.cache = tree.cache := by
  fun_induction tree.writeFrom data offset with
  | case1 tree offset inside take copied whole flushed flushes =>
    rename_i ih
    obtain ⟨_, accepted, -, -, sameFlag, kept⟩ := flushWindow_of_accepted (.inl whole)
    obtain ⟨rfl, -⟩ := Prod.mk.inj (flushes.symm.trans accepted)
    obtain ⟨written, loops, stillOpen, sameCache⟩ := ih (sameFlag.trans isOpen)
    exact ⟨written, loops, stillOpen, sameCache.trans kept⟩
  | case2 tree offset inside take copied whole failed error =>
    rename_i flushes
    obtain ⟨_, accepted, -⟩ := flushWindow_of_accepted (.inl whole)
    cases (Prod.mk.inj (flushes.symm.trans accepted)).2
  | case3 tree offset inside take copied notWhole =>
    rename_i ih
    exact ih isOpen
  | case4 tree offset past => exact ⟨tree, rfl, isOpen, rfl⟩

theorem write_of_open (isOpen : tree.finalized = false) (data : ByteArray) :
    ∃ written, tree.write data = (written, .ok data.size) ∧
      written.finalized = false ∧ written.cache = tree.cache := by
  obtain ⟨written, loops, stillOpen, sameCache⟩ := writeFrom_of_open isOpen data 0
  exact ⟨written, by simp [write, isOpen, loops], stillOpen, sameCache⟩

theorem finalize_of_finalized (closed : tree.finalized = true) :
    tree.finalize = (tree, .error .alreadyFinalized) := by
  simp [finalize, closed]

/-- Finalizing an open tree always succeeds: the closed tree accepts a short last window. -/
theorem finalize_of_open (isOpen : tree.finalized = false) :
    ∃ closed, tree.finalize = (closed, .ok ()) ∧
      closed.finalized = true ∧ closed.cache = tree.cache := by
  by_cases staged : 0 < tree.stage.size
  · obtain ⟨closed, flushes, -, -, closedFlag, kept⟩ :=
      @flushWindow_of_accepted { tree with finalized := true } (.inr rfl)
    exact ⟨closed, by simpa [finalize, isOpen, staged] using flushes, closedFlag, kept⟩
  · exact ⟨{ tree with finalized := true }, by simp [finalize, isOpen, staged], rfl, rfl⟩

/-- Reading a window from a chunk writes whole windows only: flag and kept fold stay. -/
theorem fill_keeps (tree : Tree) (window : OpenWindow) (chunk : ByteArray) (offset : Nat) :
    (tree.fill window chunk offset).1.finalized = tree.finalized ∧
      (tree.fill window chunk offset).1.cache = tree.cache := by
  fun_induction tree.fill window chunk offset with
  | case1 tree window offset room fits => exact ⟨rfl, rfl⟩
  | case2 tree window offset room full ih => exact ih

theorem refill_keeps (tree : Tree) (window : OpenWindow) (readings : List Reading) :
    (tree.refill window readings).1.finalized = tree.finalized ∧
      (tree.refill window readings).1.cache = tree.cache := by
  fun_induction tree.refill window readings with
  | case1 tree window => split <;> exact ⟨rfl, rfl⟩
  | case2 tree window chunk rest nothing empty => exact ⟨rfl, rfl⟩
  | case3 tree window chunk rest nothing pending ih => exact ih
  | case4 tree window chunk rest something filled filledWindow fills ih =>
    have kept := fill_keeps tree window chunk 0
    rw [fills] at kept
    exact ⟨ih.1.trans kept.1, ih.2.trans kept.2⟩
  | case5 tree window rest ih => exact ih
  | case6 tree window message rest => exact ⟨rfl, rfl⟩

/-- A reload ends, if at all, on a fault of its source. -/
theorem refill_error (tree : Tree) (window : OpenWindow) (readings : List Reading)
    {error : CommitError} (failed : (tree.refill window readings).2 = .error error) :
    ∃ message, error = .io message := by
  fun_induction tree.refill window readings with
  | case1 tree window => split at failed <;> cases failed
  | case2 tree window chunk rest nothing empty => cases failed
  | case3 tree window chunk rest nothing pending ih => exact ih failed
  | case4 tree window chunk rest something filled filledWindow fills ih => exact ih failed
  | case5 tree window rest ih => exact ih failed
  | case6 tree window message rest =>
    cases failed
    exact ⟨message, rfl⟩

theorem reload_of_finalized (closed : tree.finalized = true) (readings : List Reading) :
    tree.reload readings = (tree, .error .treeFinalized) := by
  simp [reload, closed]

theorem reload_of_open (isOpen : tree.finalized = false) (readings : List Reading) :
    (tree.reload readings).1.finalized = false ∧ (tree.reload readings).1.cache = tree.cache := by
  simp only [reload, isOpen, Bool.false_eq_true, ↓reduceIte]
  exact refill_keeps _ _ readings

/-- A fold that a reading returns is the kept one, or the fold of the leaf digests of a closed
tree that kept none, which it keeps from then on. -/
theorem levels_kept {levels : Levels} {kept : Tree}
    (result : tree.levels scheme = .ok (levels, kept)) :
    (tree.cache = some levels ∧ kept = tree) ∨
      (tree.cache = none ∧ tree.finalized = true ∧
        Levels.ofLeaves scheme (tree.leafDigests scheme) = .ok levels ∧
        kept = { tree with cache := some levels }) := by
  unfold Tree.levels at result
  split at result
  · next found =>
    cases result
    exact .inl ⟨found, rfl⟩
  · next empty =>
    split at result
    · next closed =>
      cases folded : Levels.ofLeaves scheme (tree.leafDigests scheme) with
      | error error => simp [folded, bind, Except.bind] at result
      | ok found =>
        simp only [folded, bind, Except.bind, pure, Except.pure, Except.ok.injEq,
          Prod.mk.injEq] at result
        obtain ⟨rfl, rfl⟩ := result
        exact .inr ⟨empty, closed, rfl, rfl⟩
    · cases result

/-- An open tree with no kept fold has no root. -/
theorem levels_of_open (isOpen : tree.finalized = false) (empty : tree.cache = none) :
    tree.levels scheme = .error .notFinalized := by
  simp [levels, isOpen, empty]

/-! ## What one call does -/

/-- A reading of the root or of a path fails and keeps the tree, or reports the root of the fold
it finds and leaves the tree that fold reading leaves. -/
theorem call_of_readsRoot {call : Call} (reads : call.readsRoot = true) :
    (∃ error, tree.call scheme call = (.failed error, tree)) ∨
      ∃ levels kept, tree.levels scheme = .ok (levels, kept) ∧
        (tree.call scheme call).2 = kept ∧
        Reports call (tree.call scheme call).1 levels.root := by
  cases call with
  | root =>
    simp only [call]
    split
    · next root kept found =>
      obtain ⟨levels, folded, rfl⟩ := levels_of_root found
      exact .inr ⟨levels, kept, folded, rfl, .root _⟩
    · next error failed => exact .inl ⟨error, rfl⟩
  | rootBytes =>
    simp only [call]
    split
    · next root kept found =>
      obtain ⟨levels, folded, rfl⟩ := levels_of_root found
      exact .inr ⟨levels, kept, folded, rfl, .rootBytes _⟩
    · next error failed => exact .inl ⟨error, rfl⟩
  | buildPath index =>
    by_cases inRange : index < leafCount
    · cases found : tree.levels scheme with
      | ok pair =>
        obtain ⟨levels, kept⟩ := pair
        have paths : tree.call scheme (.buildPath index) =
            (.path ⟨levels.leaves[index]?.getD default, levels.root, levels.path index,
              index.toUInt64⟩, kept) := by
          simp [call, buildPath, inRange, found, Except.map]
        rw [paths]
        exact .inr ⟨levels, kept, rfl, rfl, .buildPath index _⟩
      | error error => exact .inl ⟨error, by simp [call, buildPath, inRange, found, Except.map]⟩
    · exact .inl ⟨.leafIndexOutOfRange index leafCount, by simp [call, buildPath, inRange]⟩
  | _ => simp [Call.readsRoot] at reads

/-- What a call can do to a closed tree: nothing, or keep the fold of its leaf digests when it
kept none. Its leaves, stage and flag never change again. -/
theorem call_of_finalized (closed : tree.finalized = true) (call : Call) :
    (tree.call scheme call).2 = tree ∨ tree.cache = none ∧ ∃ levels,
      Levels.ofLeaves scheme (tree.leafDigests scheme) = .ok levels ∧
        (tree.call scheme call).2 = { tree with cache := some levels } := by
  by_cases reads : call.readsRoot = true
  · rcases @call_of_readsRoot scheme tree _ reads with
      ⟨error, refused⟩ | ⟨levels, kept, found, after, -⟩
    · exact .inl (by rw [refused])
    · rw [after]
      rcases levels_kept found with ⟨-, same⟩ | ⟨empty, -, folded, filled⟩
      · exact .inl same
      · exact .inr ⟨empty, levels, folded, filled⟩
  · left
    cases call with
    | write data | sinkWrite data => simp [call, write_of_finalized closed]
    | finalize => simp [call, finalize_of_finalized closed]
    | isFinalized | leafHashes => rfl
    | leafHash index =>
      simp only [call]
      split <;> rfl
    | reload readings => simp [call, reload_of_finalized closed]
    | _ => simp [Call.readsRoot] at reads

/-- What a call can do to an open tree: it keeps the kept fold, and closes the tree exactly when
it is a finalization. -/
theorem call_of_open (isOpen : tree.finalized = false) (call : Call) :
    (tree.call scheme call).2.cache = tree.cache ∧
      ((tree.call scheme call).2.finalized = true ↔ call = .finalize) := by
  by_cases reads : call.readsRoot = true
  · rcases @call_of_readsRoot scheme tree _ reads with
      ⟨error, refused⟩ | ⟨levels, kept, found, after, -⟩
    · rw [refused, isOpen]
      cases call <;> simp_all [Call.readsRoot]
    · -- an open tree's reading returns it as it is: only a closed tree keeps a new fold
      have same : kept = tree := by
        rcases levels_kept found with ⟨-, same⟩ | ⟨-, closed, -⟩
        · exact same
        · exact absurd (isOpen.symm.trans closed) (by decide)
      rw [after, same, isOpen]
      cases call <;> simp_all [Call.readsRoot]
  · cases call with
    | write data | sinkWrite data =>
      obtain ⟨written, accepted, stillOpen, kept⟩ := write_of_open isOpen data
      simp [call, accepted, stillOpen, kept]
    | finalize =>
      obtain ⟨closed, closes, closedFlag, kept⟩ := finalize_of_open isOpen
      simp [call, closes, closedFlag, kept]
    | isFinalized => simp [call, isOpen]
    | leafHash index =>
      simp only [call]
      split <;> simp [isOpen]
    | leafHashes => simp [call, isOpen]
    | reload readings =>
      obtain ⟨stillOpen, kept⟩ := @reload_of_open tree isOpen readings
      simp only [call]
      split <;> simp_all
    | _ => simp [Call.readsRoot] at reads

/-- A call refused for the state of the tree leaves every part of the tree as it was: leaves,
stage, flag and kept fold. -/
theorem call_of_stateError {call : Call} {error : CommitError}
    (stateError : error.isStateError = true)
    (refused : (tree.call scheme call).1 = .failed error ∨
      (tree.call scheme call).1 = .sinkFailed error) :
    (tree.call scheme call).2 = tree := by
  by_cases reads : call.readsRoot = true
  · rcases @call_of_readsRoot scheme tree _ reads with
      ⟨other, failed⟩ | ⟨levels, kept, -, -, reports⟩
    · rw [failed]
    · have := reports.ne_failed error
      rcases refused with refused | refused <;> simp_all
  · cases call with
    | write data | sinkWrite data =>
      cases isOpen : tree.finalized with
      | true => simp [call, write_of_finalized isOpen]
      | false =>
        obtain ⟨written, accepted, -⟩ := write_of_open isOpen data
        simp [call, accepted] at refused
    | finalize =>
      cases isOpen : tree.finalized with
      | true => simp [call, finalize_of_finalized isOpen]
      | false =>
        obtain ⟨closed, closes, -⟩ := finalize_of_open isOpen
        simp [call, closes] at refused
    | isFinalized | leafHashes => rfl
    | leafHash index =>
      simp only [call]
      split <;> rfl
    | reload readings =>
      cases isOpen : tree.finalized with
      | true => simp [call, reload_of_finalized isOpen]
      | false =>
        -- an open tree's reload fails only on a fault of its source, no state error
        simp only [call] at refused
        split at refused
        · simp at refused
        · next reloaded fault reloads =>
          simp only [Reply.failed.injEq, reduceCtorEq, or_false] at refused
          subst refused
          simp only [reload, isOpen, Bool.false_eq_true, ↓reduceIte] at reloads
          obtain ⟨message, rfl⟩ := refill_error _ _ readings (congrArg Prod.snd reloads)
          simp [CommitError.isStateError] at stateError
    | _ => simp [Call.readsRoot] at reads

/-! ## Along a session -/

@[simp] theorem session_nil : tree.session scheme [] = ([], tree) := rfl

@[simp] theorem session_cons (call : Call) (calls : List Call) :
    tree.session scheme (call :: calls) =
      ((tree.call scheme call).1 :: ((tree.call scheme call).2.session scheme calls).1,
        ((tree.call scheme call).2.session scheme calls).2) := rfl

/-- A property of trees that every call keeps holds after every session. -/
theorem session_induction {holds : Tree → Prop}
    (step : ∀ tree call, holds tree → holds (tree.call scheme call).2) (calls : List Call)
    (start : holds tree) : holds (tree.session scheme calls).2 := by
  induction calls generalizing tree with
  | nil => exact start
  | cons call calls ih => exact ih (step tree call start)

/-- A closed tree stays closed through every session, with the same leaves and stage. -/
theorem session_of_finalized (closed : tree.finalized = true) (calls : List Call) :
    (tree.session scheme calls).2.finalized = true ∧
      (tree.session scheme calls).2.leaves = tree.leaves ∧
      (tree.session scheme calls).2.stage = tree.stage := by
  refine @session_induction scheme tree (fun after => after.finalized = true ∧
    after.leaves = tree.leaves ∧ after.stage = tree.stage) ?_ calls ⟨closed, rfl, rfl⟩
  intro before call ⟨stillClosed, sameLeaves, sameStage⟩
  rcases @call_of_finalized scheme _ stillClosed call with same | ⟨-, levels, -, filled⟩
  · rw [same]
    exact ⟨stillClosed, sameLeaves, sameStage⟩
  · rw [filled]
    exact ⟨stillClosed, sameLeaves, sameStage⟩

/-- A session closes an open tree exactly when one of its calls is a finalization. -/
theorem finalized_session_iff (isOpen : tree.finalized = false) (calls : List Call) :
    (tree.session scheme calls).2.finalized = true ↔ Call.finalize ∈ calls := by
  induction calls generalizing tree with
  | nil => simp [isOpen]
  | cons call calls ih =>
    have closes := (@call_of_open scheme _ isOpen call).2
    by_cases finalizes : call = .finalize
    · have after := @session_of_finalized scheme _ (closes.mpr finalizes) calls
      rw [session_cons, finalizes]
      exact ⟨fun _ => List.mem_cons_self, fun _ => finalizes ▸ after.1⟩
    · have stillOpen : (tree.call scheme call).2.finalized = false := by
        simpa [finalizes] using closes
      rw [session_cons, ih stillOpen, List.mem_cons]
      exact ⟨.inr, fun found => found.resolve_left (Ne.symm finalizes)⟩

end Tree

/-- Finalization closes a tree once and for all. After every session of a fresh tree, the tree is
closed exactly when the session finalized it, and it stays closed through every later session; a
finalization succeeds if none came before and is refused otherwise, and then so is every write,
through either interface and whatever its bytes, and every reload; and every call refused for the
state of the tree leaves it exactly as it was. -/
theorem finalize_closes_once (scheme : Scheme) (calls : List Call) :
    let tree := (Tree.empty.session scheme calls).2
    (tree.finalized = true ↔ Call.finalize ∈ calls) ∧
    (∀ more, tree.finalized = true → (tree.session scheme more).2.finalized = true) ∧
    (Call.finalize ∉ calls →
      ∃ closed, tree.call scheme .finalize = (.done, closed) ∧ closed.finalized = true) ∧
    (Call.finalize ∈ calls →
      tree.call scheme .finalize = (.failed .alreadyFinalized, tree) ∧
      ∀ data readings, tree.call scheme (.write data) = (.failed .treeFinalized, tree) ∧
        tree.call scheme (.sinkWrite data) = (.sinkFailed .treeFinalized, tree) ∧
        tree.call scheme (.reload readings) = (.failed .treeFinalized, tree)) ∧
    (∀ call error, error.isStateError = true →
      ((tree.call scheme call).1 = .failed error ∨
        (tree.call scheme call).1 = .sinkFailed error) →
      (tree.call scheme call).2 = tree) := by
  intro tree
  have closedIff : tree.finalized = true ↔ Call.finalize ∈ calls :=
    Tree.finalized_session_iff rfl calls
  refine ⟨closedIff, fun more closed => (Tree.session_of_finalized closed more).1, ?_, ?_,
    fun call error stateError refused => Tree.call_of_stateError stateError refused⟩
  · intro notYet
    have isOpen : tree.finalized = false := by
      rw [← Bool.not_eq_true, closedIff]
      exact notYet
    obtain ⟨closed, closes, closedFlag, -⟩ := Tree.finalize_of_open isOpen
    exact ⟨closed, by simp [Tree.call, closes], closedFlag⟩
  · intro already
    have closed := closedIff.mpr already
    refine ⟨by simp [Tree.call, Tree.finalize_of_finalized closed], fun data readings => ?_⟩
    simp [Tree.call, Tree.write_of_finalized closed, Tree.reload_of_finalized closed]

end StripedMerkle
