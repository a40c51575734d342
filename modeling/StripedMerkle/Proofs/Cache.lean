import StripedMerkle.Proofs.Lifecycle
import StripedMerkle.Proofs.Fold

/-!
# The kept fold

A tree folds its leaf digests the first time a closed tree is asked for its root or a path, and
keeps that fold for every later reading; nothing ever discards it. The kept fold stays right
because nothing that changes the leaves can happen once it is kept: it is kept by closed trees
only, and closed trees keep their leaves.

`Tree.CacheSound` says a kept fold belongs to a closed tree and is the fold of its leaf digests.
Every call keeps it (`Tree.CacheSound.call`), so every session does. Each reading of the root or
of a path from a tree where it holds fails, or reports the root of the leaf digests of a closed
tree (`Tree.CacheSound.reports`), and those leaf digests never change again. Main statement:
`cached_root_agrees`.
-/

namespace StripedMerkle

namespace Tree

variable {scheme : Scheme} {tree : Tree}

/-- A kept fold belongs to a closed tree and is the fold of its leaf digests. -/
def CacheSound (scheme : Scheme) (tree : Tree) : Prop :=
  ∀ levels, tree.cache = some levels →
    tree.finalized = true ∧ Levels.ofLeaves scheme (tree.leafDigests scheme) = .ok levels

@[simp] theorem length_leafDigests (scheme : Scheme) (tree : Tree) :
    (tree.leafDigests scheme).length = leafCount := by
  simp [leafDigests]

/-- The 1024 leaf digests of a tree always fold. -/
theorem leafDigests_fold (scheme : Scheme) (tree : Tree) :
    ∃ levels, Levels.ofLeaves scheme (tree.leafDigests scheme) = .ok levels := by
  have nonempty : tree.leafDigests scheme ≠ [] := by
    rw [← List.length_pos_iff, length_leafDigests]
    decide
  have small : (tree.leafDigests scheme).length ≤ 2048 := by
    rw [length_leafDigests]
    decide
  obtain ⟨levels, folds, -⟩ := Levels.ofLeaves_isOk scheme nonempty small
  exact ⟨levels, folds⟩

theorem CacheSound.empty (scheme : Scheme) : Tree.empty.CacheSound scheme := by
  intro levels kept
  cases kept

theorem CacheSound.cache_of_open (sound : tree.CacheSound scheme)
    (isOpen : tree.finalized = false) : tree.cache = none := by
  cases kept : tree.cache with
  | none => rfl
  | some levels => simp [(sound levels kept).1] at isOpen

/-- Every call keeps a sound cache: an open tree keeps its empty cache, and a closed tree keeps
its leaves, so a fold it keeps now is still the fold of its leaf digests. -/
theorem CacheSound.call (sound : tree.CacheSound scheme) (call : Call) :
    (tree.call scheme call).2.CacheSound scheme := by
  cases isOpen : tree.finalized with
  | false =>
    intro levels kept
    rw [(call_of_open isOpen call).1, sound.cache_of_open isOpen] at kept
    cases kept
  | true =>
    rcases @call_of_finalized scheme _ isOpen call with same | ⟨-, levels, folded, filled⟩
    · rw [same]
      exact sound
    · rw [filled]
      intro found kept
      cases kept
      exact ⟨isOpen, folded⟩

theorem CacheSound.session (sound : tree.CacheSound scheme) (calls : List Call) :
    (tree.session scheme calls).2.CacheSound scheme :=
  session_induction (fun _ call holds => holds.call call) calls sound

/-- A reading of the root or of a path from a tree with a sound cache fails, or the tree is
closed and the reply reports the root of the fold of its leaf digests. -/
theorem CacheSound.reports (sound : tree.CacheSound scheme) {call : Call}
    (reads : call.readsRoot = true) :
    (∃ error, (tree.call scheme call).1 = .failed error) ∨
      tree.finalized = true ∧ ∃ levels,
        Levels.ofLeaves scheme (tree.leafDigests scheme) = .ok levels ∧
        Reports call (tree.call scheme call).1 levels.root := by
  rcases @call_of_readsRoot scheme tree _ reads with
    ⟨error, refused⟩ | ⟨levels, kept, found, -, reports⟩
  · exact .inl ⟨error, by rw [refused]⟩
  · right
    rcases levels_kept found with ⟨cached, -⟩ | ⟨-, closed, folded, -⟩
    · exact ⟨(sound levels cached).1, levels, (sound levels cached).2, reports⟩
    · exact ⟨closed, levels, folded, reports⟩

/-- An open tree with a sound cache keeps no fold, and refuses its root, as text or as a digest,
and the path of every leaf as not yet closed, staying as it is. -/
theorem CacheSound.readings_of_open (sound : tree.CacheSound scheme)
    (isOpen : tree.finalized = false) :
    tree.cache = none ∧
      tree.call scheme .root = (.failed .notFinalized, tree) ∧
      tree.call scheme .rootBytes = (.failed .notFinalized, tree) ∧
      ∀ index < leafCount,
        tree.call scheme (.buildPath index) = (.failed .notFinalized, tree) := by
  have empty := sound.cache_of_open isOpen
  have refused : tree.levels scheme = .error .notFinalized := levels_of_open isOpen empty
  refine ⟨empty, ?_, ?_, fun index inRange => ?_⟩
  · simp [Tree.call, Tree.root, refused, Except.map]
  · simp [Tree.call, Tree.root, refused, Except.map]
  · simp [Tree.call, Tree.buildPath, inRange, refused, Except.map]

/-! ## The replies of a session -/

/-- The reply a session gives at position `k` is the reply of its call there to the tree the calls
before it leave. -/
theorem reply_session {calls : List Call} {k : Nat} {call : Call}
    (found : calls[k]? = some call) :
    (tree.session scheme calls).1[k]? =
      some ((tree.session scheme (calls.take k)).2.call scheme call).1 := by
  induction calls generalizing tree k with
  | nil => simp at found
  | cons first calls ih =>
    cases k with
    | zero =>
      simp only [List.getElem?_cons_zero, Option.some.injEq] at found
      simp [found]
    | succ k =>
      simp only [List.getElem?_cons_succ] at found
      simp [ih found]

/-- From a closed tree with a sound cache, every reading of the root or of a path along a session
fails or reports the root of the fold of the leaf digests, which are those of every tree the
session passes through. -/
theorem CacheSound.reports_of_finalized (sound : tree.CacheSound scheme)
    (closed : tree.finalized = true) {levels : Levels}
    (folded : Levels.ofLeaves scheme (tree.leafDigests scheme) = .ok levels) (calls : List Call)
    {k : Nat} {call : Call} {reply : Reply} (found : calls[k]? = some call)
    (replied : (tree.session scheme calls).1[k]? = some reply) (reads : call.readsRoot = true) :
    (∃ error, reply = .failed error) ∨
      Reports call reply levels.root ∧
        merkleRoot scheme ((tree.session scheme (calls.take k)).2.leafDigests scheme) =
          .ok levels.root := by
  rw [reply_session found, Option.some.injEq] at replied
  subst replied
  -- the tree before position `k` is closed, sound, and has the leaves of `tree`
  obtain ⟨-, sameLeaves, -⟩ := @session_of_finalized scheme _ closed (calls.take k)
  have sameDigests : (tree.session scheme (calls.take k)).2.leafDigests scheme =
      tree.leafDigests scheme := by
    rw [leafDigests, sameLeaves, leafDigests]
  rcases (sound.session (calls.take k)).reports reads with
    failed | ⟨-, found, refolded, reports⟩
  · exact .inl failed
  · rw [sameDigests, folded, Except.ok.injEq] at refolded
    subst refolded
    exact .inr ⟨reports, by rw [sameDigests, merkleRoot_of_ofLeaves folded]⟩

/-- Along every session from a tree with a sound cache there is one root such that every reading
of the root or of a path fails or reports it, and it is the root of the leaf digests at the
moment of the reading. -/
theorem CacheSound.session_reports (sound : tree.CacheSound scheme) (calls : List Call) :
    ∃ root, ∀ k call reply, calls[k]? = some call →
      (tree.session scheme calls).1[k]? = some reply → call.readsRoot = true →
      (∃ error, reply = .failed error) ∨
        Reports call reply root ∧
          merkleRoot scheme ((tree.session scheme (calls.take k)).2.leafDigests scheme) =
            .ok root := by
  induction calls generalizing tree with
  | nil => exact ⟨default, fun k call reply found => by simp at found⟩
  | cons first calls ih =>
    cases isOpen : tree.finalized with
    | true =>
      -- a closed tree reports the root of its leaf digests for ever
      obtain ⟨levels, folded⟩ := leafDigests_fold scheme tree
      exact ⟨levels.root, fun k call reply found replied reads =>
        sound.reports_of_finalized isOpen folded _ found replied reads⟩
    | false =>
      -- an open tree refuses the first reading; the rest is a session of the tree after it
      obtain ⟨root, later⟩ := ih (sound.call first)
      refine ⟨root, fun k call reply found replied reads => ?_⟩
      cases k with
      | zero =>
        simp only [List.getElem?_cons_zero, Option.some.injEq] at found
        subst found
        simp only [session_cons, List.getElem?_cons_zero, Option.some.injEq] at replied
        subst replied
        rcases sound.reports reads with failed | ⟨closed, -⟩
        · exact .inl failed
        · simp [isOpen] at closed
      | succ k =>
        simp only [List.getElem?_cons_succ] at found
        simp only [session_cons, List.getElem?_cons_succ] at replied
        simpa using later k call reply found replied reads

end Tree

/-- The kept fold of a tree never goes stale. After every session of a fresh tree, a kept fold
belongs to a closed tree and is the fold of its leaf digests; an open tree keeps no fold and
refuses its root, as text or as a digest, and the path of every leaf, staying as it is; and there
is one root that every reading of the root or of a path in the session either fails or reports
(as hexadecimal text, as a digest, or as the root a path claims), the root of the leaf digests at
the moment of the reading. -/
theorem cached_root_agrees (scheme : Scheme) (calls : List Call) :
    let run := Tree.empty.session scheme calls
    (∀ levels, run.2.cache = some levels →
      run.2.finalized = true ∧ Levels.ofLeaves scheme (run.2.leafDigests scheme) = .ok levels) ∧
    (run.2.finalized = false → run.2.cache = none ∧
      run.2.call scheme .root = (.failed .notFinalized, run.2) ∧
      run.2.call scheme .rootBytes = (.failed .notFinalized, run.2) ∧
      ∀ index < leafCount,
        run.2.call scheme (.buildPath index) = (.failed .notFinalized, run.2)) ∧
    ∃ root, ∀ k call reply, calls[k]? = some call → run.1[k]? = some reply →
      call.readsRoot = true →
      (∃ error, reply = .failed error) ∨
        Reports call reply root ∧
          merkleRoot scheme ((Tree.empty.session scheme (calls.take k)).2.leafDigests scheme) =
            .ok root := by
  intro run
  have sound : run.2.CacheSound scheme := (Tree.CacheSound.empty scheme).session calls
  exact ⟨sound, sound.readings_of_open, (Tree.CacheSound.empty scheme).session_reports calls⟩

end StripedMerkle
