import StripedMerkle.Proofs.Fold

/-!
# The range check of a path

Replaying a path of `d` partners reads the lowest `d` bits of its index, one per level, and no
other: the replay from index `i` and the one from `i + m 2ᵈ` are the same. Left alone, an index
past the leaves of a tree would therefore reach the root of the leaf its low bits name. The
verifier stops this with its range check, and the check is exact for every length of path: the
length is taken as a 32-bit count that saturates, the shift by it is a checked one that gives up
past the width of the word, and both fallbacks land where the test `index < 2ᵈ` does, since no
64-bit index reaches `2⁶⁴`.

Main statement: `range_check_stops_aliasing`.
-/

namespace StripedMerkle

namespace Path

variable (scheme : Scheme)

/-- A replay reads only the lowest bits of its position, one per partner. -/
theorem replay_mod_two_pow (current : Digest) (position : Nat) (partners : List Digest) :
    replay scheme current position partners =
      replay scheme current (position % 2 ^ partners.length) partners := by
  induction partners generalizing current position with
  | nil => rfl
  | cons partner above ih =>
    -- the low bit picks the side, and the next position keeps the bits above it
    have parity : position % 2 ^ (above.length + 1) % 2 = position % 2 :=
      Nat.mod_mod_of_dvd _ (Nat.dvd_of_mod_eq_zero (by simp [Nat.pow_succ, Nat.mul_mod_left]))
    have halved : position % 2 ^ (above.length + 1) / 2 % 2 ^ above.length =
        position / 2 % 2 ^ above.length := by
      rw [Nat.pow_succ, Nat.mul_comm, Nat.mod_mul_right_div_self, Nat.mod_mod]
    rw [List.length_cons, replay_cons, replay_cons, ih,
      ih _ (position % 2 ^ (above.length + 1) / 2), halved, join, join, parity]

/-- Two positions with the same lowest bits replay a path alike. -/
theorem replay_congr_mod {current : Digest} {position position' : Nat} {partners : List Digest}
    (same : position % 2 ^ partners.length = position' % 2 ^ partners.length) :
    replay scheme current position partners = replay scheme current position' partners := by
  rw [replay_mod_two_pow, same, ← replay_mod_two_pow]

/-- An index moved by whole multiples of `2 ^ d` replays a path of `d` partners alike. -/
theorem computeRoot_shift (path : Path) {i m : Nat}
    (fits : i + m * 2 ^ path.nodes.length < 2 ^ 64) :
    { path with index := (i + m * 2 ^ path.nodes.length).toUInt64 }.computeRoot scheme =
      { path with index := i.toUInt64 }.computeRoot scheme := by
  have moved :
      (i + m * 2 ^ path.nodes.length).toUInt64.toNat = i + m * 2 ^ path.nodes.length := by
    simp only [Nat.toUInt64_eq, UInt64.toNat_ofNat']
    omega
  have original : i.toUInt64.toNat = i := by
    simp only [Nat.toUInt64_eq, UInt64.toNat_ofNat']
    omega
  apply replay_congr_mod
  rw [moved, original, Nat.add_mul_mod_self_right]

end Path

/-- The range check of a path is exact, for every number `d` of partners and every 64-bit index:
a path verifies exactly when its index is below `2 ^ d` and its replay reaches its root. The replay
reads the index only modulo `2 ^ d`, so moving the index by whole multiples of `2 ^ d` reaches the
same root; the moved index fails the check, which is all that keeps it from naming the leaf its low
bits name. -/
theorem range_check_stops_aliasing (scheme : Scheme) (path : Path) :
    (path.verify scheme = true ↔
      path.index.toNat < 2 ^ path.nodes.length ∧ path.computeRoot scheme = path.root) ∧
    path.computeRoot scheme =
      Path.replay scheme path.leaf (path.index.toNat % 2 ^ path.nodes.length) path.nodes ∧
    ∀ i m : Nat, i + m * 2 ^ path.nodes.length < 2 ^ 64 →
      { path with index := (i + m * 2 ^ path.nodes.length).toUInt64 }.computeRoot scheme =
          { path with index := i.toUInt64 }.computeRoot scheme ∧
        (0 < m →
          { path with index := (i + m * 2 ^ path.nodes.length).toUInt64 }.verify scheme =
            false) := by
  refine ⟨Path.verify_eq_true_iff scheme path, Path.replay_mod_two_pow scheme _ _ _,
    fun i m fits => ⟨Path.computeRoot_shift scheme path fits, fun moved => ?_⟩⟩
  -- the moved index is at least `2 ^ d`, so its high bits are not all clear
  have past : ¬ (i + m * 2 ^ path.nodes.length).toUInt64.toNat < 2 ^ path.nodes.length := by
    simp only [Nat.toUInt64_eq, UInt64.toNat_ofNat']
    have : 2 ^ path.nodes.length ≤ m * 2 ^ path.nodes.length := Nat.le_mul_of_pos_left _ moved
    omega
  rw [← Bool.not_eq_true, Path.verify_eq_true_iff]
  exact fun verifies => past verifies.1

end StripedMerkle
