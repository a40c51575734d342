import StripedMerkle.Path.Binary
import Mathlib

/-!
# The binary form of a path

A path is read back from exactly the byte strings laid out as its leaf and its root, 32 bytes
each, a varint of its partner count, the partners, 32 bytes each, and a varint of its index, with
nothing after, where each varint may take any of its forms and the count and the index are in
range; every other byte string is refused. Writing picks the shortest varints, so writing what
was read gives back exactly the byte strings whose varints are shortest.

`Binary.Varint.Spells` is the grammar of varints, written from the format and not from the reader,
and `Binary.Varint.Minimal` is the shortest form of a value. The forms of varints are prefix-free
(`Binary.Varint.Spells.append_inj`), so a byte string is laid out in at most one way
(`Path.layout_inj`). `Path.decode_layout` computes the reader on every layout. Main statement:
`binary_form_exact`.
-/

namespace StripedMerkle

/-- A computation in the error monad that succeeds succeeded at its first step. -/
theorem except_bind_eq_ok {ε α β : Type} {x : Except ε α} {f : α → Except ε β} {b : β}
    (result : x >>= f = .ok b) : ∃ a, x = .ok a ∧ f a = .ok b := by
  cases x with
  | error error => cases result
  | ok a => exact ⟨a, rfl, result⟩

theorem except_map_eq_ok {ε α β : Type} {x : Except ε α} {f : α → β} {b : β}
    (result : x.map f = .ok b) : ∃ a, x = .ok a ∧ f a = b := by
  cases x with
  | error error => cases result
  | ok a =>
    simp only [Except.map, Except.ok.injEq] at result
    exact ⟨a, rfl, result⟩

theorem Digest.toList_of_ofList? {bytes : List UInt8} {digest : Digest}
    (read : Digest.ofList? bytes = some digest) : digest.toList = bytes := by
  unfold Digest.ofList? at read
  split at read
  · cases read
    simp [Digest.toList]
  · cases read

namespace Binary

/-! ## Big-endian numbers -/

@[simp] theorem ofBigEndian_append_singleton (bytes : List UInt8) (byte : UInt8) :
    ofBigEndian (bytes ++ [byte]) = ofBigEndian bytes * 256 + byte.toNat := by
  simp [ofBigEndian, List.foldl_append]

/-- `width` bytes spell a number below `256 ^ width`. -/
theorem ofBigEndian_lt (bytes : List UInt8) : ofBigEndian bytes < 256 ^ bytes.length := by
  induction bytes using List.reverseRecOn with
  | nil => decide
  | append_singleton bytes byte ih =>
    have := byte.toNat_lt
    rw [ofBigEndian_append_singleton, List.length_append, List.length_singleton, Nat.pow_succ]
    omega

theorem ofBigEndian_bigEndian (width : Nat) {value : Nat} (fits : value < 256 ^ width) :
    ofBigEndian (bigEndian width value) = value := by
  induction width generalizing value with
  | zero =>
    obtain rfl : value = 0 := by simpa using fits
    rfl
  | succ width ih =>
    have small : value / 256 < 256 ^ width := by
      rw [Nat.pow_succ] at fits
      omega
    have low : ((value % 256).toUInt8).toNat = value % 256 := by simp
    rw [bigEndian, ofBigEndian_append_singleton, ih small, low]
    omega

theorem bigEndian_ofBigEndian (bytes : List UInt8) :
    bigEndian bytes.length (ofBigEndian bytes) = bytes := by
  induction bytes using List.reverseRecOn with
  | nil => rfl
  | append_singleton bytes byte ih =>
    have := byte.toNat_lt
    have high : (ofBigEndian bytes * 256 + byte.toNat) / 256 = ofBigEndian bytes := by omega
    have low : ((ofBigEndian bytes * 256 + byte.toNat) % 256).toUInt8 = byte := by
      rw [show (ofBigEndian bytes * 256 + byte.toNat) % 256 = byte.toNat by omega]
      simp
    rw [List.length_append, List.length_singleton, bigEndian, ofBigEndian_append_singleton, high,
      low, ih]

/-- Two equally long big-endian spellings of one number are one. -/
theorem ofBigEndian_injective {bytes other : List UInt8} (sameLength : bytes.length = other.length)
    (same : ofBigEndian bytes = ofBigEndian other) : bytes = other := by
  rw [← bigEndian_ofBigEndian bytes, ← bigEndian_ofBigEndian other, sameLength, same]

/-! ## Taking bytes -/

theorem hasAtLeast_iff (count : Nat) (input : List UInt8) :
    hasAtLeast count input = true ↔ count ≤ input.length := by
  induction count generalizing input with
  | zero => simp [hasAtLeast]
  | succ count ih =>
    cases input with
    | nil => simp [hasAtLeast]
    | cons byte rest => simp [hasAtLeast, ih]

theorem takeBytes_append {count : Nat} {bytes : List UInt8} (width : bytes.length = count)
    (rest : List UInt8) : takeBytes count (bytes ++ rest) = .ok (bytes, rest) := by
  subst width
  have enough : hasAtLeast bytes.length (bytes ++ rest) = true := by
    rw [hasAtLeast_iff, List.length_append]
    omega
  simp [takeBytes, enough]

theorem takeBytes_eq_ok {count : Nat} {input taken rest : List UInt8}
    (took : takeBytes count input = .ok (taken, rest)) :
    taken.length = count ∧ input = taken ++ rest := by
  unfold takeBytes at took
  split at took
  · next enough =>
    rw [hasAtLeast_iff] at enough
    simp only [Except.ok.injEq, Prod.mk.injEq] at took
    obtain ⟨rfl, rfl⟩ := took
    exact ⟨by simp [enough], (List.take_append_drop count input).symm⟩
  · cases took

namespace Varint

/-! ## The forms of a varint -/

/-- `Spells bytes value`: `bytes` is one form of the varint of `value`: a single byte below 251,
or the tag `FB`, `FC` or `FD` and a big-endian payload of 2, 4 or 8 bytes, shortest or not. -/
inductive Spells : List UInt8 → Nat → Prop where
  /-- A single byte below 251 is its own value. -/
  | single {byte : UInt8} (small : byte.toNat < 251) : Spells [byte] byte.toNat
  /-- The tag `FB` and two payload bytes. -/
  | two {body : List UInt8} (width : body.length = 2) : Spells (tag16 :: body) (ofBigEndian body)
  /-- The tag `FC` and four payload bytes. -/
  | four {body : List UInt8} (width : body.length = 4) : Spells (tag32 :: body) (ofBigEndian body)
  /-- The tag `FD` and eight payload bytes. -/
  | eight {body : List UInt8} (width : body.length = 8) :
      Spells (tag64 :: body) (ofBigEndian body)

/-- A form of a value is minimal when no form of the value is shorter. -/
def Minimal (bytes : List UInt8) (value : Nat) : Prop :=
  Spells bytes value ∧ ∀ other, Spells other value → bytes.length ≤ other.length

theorem Spells.lt {bytes : List UInt8} {value : Nat} (spells : Spells bytes value) :
    value < 2 ^ 64 := by
  cases spells with
  | single small => omega
  | @two body width | @four body width | @eight body width =>
    exact Nat.lt_of_lt_of_le (width ▸ ofBigEndian_lt body) (by decide)

theorem Spells.length_le {bytes : List UInt8} {value : Nat} (spells : Spells bytes value) :
    bytes.length ≤ 9 := by
  cases spells <;> simp_all

/-- Every form of a value is read as that value, whatever follows it. -/
theorem decode_append {bytes : List UInt8} {value : Nat} (spells : Spells bytes value)
    (expected : Expected) (rest : List UInt8) :
    decode expected (bytes ++ rest) = .ok (value, rest) := by
  cases spells with
  | @single byte small =>
    have below : byte < tag16 := by
      rw [UInt8.lt_iff_toNat_lt]
      exact small
    simp [decode, payload, below]
  | @two body width | @four body width | @eight body width =>
    simp +decide [decode, payload, takeBytes_append width, Except.map, tag16, tag32, tag64]

/-- What the reader reads is a form of the value it returns, followed by the rest. -/
theorem spells_of_decode {expected : Expected} {input rest : List UInt8} {value : Nat}
    (decoded : decode expected input = .ok (value, rest)) :
    ∃ bytes, Spells bytes value ∧ input = bytes ++ rest := by
  -- a wide payload is `width` bytes in big-endian order
  have wide : ∀ {tail : List UInt8} {width : Nat},
      (takeBytes width tail).map (fun read => (ofBigEndian read.1, read.2)) =
        .ok (value, rest) →
      ∃ body, body.length = width ∧ value = ofBigEndian body ∧ tail = body ++ rest := by
    intro tail width read
    obtain ⟨⟨body, after⟩, took, read⟩ := except_map_eq_ok read
    obtain ⟨rfl, rfl⟩ := Prod.mk.inj read
    obtain ⟨length, split⟩ := takeBytes_eq_ok took
    exact ⟨body, length, rfl, split⟩
  cases input with
  | nil => simp [decode] at decoded
  | cons tag tail =>
    simp only [decode, payload] at decoded
    -- one branch per tag; the tags of 128-bit and reserved integers are refused
    split at decoded
    · next small =>
      obtain ⟨rfl, rfl⟩ := Prod.mk.inj (Except.ok.inj decoded)
      exact ⟨[tag], .single (UInt8.lt_iff_toNat_lt.mp small), rfl⟩
    split at decoded
    · next sixteen =>
      obtain ⟨body, width, rfl, rfl⟩ := wide decoded
      exact ⟨tag :: body, sixteen ▸ .two width, rfl⟩
    split at decoded
    · next thirtyTwo =>
      obtain ⟨body, width, rfl, rfl⟩ := wide decoded
      exact ⟨tag :: body, thirtyTwo ▸ .four width, rfl⟩
    split at decoded
    · next sixtyFour =>
      obtain ⟨body, width, rfl, rfl⟩ := wide decoded
      exact ⟨tag :: body, sixtyFour ▸ .eight width, rfl⟩
    split at decoded <;> cases decoded

/-! ## The shortest form -/

theorem length_encode (value : Nat) :
    (encode value).length =
      if value < 251 then 1 else if value < 65536 then 3 else if value < 4294967296 then 5
      else 9 := by
  have wide16 : Nat.pow 2 16 = 65536 := by decide
  have wide32 : Nat.pow 2 32 = 4294967296 := by decide
  simp only [encode, wide16, wide32]
  split_ifs <;> simp

/-- The writer's form of a value below `2 ^ 64` is a form of it. -/
theorem spells_encode {value : Nat} (small : value < 2 ^ 64) : Spells (encode value) value := by
  have wide16 : Nat.pow 2 16 = 256 ^ 2 := by decide
  have wide32 : Nat.pow 2 32 = 256 ^ 4 := by decide
  have wide64 : (2 : Nat) ^ 64 = 256 ^ 8 := by decide
  unfold encode
  split_ifs with single sixteen thirtyTwo
  · have byte : value.toUInt8.toNat = value := by
      have low : value.toUInt8.toNat = value % 256 := by simp
      omega
    have spells := @Spells.single value.toUInt8 (by omega)
    rwa [byte] at spells
  · have spells := Spells.two (length_bigEndian 2 value)
    rwa [ofBigEndian_bigEndian 2 (wide16 ▸ sixteen)] at spells
  · have spells := Spells.four (length_bigEndian 4 value)
    rwa [ofBigEndian_bigEndian 4 (wide32 ▸ thirtyTwo)] at spells
  · have spells := Spells.eight (length_bigEndian 8 value)
    rwa [ofBigEndian_bigEndian 8 (wide64 ▸ small)] at spells

/-- No form of a value is shorter than the writer's. -/
theorem length_encode_le {bytes : List UInt8} {value : Nat} (spells : Spells bytes value) :
    (encode value).length ≤ bytes.length := by
  rw [length_encode]
  cases spells with
  | single small => simp [small]
  | @two body width | @four body width =>
    have bound := ofBigEndian_lt body
    rw [width] at bound
    simp only [List.length_cons, width]
    split_ifs <;> omega
  | @eight body width =>
    simp only [List.length_cons, width]
    split_ifs <;> omega

theorem encode_minimal {value : Nat} (small : value < 2 ^ 64) : Minimal (encode value) value :=
  ⟨spells_encode small, fun _ spells => length_encode_le spells⟩

/-- Two forms of one value with one length are one form. -/
theorem Spells.eq_of_length {bytes other : List UInt8} {value value' : Nat}
    (spells : Spells bytes value) (spells' : Spells other value') (same : value = value')
    (sameLength : bytes.length = other.length) : bytes = other := by
  cases spells <;> cases spells' <;> simp_all [UInt8.toNat_inj]
  all_goals exact ofBigEndian_injective (by omega) same

/-- The minimal form of a value is the writer's. -/
theorem Minimal.eq_encode {bytes : List UInt8} {value : Nat} (minimal : Minimal bytes value) :
    bytes = encode value := by
  have written := encode_minimal minimal.1.lt
  exact minimal.1.eq_of_length written.1 rfl
    (Nat.le_antisymm (minimal.2 _ written.1) (written.2 _ minimal.1))

/-- The forms of varints are prefix-free: the first byte fixes the length of a form. -/
theorem Spells.append_inj {bytes other rest rest' : List UInt8} {value value' : Nat}
    (spells : Spells bytes value) (spells' : Spells other value')
    (joined : bytes ++ rest = other ++ rest') : bytes = other ∧ rest = rest' := by
  have sameLength : bytes.length = other.length := by
    cases spells <;> cases spells' <;> simp_all +decide [tag16, tag32, tag64]
    -- a single byte below 251 is never a tag
    all_goals
      obtain ⟨rfl, -⟩ := joined
      simp_all
  exact List.append_inj joined sameLength

end Varint

end Binary

namespace Path

open Binary

/-! ## Reading digests -/

theorem takeDigest_append (digest : Digest) (rest : List UInt8) :
    takeDigest (digest.toList ++ rest) = .ok (digest, rest) := by
  simp [takeDigest, takeBytes_append (Digest.length_toList digest), bind, Except.bind, pure,
    Except.pure]

theorem takeDigest_eq_ok {input rest : List UInt8} {digest : Digest}
    (took : takeDigest input = .ok (digest, rest)) : input = digest.toList ++ rest := by
  unfold takeDigest at took
  obtain ⟨⟨bytes, after⟩, taken, took⟩ := except_bind_eq_ok took
  rw [(takeBytes_eq_ok taken).2]
  simp only at took
  split at took
  · next found =>
    obtain ⟨rfl, rfl⟩ := Prod.mk.inj (Except.ok.inj took)
    rw [Digest.toList_of_ofList? found]
  · cases took

theorem takeDigests_append (nodes : List Digest) (rest : List UInt8) :
    takeDigests nodes.length ((nodes.map Digest.toList).flatten ++ rest) = .ok (nodes, rest) := by
  induction nodes with
  | nil => rfl
  | cons node nodes ih =>
    simp [takeDigests, List.append_assoc, takeDigest_append, ih, bind, Except.bind, pure,
      Except.pure]

theorem takeDigests_eq_ok {count : Nat} {input rest : List UInt8} {nodes : List Digest}
    (took : takeDigests count input = .ok (nodes, rest)) :
    nodes.length = count ∧ input = (nodes.map Digest.toList).flatten ++ rest := by
  induction count generalizing input nodes with
  | zero =>
    obtain ⟨rfl, rfl⟩ := Prod.mk.inj (Except.ok.inj took)
    simp
  | succ count ih =>
    unfold takeDigests at took
    obtain ⟨⟨first, after⟩, readsFirst, took⟩ := except_bind_eq_ok took
    obtain ⟨⟨others, after'⟩, readsOthers, took⟩ := except_bind_eq_ok took
    obtain ⟨rfl, rfl⟩ := Prod.mk.inj (Except.ok.inj took)
    obtain ⟨length, rfl⟩ := ih readsOthers
    rw [takeDigest_eq_ok readsFirst]
    simp [length]

/-! ## Reading a whole path -/

/-- The bytes of a path laid out with the given forms of the varints of its partner count and
index: leaf, root, count, partners, index. -/
def layout (path : Path) (countBytes indexBytes : List UInt8) : List UInt8 :=
  path.leaf.toList ++ path.root.toList ++ countBytes ++ (path.nodes.map Digest.toList).flatten ++
    indexBytes

/-- The writer lays a path out with the shortest forms. -/
theorem encode_eq_layout (path : Path) :
    path.encode =
      path.layout (Varint.encode path.nodes.length) (Varint.encode path.index.toNat) := rfl

theorem length_layout (path : Path) (countBytes indexBytes : List UInt8) :
    (path.layout countBytes indexBytes).length =
      64 + countBytes.length + 32 * path.nodes.length + indexBytes.length := by
  simp only [layout, List.length_append, Digest.length_toList, List.length_flatten,
    List.map_map]
  have partners :
      (path.nodes.map (List.length ∘ Digest.toList)).sum = 32 * path.nodes.length := by
    induction path.nodes with
    | nil => rfl
    | cons node nodes ih =>
      simp only [List.map_cons, List.sum_cons, Function.comp_apply, Digest.length_toList, ih,
        List.length_cons]
      omega
  rw [partners]

/-- Reading a laid-out path reads all its parts, then refuses, in this order, a partner count
whose claimed size passes the limit, more than eleven partners, and an index past the leaves. -/
theorem decode_layout (path : Path) {countBytes indexBytes : List UInt8}
    (count : Varint.Spells countBytes path.nodes.length)
    (index : Varint.Spells indexBytes path.index.toNat) :
    decode (path.layout countBytes indexBytes) =
      if sizeLimit < claimedSize path.nodes.length then .error .limitExceeded
      else if maxRounds < path.nodes.length then .error (.tooManySiblings path.nodes.length)
      else if leafCount ≤ path.index.toNat then .error (.leafIndexOutOfRange path.index.toNat)
      else .ok path := by
  obtain ⟨leaf, root, nodes, position⟩ := path
  have laid : layout ⟨leaf, root, nodes, position⟩ countBytes indexBytes =
      leaf.toList ++ (root.toList ++ (countBytes ++
        ((nodes.map Digest.toList).flatten ++ (indexBytes ++ [])))) := by
    simp [layout]
  rw [laid]
  simp only [decode, takeDigest_append, Varint.decode_append count,
    Varint.decode_append index, takeDigests_append, bind, Except.bind]
  split_ifs <;> simp_all [throw, throwThe, MonadExceptOf.throw, pure, Except.pure]

/-- A partner count of at most eleven claims a size within the limit. -/
theorem within_sizeLimit {count : Nat} (fewNodes : count ≤ maxRounds) :
    ¬ sizeLimit < claimedSize count := by
  simp only [sizeLimit, claimedSize, maxRounds] at *
  omega

/-- A path laid out with forms of its partner count and index is read back when the count is at
most eleven and the index below the leaf count. -/
theorem decode_layout_of_inRange (path : Path) {countBytes indexBytes : List UInt8}
    (count : Varint.Spells countBytes path.nodes.length)
    (index : Varint.Spells indexBytes path.index.toNat) (fewNodes : path.nodes.length ≤ maxRounds)
    (inTree : path.index.toNat < leafCount) :
    decode (path.layout countBytes indexBytes) = .ok path := by
  rw [decode_layout path count index, if_neg (within_sizeLimit fewNodes),
    if_neg (Nat.not_lt.mpr fewNodes), if_neg (Nat.not_le.mpr inTree)]

/-- What the reader accepts is a path laid out with forms of its partner count and index, the
count and the index in range. -/
theorem layout_of_decode {input : List UInt8} {path : Path} (decoded : decode input = .ok path) :
    ∃ countBytes indexBytes, Varint.Spells countBytes path.nodes.length ∧
      Varint.Spells indexBytes path.index.toNat ∧ path.nodes.length ≤ maxRounds ∧
      path.index.toNat < leafCount ∧ input = path.layout countBytes indexBytes := by
  unfold decode at decoded
  obtain ⟨⟨leaf, rest₁⟩, readsLeaf, decoded⟩ := except_bind_eq_ok decoded
  obtain ⟨⟨root, rest₂⟩, readsRoot, decoded⟩ := except_bind_eq_ok decoded
  obtain ⟨⟨count, rest₃⟩, readsCount, decoded⟩ := except_bind_eq_ok decoded
  simp only at decoded
  -- each check that refuses ends the reading with an error
  split at decoded
  · cases decoded
  obtain ⟨⟨nodes, rest₄⟩, readsNodes, decoded⟩ := except_bind_eq_ok decoded
  obtain ⟨⟨index, rest₅⟩, readsIndex, decoded⟩ := except_bind_eq_ok decoded
  simp only at decoded readsIndex
  split at decoded
  · cases decoded
  next nothingLeft =>
  split at decoded
  · cases decoded
  next fewNodes =>
  split at decoded
  · cases decoded
  next inTree =>
  cases decoded
  obtain ⟨countBytes, countSpells, rfl⟩ := Varint.spells_of_decode readsCount
  obtain ⟨length, rfl⟩ := takeDigests_eq_ok readsNodes
  obtain ⟨indexBytes, indexSpells, rfl⟩ := Varint.spells_of_decode readsIndex
  obtain rfl : rest₅ = [] := by simpa using nothingLeft
  have sameIndex : index.toUInt64.toNat = index := by
    have small := indexSpells.lt
    simp only [Nat.toUInt64_eq, UInt64.toNat_ofNat']
    omega
  dsimp only
  rw [sameIndex]
  refine ⟨countBytes, indexBytes, length ▸ countSpells, indexSpells, by omega, by omega, ?_⟩
  rw [takeDigest_eq_ok readsLeaf, takeDigest_eq_ok readsRoot]
  simp [layout, List.append_assoc]

/-- The reader accepts a byte string and returns a path exactly when the string is the path laid
out with some forms of its partner count and index, the count at most eleven and the index below
the leaf count. -/
theorem decode_eq_ok_iff (input : List UInt8) (path : Path) :
    decode input = .ok path ↔
      ∃ countBytes indexBytes, Varint.Spells countBytes path.nodes.length ∧
        Varint.Spells indexBytes path.index.toNat ∧ path.nodes.length ≤ maxRounds ∧
        path.index.toNat < leafCount ∧ input = path.layout countBytes indexBytes := by
  refine ⟨layout_of_decode, ?_⟩
  rintro ⟨countBytes, indexBytes, count, index, fewNodes, inTree, rfl⟩
  exact decode_layout_of_inRange path count index fewNodes inTree

/-- A byte string that the reader accepts is at most 434 bytes long: two digests, eleven
partners and two varints of at most nine bytes. -/
theorem length_le_of_decode {input : List UInt8} {path : Path}
    (decoded : decode input = .ok path) : input.length ≤ 434 := by
  obtain ⟨countBytes, indexBytes, count, index, fewNodes, -, rfl⟩ := layout_of_decode decoded
  rw [length_layout]
  have := count.length_le
  have := index.length_le
  simp only [maxRounds] at fewNodes
  omega

/-- Reading what the writer wrote: the path back when it has at most eleven partners and an index
below the leaf count, and the refusal the checks give otherwise. -/
theorem decode_encode (path : Path) (representable : path.nodes.length < 2 ^ 64) :
    decode path.encode =
      if sizeLimit < claimedSize path.nodes.length then .error .limitExceeded
      else if maxRounds < path.nodes.length then .error (.tooManySiblings path.nodes.length)
      else if leafCount ≤ path.index.toNat then .error (.leafIndexOutOfRange path.index.toNat)
      else .ok path := by
  rw [encode_eq_layout]
  exact decode_layout path (Varint.spells_encode representable)
    (Varint.spells_encode path.index.toNat_lt)

/-- A written path that the reader takes back has a count that fits a varint: the written bytes
hold 32 bytes for each partner. -/
theorem representable_of_decode_encode {path other : Path}
    (decoded : decode path.encode = .ok other) : path.nodes.length < 2 ^ 64 := by
  have bounded := length_le_of_decode decoded
  rw [encode_eq_layout, length_layout] at bounded
  omega

theorem representable_of_le_maxRounds {path : Path} (fewNodes : path.nodes.length ≤ maxRounds) :
    path.nodes.length < 2 ^ 64 := by
  simp only [maxRounds] at fewNodes
  omega

/-- What the writer wrote is read back when the count and the index are in range. -/
theorem decode_encode_of_inRange (path : Path) (fewNodes : path.nodes.length ≤ maxRounds)
    (inTree : path.index.toNat < leafCount) : decode path.encode = .ok path := by
  rw [encode_eq_layout]
  exact decode_layout_of_inRange path
    (Varint.spells_encode (representable_of_le_maxRounds fewNodes))
    (Varint.spells_encode path.index.toNat_lt) fewNodes inTree

/-- What the writer wrote is refused when the count or the index is out of range. -/
theorem decode_encode_refused (path : Path)
    (outside : ¬ (path.nodes.length ≤ maxRounds ∧ path.index.toNat < leafCount)) :
    ∃ fault, decode path.encode = .error fault := by
  cases decoded : decode path.encode with
  | error fault => exact ⟨fault, rfl⟩
  | ok other =>
    -- only a path with its count and index in range is read back
    rw [decode_encode path (representable_of_decode_encode decoded)] at decoded
    split_ifs at decoded with fits fewNodes inTree
    exact absurd ⟨Nat.not_lt.mp fewNodes, Nat.not_le.mp inTree⟩ outside

/-- A byte string is laid out in at most one way: the forms of the count are prefix-free, and the
form of the index is what is left. -/
theorem layout_inj {path : Path} {countBytes indexBytes countBytes' indexBytes' : List UInt8}
    (count : Varint.Spells countBytes path.nodes.length)
    (count' : Varint.Spells countBytes' path.nodes.length)
    (same : path.layout countBytes indexBytes = path.layout countBytes' indexBytes') :
    countBytes = countBytes' ∧ indexBytes = indexBytes' := by
  simp only [layout, List.append_assoc, List.append_cancel_left_eq] at same
  obtain ⟨sameCount, rest⟩ := count.append_inj count' same
  obtain ⟨-, sameIndex⟩ := List.append_inj rest rfl
  exact ⟨sameCount, sameIndex⟩

/-- Writing what the reader accepted gives back exactly the byte strings whose two varints are in
their shortest forms. -/
theorem encode_eq_iff_minimal {input : List UInt8} {path : Path}
    (decoded : decode input = .ok path) :
    path.encode = input ↔ ∀ countBytes indexBytes, input = path.layout countBytes indexBytes →
      Varint.Spells countBytes path.nodes.length → Varint.Spells indexBytes path.index.toNat →
      Varint.Minimal countBytes path.nodes.length ∧ Varint.Minimal indexBytes path.index.toNat := by
  obtain ⟨countBytes, indexBytes, count, index, fewNodes, -, laid⟩ := layout_of_decode decoded
  have representable := representable_of_le_maxRounds fewNodes
  constructor
  · -- the written forms are the only ones the string is laid out with, and they are shortest
    rintro written countBytes' indexBytes' laid' count' -
    rw [← written, encode_eq_layout] at laid'
    obtain ⟨rfl, rfl⟩ := layout_inj (Varint.spells_encode representable) count' laid'
    exact ⟨Varint.encode_minimal representable, Varint.encode_minimal path.index.toNat_lt⟩
  · intro shortest
    obtain ⟨countMinimal, indexMinimal⟩ := shortest countBytes indexBytes laid count index
    rw [laid, encode_eq_layout, ← countMinimal.eq_encode, ← indexMinimal.eq_encode]

end Path

/-- The binary form of a path is exact. The reader accepts a byte string, and returns a path,
exactly when the string is that path laid out as leaf, root, a varint of its partner count in any
of its forms, the partners and a varint of its index in any of its forms, with nothing after, the
count at most eleven and the index below 1024; every other string is refused. Reading what the
writer wrote gives the path back when its count and index are in range, and is refused otherwise.
Writing what the reader accepted gives back exactly the strings whose two varints are in their
shortest forms. -/
theorem binary_form_exact (input : List UInt8) (path : Path) :
    (Path.decode input = .ok path ↔
      ∃ countBytes indexBytes, Binary.Varint.Spells countBytes path.nodes.length ∧
        Binary.Varint.Spells indexBytes path.index.toNat ∧ path.nodes.length ≤ maxRounds ∧
        path.index.toNat < leafCount ∧ input = path.layout countBytes indexBytes) ∧
    (path.nodes.length ≤ maxRounds ∧ path.index.toNat < leafCount →
      Path.decode path.encode = .ok path) ∧
    (¬ (path.nodes.length ≤ maxRounds ∧ path.index.toNat < leafCount) →
      ∃ fault, Path.decode path.encode = .error fault) ∧
    (Path.decode input = .ok path →
      (path.encode = input ↔ ∀ countBytes indexBytes,
        input = path.layout countBytes indexBytes →
        Binary.Varint.Spells countBytes path.nodes.length →
        Binary.Varint.Spells indexBytes path.index.toNat →
        Binary.Varint.Minimal countBytes path.nodes.length ∧
          Binary.Varint.Minimal indexBytes path.index.toNat)) := by
  refine ⟨Path.decode_eq_ok_iff input path, ?_, Path.decode_encode_refused path,
    Path.encode_eq_iff_minimal⟩
  rintro ⟨fewNodes, inTree⟩
  exact Path.decode_encode_of_inRange path fewNodes inTree

end StripedMerkle
