/-!
# Errors

Every failure of the library is a value of `CommitError`, named for its cause, and
`CommitError.message` is the one place where its text is written. Faults of the binary form
of a proof are `DecodeFault`s, carried inside `CommitError.invalidProof`.
-/

namespace StripedMerkle

/-- Integer widths that a fault of a varint names. -/
inductive IntegerWidth where
  /-- Unsigned 32 bits. -/
  | u32
  /-- Unsigned 64 bits. -/
  | u64
  /-- Unsigned 128 bits. -/
  | u128
  /-- A machine word. -/
  | usize
  /-- A tag that no width uses. -/
  | reserved
  deriving DecidableEq, Repr

/-- The name of a width as faults spell it. -/
def IntegerWidth.name : IntegerWidth → String
  | .u32 => "U32"
  | .u64 => "U64"
  | .u128 => "U128"
  | .usize => "Usize"
  | .reserved => "Reserved"

/-- Why bytes are not the binary form of an inclusion proof. -/
inductive DecodeFault where
  /-- The bytes end `missing` bytes before the value being read. -/
  | unexpectedEnd (missing : Nat)
  /-- The sibling count announces more bytes than a proof may take. -/
  | limitExceeded
  /-- A varint tag stands for an integer wider than the one expected. -/
  | invalidIntegerType (expected found : IntegerWidth)
  /-- Bytes remain after a complete proof. -/
  | trailingBytes (count : Nat)
  /-- The proof carries more siblings than any fold has levels. -/
  | tooManySiblings (count : Nat)
  /-- The leaf index lies outside the 1024 leaves of a tree. -/
  | leafIndexOutOfRange (index : Nat)
  deriving DecidableEq, Repr

/-- The text of a decoding fault. -/
def DecodeFault.message : DecodeFault → String
  | .unexpectedEnd missing =>
      "decode error: UnexpectedEnd \x7b additional: " ++ toString missing ++ " \x7d"
  | .limitExceeded => "decode error: LimitExceeded"
  | .invalidIntegerType expected found =>
      "decode error: InvalidIntegerType \x7b expected: " ++ expected.name ++ ", found: " ++
        found.name ++ " \x7d"
  | .trailingBytes count => toString count ++ " trailing bytes after proof"
  | .tooManySiblings count => "proof has " ++ toString count ++ " sibling nodes (max 11)"
  | .leafIndexOutOfRange index =>
      "leaf index " ++ toString index ++ " is out of range (leaf count 1024)"

/-- Why an operation of the library failed. -/
inductive CommitError where
  /-- `finalize` on a tree that is already finalized. -/
  | alreadyFinalized
  /-- A write or a reload on a finalized tree. -/
  | treeFinalized
  /-- A root or a proof asked of a tree that is still open. -/
  | notFinalized
  /-- A window longer than a whole window handed to the leaves. -/
  | windowTooLarge (length limit : Nat)
  /-- A short window handed to the leaves of an open tree: only the last window of a stream may be
  short. -/
  | partialWindow (length expected : Nat)
  /-- A leaf index at or past the number of leaves. -/
  | leafIndexOutOfRange (index count : Nat)
  /-- A fold of no digests at all. -/
  | emptyLeafSet
  /-- A fold of so many digests that eleven rounds leave more than one. -/
  | tooManyLeaves (count : Nat)
  /-- Bytes that are not the binary form of a proof. -/
  | invalidProof (fault : DecodeFault)
  /-- The source of a reload failed, with its message. -/
  | io (message : String)
  deriving DecidableEq, Repr

/-- The text of an error. -/
def CommitError.message : CommitError → String
  | .alreadyFinalized => "already finalized"
  | .treeFinalized => "cannot modify: tree is already finalized"
  | .notFinalized => "tree is not finalized: root and proofs are only available after finalize"
  | .windowTooLarge length limit =>
      "window of " ++ toString length ++ " bytes exceeds the window size of " ++ toString limit ++
        " bytes"
  | .partialWindow length expected =>
      "invalid leaf write: partial window of " ++ toString length ++
        " bytes before finalize (expected " ++ toString expected ++ ")"
  | .leafIndexOutOfRange index count =>
      "leaf index " ++ toString index ++ " is out of range (leaf count " ++ toString count ++ ")"
  | .emptyLeafSet => "invalid input: cannot fold an empty leaf set"
  | .tooManyLeaves count =>
      "invalid input: " ++ toString count ++ " leaves do not fold to a single root within 11 levels"
  | .invalidProof fault => "invalid proof: " ++ fault.message
  | .io message => message

end StripedMerkle
