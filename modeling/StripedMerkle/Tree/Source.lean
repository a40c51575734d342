import StripedMerkle.Tree.Reload

/-!
# Scripted byte sources

A scripted source gives a fixed byte string in reads of a fixed largest size and may fail once at
a chosen position. A position past the end is taken as the end. A read never runs past the failure
position, so a read is attempted exactly there. A transient failure is tried again and changes
nothing; any other failure ends the reading.
-/

namespace StripedMerkle

/-- How a scripted source fails. -/
inductive FailureKind where
  | other
  | connectionReset
  | unexpectedEof
  | interrupted
  deriving DecidableEq, Repr

/-- A failure of a scripted source, at a byte position. -/
structure Failure where
  /-- The position of the read that fails. -/
  position : Nat
  /-- The kind of the failure. -/
  kind : FailureKind
  /-- The message of the failure. -/
  message : String

/-- A source that gives `data` in reads of at most `readSize` bytes, and may fail once. -/
structure Script where
  /-- The bytes the source gives. -/
  data : ByteArray
  /-- The largest read; `none` for no limit, and a limit of zero is taken as one. -/
  readSize : Option Nat
  /-- The failure, if the source fails. -/
  failure : Option Failure

namespace Script

/-- The reads of the bytes from `start` to `stop`, each of at most `size` bytes. -/
def pieces (data : ByteArray) (size start stop : Nat) : List Reading :=
  if start < stop ∧ 0 < size then
    .bytes (data.extract start (min stop (start + size))) :: pieces data size (min stop (start + size)) stop
  else []
termination_by stop - start
decreasing_by omega

/-- The reads a scripted source gives. -/
def readings (script : Script) : List Reading :=
  let size := match script.readSize with
    | some limit => max limit 1
    | none => max script.data.size 1
  match script.failure with
  | none => pieces script.data size 0 script.data.size
  | some failure =>
      let position := min failure.position script.data.size
      pieces script.data size 0 position ++
        match failure.kind with
        | .interrupted => .interrupted :: pieces script.data size position script.data.size
        | _ => [.failed failure.message]

end Script

end StripedMerkle
