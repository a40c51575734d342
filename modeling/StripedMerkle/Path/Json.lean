import StripedMerkle.Path.Basic
import StripedMerkle.Json.Print

/-!
# JSON form of a path

A path is the object `{"leaf_hash": h, "root_hash": h, "nodes": [h, ...], "leaf_index": n}`
with every digest as 64 lowercase hexadecimal digits.

Reading takes an object or an array of the four fields in that order. Of an object the present
fields are read in the order of their keys, `leaf_hash`, `leaf_index`, `nodes`, `root_hash`, and
the first that fails is reported; only then is a missing field reported, in the order of the
written form. Other keys are ignored. Every partner must be a string before any of them is read
as a digest. The index is any 64-bit natural.
-/

namespace StripedMerkle

namespace Json

/-- The description of a value in a reading fault. -/
def Value.unexpected : Value → String
  | .null => "null"
  | .bool value => "boolean `" ++ (if value then "true" else "false") ++ "`"
  | .number (.natural value) => "integer `" ++ toString value.toNat ++ "`"
  | .number (.negative value) => "integer `" ++ toString value.toInt ++ "`"
  | .number (.double value) => "floating point `" ++ doubleText value ++ "`"
  | .string value => "string " ++ Escape.string value
  | .array _ => "sequence"
  | .object _ => "map"

end Json

/-- What a reader of the JSON form wanted where it failed. -/
inductive Expectation where
  | text
  | index
  | sequence
  | path
  | pathFields
  | fewerItems
  deriving DecidableEq, Repr

/-- The words for what was wanted. -/
def Expectation.message : Expectation → String
  | .text => "a string"
  | .index => "usize"
  | .sequence => "a sequence"
  | .path => "struct MerklePath"
  | .pathFields => "struct MerklePath with 4 elements"
  | .fewerItems => "fewer elements in array"

open Json in
/-- Why a JSON value is not the form of a path. -/
inductive JsonFault where
  /-- A value of the wrong kind. -/
  | invalidType (found : Value) (wanted : Expectation)
  /-- A value of the right kind out of range. -/
  | invalidValue (found : Value) (wanted : Expectation)
  /-- An array of the wrong length. -/
  | invalidLength (length : Nat) (wanted : Expectation)
  /-- An object without a field. -/
  | missingField (name : String)
  /-- A string that is not the hexadecimal form of a digest. -/
  | invalidDigest (text : String) (fault : Hex.HexError)

/-- The message of a reading fault. -/
def JsonFault.message : JsonFault → String
  | .invalidType found wanted =>
      "invalid type: " ++ found.unexpected ++ ", expected " ++ wanted.message
  | .invalidValue found wanted =>
      "invalid value: " ++ found.unexpected ++ ", expected " ++ wanted.message
  | .invalidLength length wanted =>
      "invalid length " ++ toString length ++ ", expected " ++ wanted.message
  | .missingField name => "missing field `" ++ name ++ "`"
  | .invalidDigest text fault => "invalid digest " ++ Escape.string text ++ ": " ++ fault.message

namespace Path

open Json

/-- The JSON form of a path, its fields in the written order. -/
def toJson (path : Path) : Value :=
  .object [("leaf_hash", .string path.leaf.toHex), ("root_hash", .string path.root.toHex),
    ("nodes", .array (path.nodes.map fun node => .string node.toHex)),
    ("leaf_index", .number (.natural path.index))]

/-- The compact JSON text of a path. -/
def toJsonText (path : Path) : String :=
  path.toJson.render

/-- The digest spelled by a string. -/
def digestOfText (text : String) : Except JsonFault Digest :=
  (Digest.ofHex? text).mapError (.invalidDigest text)

/-- The string a value must be. -/
def textOfJson : Value → Except JsonFault String
  | .string text => .ok text
  | other => .error (.invalidType other .text)

/-- The digest a value must spell. -/
def digestOfJson (value : Value) : Except JsonFault Digest := do
  digestOfText (← textOfJson value)

/-- The digests an array must spell: all items are strings, then each is a digest. -/
def digestsOfJson : Value → Except JsonFault (List Digest)
  | .array items => do
      let texts ← items.mapM textOfJson
      texts.mapM digestOfText
  | other => .error (.invalidType other .sequence)

/-- The index a value must be: a natural below `2 ^ 64`. -/
def indexOfJson : Value → Except JsonFault UInt64
  | .number (.natural value) => .ok value
  | found@(.number (.negative _)) => .error (.invalidValue found .index)
  | other => .error (.invalidType other .index)

/-- A field that was found, or the fault of a missing field. -/
def required {α : Type} (name : String) : Option α → Except JsonFault α
  | some value => .ok value
  | none => .error (.missingField name)

/-- The path of an object: present fields read in key order, then missing fields reported. -/
def ofFields (fields : List (String × Value)) : Except JsonFault Path := do
  let leaf ← (Value.field? fields "leaf_hash").mapM digestOfJson
  let index ← (Value.field? fields "leaf_index").mapM indexOfJson
  let nodes ← (Value.field? fields "nodes").mapM digestsOfJson
  let root ← (Value.field? fields "root_hash").mapM digestOfJson
  pure ⟨← required "leaf_hash" leaf, ← required "root_hash" root, ← required "nodes" nodes,
    ← required "leaf_index" index⟩

/-- The path of an array of its four fields in the written order. -/
def ofItems : List Value → Except JsonFault Path
  | [] => .error (.invalidLength 0 .pathFields)
  | leaf :: rest => do
      let leaf ← digestOfJson leaf
      match rest with
      | [] => .error (.invalidLength 1 .pathFields)
      | root :: rest => do
          let root ← digestOfJson root
          match rest with
          | [] => .error (.invalidLength 2 .pathFields)
          | nodes :: rest => do
              let nodes ← digestsOfJson nodes
              match rest with
              | [] => .error (.invalidLength 3 .pathFields)
              | index :: rest => do
                  let index ← indexOfJson index
                  if rest.isEmpty then pure ⟨leaf, root, nodes, index⟩
                  else .error (.invalidLength (4 + rest.length) .fewerItems)

/-- The path a JSON value stands for. -/
def ofJson : Value → Except JsonFault Path
  | .object fields => ofFields fields
  | .array items => ofItems items
  | other => .error (.invalidType other .path)

end Path

end StripedMerkle
