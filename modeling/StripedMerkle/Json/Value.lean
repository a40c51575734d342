/-!
# JSON values

A JSON number is kept in the class a reader gives it: a non-negative integer that fits in 64
bits, a negative integer that fits in 64 signed bits, or otherwise a double. An object keeps its
fields in the order given; the reader gives them sorted by key, as a map does.
-/

namespace StripedMerkle
namespace Json

/-- A JSON number, in the class its text was read as. -/
inductive Number where
  /-- A non-negative integer below `2 ^ 64`. -/
  | natural (value : UInt64)
  /-- A negative integer of at least `-2 ^ 63`. -/
  | negative (value : Int64)
  /-- Any other number. -/
  | double (value : Float)

/-- A JSON value. -/
inductive Value where
  | null
  | bool (value : Bool)
  | number (value : Number)
  | string (value : String)
  | array (items : List Value)
  | object (fields : List (String × Value))

namespace Value

/-- The value of a field of an object, the first one of that key. -/
def field? (fields : List (String × Value)) (key : String) : Option Value :=
  fields.lookup key

/-- Inserts a field into fields sorted by key; a field of the same key is replaced. -/
def insertField (key : String) (value : Value) : List (String × Value) → List (String × Value)
  | [] => [(key, value)]
  | (other, current) :: rest =>
      if key < other then (key, value) :: (other, current) :: rest
      else if key = other then (key, value) :: rest
      else (other, current) :: insertField key value rest

/-- The fields of a map built by inserting each field in turn: sorted by key, and of two fields
with one key the later one kept. -/
def sortedFields (fields : List (String × Value)) : List (String × Value) :=
  fields.foldl (fun map (key, value) => insertField key value map) []

end Value

end Json
end StripedMerkle
