import StripedMerkle.Json.Value
import StripedMerkle.Decimal.Shortest

/-!
# Compact JSON text

Values are written without blanks. A string escapes the quote, the backslash and every control
character: five of them by a letter and the others as `\u00xx`. A double is written with its
shortest digits.
-/

namespace StripedMerkle
namespace Json

/-- The text of one character inside a quoted string. -/
def escapeChar (c : Char) : String :=
  if c = '"' then "\\\""
  else if c = '\\' then "\\\\"
  else if c = '\n' then "\\n"
  else if c = '\r' then "\\r"
  else if c = '\t' then "\\t"
  else if c.toNat = 8 then "\\b"
  else if c.toNat = 12 then "\\f"
  else if c.toNat < 0x20 then
    "\\u00" ++ String.ofList [Nat.digitChar (c.toNat / 16), Nat.digitChar (c.toNat % 16)]
  else c.toString

/-- A string between quotes. -/
def quote (s : String) : String :=
  "\"" ++ String.join (s.toList.map escapeChar) ++ "\""

/-- The exponent part of a number in scientific form: `e`, its sign, and its digits. -/
def exponentText (exponent : Int) : String :=
  "e" ++ (if 0 ≤ exponent then "+" else "-") ++ toString exponent.natAbs

/-- The text of a finite double from its sign and shortest decimal `digits · 10 ^ exponent`.
Where the point falls within the first sixteen places, or at most five zeros follow it, the
number is positional, and a whole number keeps `.0`; otherwise one digit, the others after a
point, `e` and the signed exponent. -/
def decimalText (negative : Bool) (digits : Nat) (exponent : Int) : String :=
  let ds := toString digits
  let length := (ds.length : Int)
  let point := length + exponent
  let body :=
    if 0 ≤ exponent ∧ point ≤ 16 then
      ds ++ String.ofList (List.replicate exponent.toNat '0') ++ ".0"
    else if 0 < point ∧ point ≤ 16 then
      String.ofList (ds.toList.take point.toNat) ++ "." ++ String.ofList (ds.toList.drop point.toNat)
    else if -5 < point ∧ point ≤ 0 then
      "0." ++ String.ofList (List.replicate (-point).toNat '0') ++ ds
    else if length = 1 then
      ds ++ exponentText (point - 1)
    else
      String.ofList (ds.toList.take 1) ++ "." ++ String.ofList (ds.toList.drop 1) ++
        exponentText (point - 1)
  (if negative then "-" else "") ++ body

/-- The text of a double: its shortest decimal, `0.0` for zero; `NaN`, `inf` and `-inf` for the
values that are not finite. -/
def doubleText (x : Float) : String :=
  let negative := x.toBits >>> 63 == 1
  if x.isNaN then "NaN"
  else if x.isInf then (if negative then "-inf" else "inf")
  else match Decimal.Binary.ofBits x.toBits with
    | none => if negative then "-0.0" else "0.0"
    | some b =>
        let (digits, exponent) := Decimal.shortest b
        decimalText negative digits exponent

/-- The text of a number; a double that is not finite is written `null`. -/
def Number.render : Number → String
  | .natural value => toString value.toNat
  | .negative value => toString value.toInt
  | .double value => if value.isFinite then doubleText value else "null"

mutual

/-- The compact text of a value. -/
def Value.render : Value → String
  | .null => "null"
  | .bool value => if value then "true" else "false"
  | .number value => value.render
  | .string value => quote value
  | .array items => "[" ++ renderItems items ++ "]"
  | .object fields => "\x7b" ++ renderFields fields ++ "\x7d"

/-- The texts of array items, separated by commas. -/
def renderItems : List Value → String
  | [] => ""
  | [item] => item.render
  | item :: rest => item.render ++ "," ++ renderItems rest

/-- The texts of object fields, separated by commas. -/
def renderFields : List (String × Value) → String
  | [] => ""
  | [(key, value)] => quote key ++ ":" ++ value.render
  | (key, value) :: rest => quote key ++ ":" ++ value.render ++ "," ++ renderFields rest

end

end Json
end StripedMerkle
