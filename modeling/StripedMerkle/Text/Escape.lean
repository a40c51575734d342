import StripedMerkle.Text.Unprintable

/-!
# Escaped literals

Writes a character or a string as a quoted literal in the way diagnostic messages show them:
the delimiter, backslash, NUL, tab, carriage return and line feed get a backslash escape, a
character that does not print is written `\u{hex}` with lowercase hex digits, and every other
character stands for itself.

Which characters print is the table of `Unprintable`.
-/

namespace StripedMerkle
namespace Escape

/-- Whether a character is written as itself inside a literal. -/
def printable (c : Char) : Bool :=
  !Unprintable.contains c

/-- Lowercase hexadecimal digits of a number, most significant first, at least one digit. -/
def hexDigits (n : Nat) : List Char :=
  Nat.toDigits 16 n

/-- The escape of one character inside a literal delimited by `quote`. -/
def escapeChar (quote : Char) (c : Char) : List Char :=
  if c = quote then ['\\', c]
  else if c = '\\' then ['\\', '\\']
  else if c = '\x00' then ['\\', '0']
  else if c = '\t' then ['\\', 't']
  else if c = '\r' then ['\\', 'r']
  else if c = '\n' then ['\\', 'n']
  else if printable c then [c]
  else ['\\', 'u', '{'] ++ hexDigits c.toNat ++ ['}']

/-- A character as a literal between single quotes. -/
def char (c : Char) : String :=
  String.ofList ('\'' :: escapeChar '\'' c ++ ['\''])

/-- A string as a literal between double quotes. -/
def string (s : String) : String :=
  String.ofList ('"' :: s.toList.flatMap (escapeChar '"') ++ ['"'])

example : char 'z' = "'z'" := by decide +kernel
example : string "a\"b" = "\"a\\\"b\"" := by decide +kernel
example : string "é\u0301" = "\"é\\u\x7b301\x7d\"" := by decide +kernel

end Escape
end StripedMerkle
