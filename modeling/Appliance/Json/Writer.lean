-- SUMMARY: The compact text of a JSON value.

import Appliance.Decimal
import Appliance.Json

namespace Appliance

namespace Json

/-! ## Compact text

No blanks stand between the tokens. Only what must be escaped is escaped, by
a letter where there is one and else by a unit in lower-case hexadecimal
digits. -/

/-- The lower-case hexadecimal digit of a number below 16. -/
def hexDigit (n : Nat) : Char := Nat.digitChar n

/-- A character as it stands between quotes. -/
def escape (c : Char) : List Char :=
  if c = '"' then ['\\', '"']
  else if c = '\\' then ['\\', '\\']
  else if c = '\x08' then ['\\', 'b']
  else if c = '\x0c' then ['\\', 'f']
  else if c = '\n' then ['\\', 'n']
  else if c = '\r' then ['\\', 'r']
  else if c = '\t' then ['\\', 't']
  else if c.toNat < 0x20 then
    ['\\', 'u', '0', '0', hexDigit (c.toNat / 16), hexDigit (c.toNat % 16)]
  else [c]

/-- A string between its quotes. -/
def quote (s : String) : List Char := '"' :: s.toList.flatMap escape ++ ['"']

def writeInt (i : Int) : List Char :=
  if i < 0 then '-' :: Nat.toDigits 10 i.natAbs else Nat.toDigits 10 i.natAbs

/-- Doubles have the fewest digits that no other double is nearer to,
    positionally from `0.00001` up to below `10 ^ 16`, otherwise with a signed
    exponent. -/
def doubles : Decimal.Layout where
  plainFrom := -5
  plainBelow := 16
  signedExponent := true

def writeFloat (x : Float) : List Char :=
  if x.isFinite then doubles.renderFloat x else ['n', 'u', 'l', 'l']

mutual

/-- The text of a value. -/
def write : Json → List Char
  | .null => ['n', 'u', 'l', 'l']
  | .bool true => ['t', 'r', 'u', 'e']
  | .bool false => ['f', 'a', 'l', 's', 'e']
  | .int i => writeInt i
  | .float x => writeFloat x
  | .str s => quote s
  | .arr items => '[' :: writeItems items ++ [']']
  | .obj fields => '{' :: writeFields fields ++ ['}']

/-- The texts of the items of an array, with commas between them. -/
def writeItems : List Json → List Char
  | [] => []
  | [j] => write j
  | j :: js => write j ++ ',' :: writeItems js

/-- The texts of the fields of an object, with commas between them. -/
def writeFields : List (String × Json) → List Char
  | [] => []
  | [(k, j)] => quote k ++ ':' :: write j
  | (k, j) :: fs => quote k ++ ':' :: write j ++ ',' :: writeFields fs

end

/-- The text of a value as a string. -/
def render (j : Json) : String := String.ofList j.write

end Json

end Appliance
