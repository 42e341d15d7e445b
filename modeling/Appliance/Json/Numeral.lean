-- SUMMARY: JSON numerals: their grammar and the number each stands for.

import Appliance.Json

namespace Appliance

/-! ## Numerals

A numeral is kept as the digits it is written with. Whether it has a value is
a later question: a numeral above every double is well formed and stands for
nothing. -/

/-- A well-formed JSON numeral. -/
structure Numeral where
  negative : Bool
  whole : List Char
  /-- The digits after the point. -/
  fraction : Option (List Char)
  /-- The sign (`true` for minus) and the digits after the exponent mark. -/
  exponent : Option (Bool × List Char)
deriving DecidableEq, Repr

namespace Numeral

/-- The digits at the start of a text, of which there must be one, and the rest. -/
def splitDigits? (cs : List Char) : Option (List Char × List Char) :=
  match cs.takeWhile Char.isDigit with
  | [] => none
  | ds => some (ds, cs.dropWhile Char.isDigit)

/-- The whole part: no zero leads other digits. -/
def splitWhole? (cs : List Char) : Option (List Char × List Char) :=
  match splitDigits? cs with
  | some ('0' :: _ :: _, _) => none
  | split => split

def splitFraction? : List Char → Option (Option (List Char) × List Char)
  | '.' :: cs => (splitDigits? cs).map fun (ds, r) => (some ds, r)
  | cs => some (none, cs)

/-- The sign of an exponent and what follows it. -/
def splitSign : List Char → Bool × List Char
  | '-' :: cs => (true, cs)
  | '+' :: cs => (false, cs)
  | cs => (false, cs)

def splitExponent? : List Char → Option (Option (Bool × List Char) × List Char)
  | c :: cs =>
    if c = 'e' || c = 'E' then
      let (negative, cs) := splitSign cs
      (splitDigits? cs).map fun (ds, r) => (some (negative, ds), r)
    else some (none, c :: cs)
  | [] => some (none, [])

/-- The numeral after its sign. -/
def unsigned? (negative : Bool) (cs : List Char) : Option Numeral := do
  let (whole, cs) ← splitWhole? cs
  let (fraction, cs) ← splitFraction? cs
  let (exponent, cs) ← splitExponent? cs
  if cs = [] then some ⟨negative, whole, fraction, exponent⟩ else none

/-- Reads a text that is one numeral. -/
def ofChars? : List Char → Option Numeral
  | '-' :: cs => unsigned? true cs
  | cs => unsigned? false cs

/-! ## Values

A numeral without point and exponent is an integer if a signed or an unsigned
word of 64 bits holds it. All others are doubles, the negative zero among
them. -/

/-- The number that a digit stands for. -/
def digitValue (d : Char) : Nat := d.toNat - '0'.toNat

/-- The natural number written by a list of digits. -/
def natOfDigits (ds : List Char) : Nat := ds.foldl (fun n d => 10 * n + digitValue d) 0

/-! ### Doubles

The digits of a double make up a word of 64 bits, as many of them as it holds;
the others only count as places. The word is then multiplied or divided by a
power of ten. Each of these steps rounds, so that the result is the nearest
double or a close neighbour of it. -/

/-- Appends digits to a word until it is full, and tells which are left over. -/
def appendDigits (word : Nat) : List Char → Nat × List Char
  | [] => (word, [])
  | d :: ds =>
    let next := 10 * word + digitValue d
    if next < Json.boundUInt64 then appendDigits next ds else (word, d :: ds)

/-- The largest exponent whose power of ten is a double. -/
def maxPower : Nat := 308

def powerOfTen (k : Nat) : Float := Float.ofScientific 1 false k

/-- A word times a power of ten, if that is finite. A division by more than the
    largest power is made in two steps, and one by more than its square leaves
    nothing of a word. -/
def scale? (word : Nat) (e : Int) : Option Float :=
  let x := (UInt64.ofNat word).toFloat
  if word = 0 || e < -2 * maxPower then some 0.0
  else if e < -maxPower then
    some (x / powerOfTen maxPower / powerOfTen (e.natAbs - maxPower))
  else if e < 0 then some (x / powerOfTen e.natAbs)
  else if e ≤ maxPower then
    let y := x * powerOfTen e.natAbs
    if y.isFinite then some y else none
  else none

/-- The exponent as a number. -/
def exponentValue (n : Numeral) : Int :=
  match n.exponent with
  | none => 0
  | some (negative, ds) => if negative then -natOfDigits ds else natOfDigits ds

/-- The double that a numeral stands for. Digits of the whole part that are left
    over raise the exponent, digits of the fraction that are used lower it. -/
def toFloat? (n : Numeral) : Option Float :=
  let fraction := n.fraction.getD []
  let (word, places) := appendDigits 0 n.whole
  let (word, unused) := appendDigits word fraction
  let magnitude := scale? word (n.exponentValue + places.length + unused.length - fraction.length)
  if n.negative then magnitude.map (- ·) else magnitude

/-- The value of a numeral. -/
def toJson? (n : Numeral) : Option Json :=
  let magnitude : Int := natOfDigits n.whole
  let isInteger := n.fraction.isNone && n.exponent.isNone
  if isInteger && !n.negative && magnitude < Json.boundUInt64 then
    some (.int magnitude)
  else if isInteger && n.negative && magnitude ≠ 0 && Json.minInt64 ≤ -magnitude then
    some (.int (-magnitude))
  else n.toFloat?.map .float

end Numeral

end Appliance
