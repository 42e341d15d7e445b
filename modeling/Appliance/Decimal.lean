-- SUMMARY: Decimal fractions: the shortest one that reads back as a given double, and how one is laid out as text.

namespace Appliance

/-! ## Binary grid points

A positive double is a mantissa times a power of two. The reals that round to
it fill the interval between the midpoints to its two neighbours. The gap
below is half the gap above when the mantissa has just reached a power of
two. Measured in quarters of the last place, the double is `4 * mantissa`, the
upper midpoint is two further, and the lower one two or one less. -/

/-- A positive double: `mantissa * 2 ^ exponent`. -/
structure Binary where
  mantissa : Nat
  exponent : Int
  /-- The neighbour below is only half as far away as the one above. -/
  narrowBelow : Bool
deriving DecidableEq, Repr

namespace Binary

/-- The grid point of a finite double, its sign left out. -/
def ofFloat (x : Float) : Binary :=
  let bits : Nat := x.toBits.toNat
  let fraction : Nat := bits % 0x10000000000000
  let biased : Nat := bits / 0x10000000000000 % 0x800
  if biased = 0 then ⟨fraction, -1074, false⟩
  else ⟨fraction + 0x10000000000000, (biased : Int) - 1075, fraction = 0 && biased > 1⟩

/-- The value in quarters of the last place. -/
def quarters (b : Binary) : Nat := 4 * b.mantissa

/-- The upper end of the rounding interval, in quarters of the last place. -/
def upper (b : Binary) : Nat := b.quarters + 2

/-- The lower end of the rounding interval, in quarters of the last place. -/
def lower (b : Binary) : Nat := b.quarters - if b.narrowBelow then 1 else 2

/-- A multiple of `10 ^ k` and a number of quarters, as naturals that compare
    as the two values do. The first belongs to the decimal side. -/
def decimalSide (b : Binary) (k : Int) (d : Nat) : Nat :=
  d * Nat.pow 10 k.toNat * Nat.pow 2 (2 - b.exponent).toNat

/-- The binary side of the comparison. -/
def binarySide (b : Binary) (k : Int) (quarters : Nat) : Nat :=
  quarters * Nat.pow 10 (-k).toNat * Nat.pow 2 (b.exponent - 2).toNat

/-- The decimal `d * 10 ^ k` rounds to the grid point. A midpoint belongs to
    the neighbour with the even mantissa. -/
def readsBack (b : Binary) (k : Int) (d : Nat) : Bool :=
  let v := b.decimalSide k d
  let lo := b.binarySide k b.lower
  let hi := b.binarySide k b.upper
  if b.mantissa % 2 = 0 then lo ≤ v && v ≤ hi else lo < v && v < hi

/-- The exponent of the first decimal digit. No double is below `10 ^ -324`,
    so the digits of its `10 ^ 340`-fold tell. -/
def leading (b : Binary) : Int :=
  let scaled := b.binarySide (-340) b.quarters / b.decimalSide (-340) 1
  (Nat.toDigits 10 scaled).length - 341

/-- The multiple of `10 ^ k` next to the grid point that rounds to it: of two
    the nearer, of two equally near ones the even. -/
def onGrid? (b : Binary) (k : Int) : Option Nat :=
  let value := b.binarySide k b.quarters
  let below := value / b.decimalSide k 1
  let above := below + 1
  match b.readsBack k below, b.readsBack k above with
  | false, false => none
  | true, false => some below
  | false, true => some above
  | true, true =>
    let twice := 2 * value
    let ends := b.decimalSide k below + b.decimalSide k above
    if twice < ends then some below
    else if ends < twice then some above
    else if below % 2 = 0 then some below
    else some above

end Binary

/-! ## Decimals -/

/-- A positive decimal fraction: the first digit counts `10 ^ leading`, each
    later one a tenth of the one before. -/
structure Decimal where
  digits : List Char
  leading : Int
deriving DecidableEq, Repr

namespace Decimal

/-- The decimal of a natural number of units `10 ^ k`, without trailing zeros. -/
def ofUnits (k : Int) (d : Nat) : Decimal :=
  let digits := Nat.toDigits 10 d
  ⟨(digits.reverse.dropWhile (· = '0')).reverse, k + digits.length - 1⟩

/-- The fewest digits that read back as the grid point. Seventeen always do. -/
def shortest (b : Binary) : Decimal :=
  let grid (count : Nat) : Int := b.leading - count
  let found := (List.range 17).findSome? fun count =>
    (b.onGrid? (grid count)).map (ofUnits (grid count))
  found.getD ⟨['0'], 0⟩

/-! ## Layout -/

/-- How a decimal is written. -/
structure Layout where
  /-- The least exponent of a first digit that is written positionally. -/
  plainFrom : Int
  /-- The least exponent above that which is written with an exponent part. -/
  plainBelow : Int
  /-- A positive exponent carries its sign. -/
  signedExponent : Bool

namespace Layout

/-- The exponent part of a decimal. -/
def exponentPart (l : Layout) (e : Int) : List Char :=
  'e' :: ((if e < 0 then ['-'] else if l.signedExponent then ['+'] else []) ++
    Nat.toDigits 10 e.natAbs)

/-- Digits with the point after the first `whole` of them; at least one digit
    stands on either side. -/
def positional (digits : List Char) (whole : Int) : List Char :=
  let zeros (n : Nat) := List.replicate n '0'
  let before := digits.take whole.toNat ++ zeros (whole.toNat - digits.length)
  let after := zeros (-whole).toNat ++ digits.drop whole.toNat
  (if before = [] then ['0'] else before) ++ '.' :: (if after = [] then ['0'] else after)

/-- The text of a positive decimal. -/
def render (l : Layout) (d : Decimal) : List Char :=
  if l.plainFrom ≤ d.leading ∧ d.leading < l.plainBelow then
    positional d.digits (d.leading + 1)
  else
    match d.digits with
    | [] => []
    | [c] => c :: l.exponentPart d.leading
    | c :: cs => c :: '.' :: cs ++ l.exponentPart d.leading

/-- The text of a finite double, with the sign of a zero kept. -/
def renderFloat (l : Layout) (x : Float) : List Char :=
  let magnitude :=
    let b := Binary.ofFloat x
    if b.mantissa = 0 then ['0', '.', '0'] else l.render (shortest b)
  if x.toBits.toNat < 0x8000000000000000 then magnitude else '-' :: magnitude

end Layout

end Decimal

end Appliance
