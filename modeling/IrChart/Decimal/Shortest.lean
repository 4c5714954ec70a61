/-!
# Shortest decimals

A binary floating-point number stands for all reals that round to it. Its shortest decimal is the
one with the fewest digits among those reals, and of several the nearest to the number itself. It
is found by trying coarser and finer decimal grids, in exact arithmetic on natural numbers.
-/

namespace IrChart

/-- The number `mantissa * 2 ^ exponent`. Below a power of two the next number is half as far away
as above it. -/
structure BinaryNumber where
  mantissa : Nat
  exponent : Int
  isPower : Bool
  deriving DecidableEq, Repr

/-- A floating-point datum. -/
inductive FloatDatum where
  | nan
  | infinite (negative : Bool)
  | finite (negative : Bool) (value : BinaryNumber)
  deriving DecidableEq, Repr

/-- The datum of a bit pattern: a sign bit, then the exponent, then the fraction. -/
def FloatDatum.ofBits (exponentBits fractionBits bits : Nat) : FloatDatum :=
  let fraction := bits % Nat.pow 2 fractionBits
  let biased := bits / Nat.pow 2 fractionBits % Nat.pow 2 exponentBits
  let negative := bits / Nat.pow 2 (fractionBits + exponentBits) % 2 == 1
  let lowest : Int := 2 - Nat.pow 2 (exponentBits - 1) - fractionBits
  if biased = Nat.pow 2 exponentBits - 1 then
    if fraction = 0 then .infinite negative else .nan
  else if biased = 0 then .finite negative ⟨fraction, lowest, false⟩
  else .finite negative
    ⟨Nat.pow 2 fractionBits + fraction, lowest + biased - 1, fraction = 0 && biased > 1⟩

/-- The datum of a number in single precision. -/
def FloatDatum.ofFloat32 (x : Float32) : FloatDatum := .ofBits 8 23 x.toBits.toNat

/-- The datum of a number in double precision. -/
def FloatDatum.ofFloat (x : Float) : FloatDatum := .ofBits 11 52 x.toBits.toNat

/-- The number `digits * 10 ^ exponent`. -/
structure Decimal where
  digits : Nat
  exponent : Int
  deriving DecidableEq, Repr

namespace BinaryNumber

/-- What `numerator`, `lowest` and `highest` are over. Its factor 4 makes quarters of the gap to
the next number whole. -/
def denominator (b : BinaryNumber) : Nat := 4 * Nat.pow 2 (-b.exponent).toNat

/-- The number itself, over `denominator`. -/
def numerator (b : BinaryNumber) : Nat := 4 * b.mantissa * Nat.pow 2 b.exponent.toNat

/-- The least real that may round to the number, over `denominator`. -/
def lowest (b : BinaryNumber) : Nat :=
  (4 * b.mantissa - (if b.isPower then 1 else 2)) * Nat.pow 2 b.exponent.toNat

/-- The greatest real that may round to the number, over `denominator`. -/
def highest (b : BinaryNumber) : Nat := (4 * b.mantissa + 2) * Nat.pow 2 b.exponent.toNat

/-- `d` rounds to `b`. The bounds themselves do if the mantissa is even. -/
def accepts (b : BinaryNumber) (d : Decimal) : Bool :=
  let place := d.digits * Nat.pow 10 d.exponent.toNat * b.denominator
  let low := b.lowest * Nat.pow 10 (-d.exponent).toNat
  let high := b.highest * Nat.pow 10 (-d.exponent).toNat
  if b.mantissa % 2 = 0 then low ≤ place && place ≤ high else low < place && place < high

/-- The neighbour of `b` on the grid of multiples of `10 ^ exponent` that rounds to `b` and is
nearest to it; of two equally near ones the even one. -/
def onGrid? (b : BinaryNumber) (exponent : Int) : Option Decimal :=
  let scaled := b.numerator * Nat.pow 10 (-exponent).toNat
  let unit := b.denominator * Nat.pow 10 exponent.toNat
  let below : Decimal := ⟨scaled / unit, exponent⟩
  let above : Decimal := ⟨scaled / unit + 1, exponent⟩
  let rest := scaled % unit
  let belowIsNearer := 2 * rest < unit || (2 * rest == unit && below.digits % 2 == 0)
  match b.accepts below && below.digits != 0, b.accepts above with
  | true, true => some (if belowIsNearer then below else above)
  | true, false => some below
  | false, true => some above
  | false, false => none

/-- The shortest decimal that rounds to `b`, for `b` above zero: the first hit from the coarsest
grid down. On the grid of the last place of `b` itself there is always one. -/
def shortest (b : BinaryNumber) : Decimal :=
  let places := (Nat.toDigits 10 (b.numerator / b.denominator)).length
  let grids := (List.range (places + (-b.exponent).toNat + 1)).map fun k : Nat =>
    (places : Int) - k
  (grids.findSome? b.onGrid?).getD ⟨0, 0⟩

end BinaryNumber

/-- How numbers are written: the words for what is no number, and whether a whole number has a
point. -/
structure Decimal.Style where
  nan : String
  infinity : String
  wholePoint : Bool

/-- The decimal in positional notation. -/
def Decimal.render (style : Decimal.Style) (d : Decimal) : String :=
  let digits := Nat.toDigits 10 d.digits
  let zeros (n : Nat) : List Char := List.replicate n '0'
  let places := (-d.exponent).toNat
  if places = 0 then
    let point := if style.wholePoint then ['.', '0'] else []
    String.ofList (digits ++ zeros d.exponent.toNat ++ point)
  else
    let padded := zeros (places + 1 - digits.length) ++ digits
    let whole := padded.length - places
    String.ofList (padded.take whole ++ '.' :: padded.drop whole)

/-- The datum in positional notation, with as few digits as it takes to read it back. -/
def FloatDatum.render (style : Decimal.Style) : FloatDatum → String
  | nan => style.nan
  | infinite negative => (if negative then "-" else "") ++ style.infinity
  | finite negative b =>
    (if negative then "-" else "") ++
      (if b.mantissa = 0 then Decimal.render style ⟨0, 0⟩ else b.shortest.render style)

end IrChart
