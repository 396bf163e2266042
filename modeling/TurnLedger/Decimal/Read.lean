import TurnLedger.Decimal.Shortest

/-!
# Doubles from decimal numbers

`nearestDouble num den` is the double nearest to the positive rational `num / den`, a tie going
to the even mantissa, and infinity past the largest finite double. Every double is
`(e + 1074) * 2 ^ 52 + q` in its bit pattern when `q` is its mantissa on the scale `2 ^ e`
(`2 ^ 52 ≤ q ≤ 2 ^ 53`, or `e = -1074` below the normal range), so rounding only has to find
`e` and `q`.

`scaleByTen` is the quick decimal composition of a parsed number: the significand becomes a
double, which is then multiplied or divided by the double nearest to a power of ten, with
powers beyond `10 ^ 308` taken `10 ^ 308` at a time. Its result can be one unit off the
nearest double, and is `none` where a multiplication overflows.
-/

namespace TurnLedger.Decimal

def infinityBits : Nat := 0x7FF * Nat.pow 2 52

def roundHalfEven (a b : Nat) : Nat :=
  let q := a / b
  let r := a % b
  if 2 * r < b then q
  else if 2 * r > b then q + 1
  else if q % 2 == 0 then q else q + 1

def roundScaled (num den : Nat) (e : Int) : Nat :=
  roundHalfEven (num * Nat.pow 2 (-e).toNat) (den * Nat.pow 2 e.toNat)

def nearestDouble (num den : Nat) : Float :=
  if num == 0 || den == 0 then 0.0
  else
    let e0 : Int := (num.log2 : Int) - (den.log2 : Int) - 52
    let e1 :=
      if (num * Nat.pow 2 (-e0).toNat) / (den * Nat.pow 2 e0.toNat) < Nat.pow 2 52 then e0 - 1
      else e0
    let e := max e1 (-1074)
    let q := roundScaled num den e
    let bits := (e + 1074).toNat * Nat.pow 2 52 + q
    Float.ofBits (if bits ≥ infinityBits then infinityBits else bits).toUInt64

/-- The double nearest to `digits * 10 ^ exponent`. Past `10 ^ 310` every value rounds to
infinity and below `10 ^ -330` to zero, so those are decided by the count of digits. -/
def nearestScientific (digits : Nat) (exponent : Int) : Float :=
  let width : Int := (Nat.toDigits 10 digits).length
  if digits == 0 then 0.0
  else if width + exponent > 310 then Float.ofBits infinityBits.toUInt64
  else if width + exponent < -330 then 0.0
  else if 0 ≤ exponent then nearestDouble (digits * Nat.pow 10 exponent.toNat) 1
  else nearestDouble digits (Nat.pow 10 (-exponent).toNat)

def powerOfTen (k : Nat) : Float := nearestDouble (Nat.pow 10 k) 1

def powersOfTen : Array Float := (List.range 309).toArray.map powerOfTen

def tenTo (k : Nat) : Option Float := powersOfTen[k]?

/-- One to four rounds of `scaleByTen`: a power of ten in the table ends it, a larger one
divides by `10 ^ 308` and goes on with the rest (a zero value ends at once). -/
def scaleRounds : Nat → Float → Int → Option Float
  | 0, f, _ => some f
  | fuel + 1, f, exponent =>
    match tenTo exponent.natAbs with
    | some p =>
      if 0 ≤ exponent then
        let g := f * p
        if g.isInf then none else some g
      else some (f / p)
    | none =>
      if f == 0.0 then some f
      else if 0 ≤ exponent then none
      else scaleRounds fuel (f / 1e308) (exponent + 308)

/-- `significand * 10 ^ exponent` composed with double arithmetic, signed; `none` when it
overflows. Three rounds always suffice, as a significand below `2 ^ 64` divided twice by
`10 ^ 308` is zero. -/
def scaleByTen (positive : Bool) (significand : Nat) (exponent : Int) : Option Float :=
  (scaleRounds 4 (nearestDouble significand 1) exponent).map fun f =>
    if positive then f else -f

end TurnLedger.Decimal
