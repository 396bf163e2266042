import TurnLedger.Decimal.Read

/-!
How a double is written once its shortest digits are known.

A `Layout` fixes where plain positional notation ends and scientific notation begins, and how
the exponent is marked. Positional notation keeps a `.0` on whole numbers; scientific notation
writes one digit before the point, the other digits after it, then `e`, a sign and the exponent
without padding (`1e+16`, `1.5e-7`). Zero is `0.0`, and a negative value, negative zero
included, starts with a minus sign.

Two layouts are used by the library: `Layout.json`, positional for magnitudes from `1e-5` up to
but excluding `1e16`, and `Layout.plain`, which is positional for every magnitude.

`fixed` writes a value with a given number of places after the point, rounding the exact value
of the double half to even.
-/

namespace TurnLedger.Decimal

/-- Where positional notation is used, by the position `p` of the decimal point relative to the
first significant digit (the value lies in `[10 ^ (p - 1), 10 ^ p)`). -/
structure Layout where
  /-- Positional notation needs `lowestPoint ≤ p`; `none` sets no lower bound. -/
  lowestPoint : Option Int
  /-- Positional notation needs `p ≤ highestPoint`; `none` sets no upper bound. -/
  highestPoint : Option Int
  plusSign : Bool

/-- Positional from `1e-5` up to `1e16`, scientific outside, with `e+` and `e-`. -/
def Layout.json : Layout := ⟨some (-4), some 16, true⟩

def Layout.plain : Layout := ⟨none, none, true⟩

def digitsOf (n : Nat) : List Char := Nat.toDigits 10 n

def zeros (n : Nat) : List Char := List.replicate n '0'

def Layout.renderDigits (layout : Layout) (s : Shortest) : List Char :=
  let ds := digitsOf s.digits
  let len : Int := ds.length
  let point := len + s.exponent
  let aboveLow := match layout.lowestPoint with
    | some lo => lo ≤ point
    | none => true
  let belowHigh := match layout.highestPoint with
    | some hi => point ≤ hi
    | none => true
  if aboveLow && belowHigh then
    if 0 ≤ s.exponent then ds ++ zeros s.exponent.toNat ++ ['.', '0']
    else if 0 < point then ds.take point.toNat ++ '.' :: ds.drop point.toNat
    else '0' :: '.' :: zeros (-point).toNat ++ ds
  else
    let exp := point - 1
    let mark := if exp < 0 then ['e', '-'] else if layout.plusSign then ['e', '+'] else ['e']
    let mantissa := match ds with
      | [d] => [d]
      | d :: rest => d :: '.' :: rest
      | [] => []
    mantissa ++ mark ++ digitsOf exp.natAbs

def Layout.render (layout : Layout) (x : Float) : String :=
  let parts := BinaryParts.ofFloat x
  let sign := if parts.negative then "-" else ""
  if parts.mantissa == 0 then sign ++ "0.0"
  else sign ++ String.ofList (layout.renderDigits (shortestOf parts.mantissa parts.exponent))

/-- A finite double with exactly `places` digits after the point, rounded half to even from
its exact value. -/
def fixed (places : Nat) (x : Float) : String :=
  let p := BinaryParts.ofFloat x
  let scaled :=
    roundHalfEven (p.mantissa * Nat.pow 2 p.exponent.toNat * Nat.pow 10 places)
      (Nat.pow 2 (-p.exponent).toNat)
  let ds := digitsOf scaled
  let ds := zeros (places + 1 - ds.length) ++ ds
  let whole := ds.take (ds.length - places)
  let frac := ds.drop (ds.length - places)
  let sign := if p.negative then "-" else ""
  sign ++ String.ofList (if places == 0 then whole else whole ++ '.' :: frac)

end TurnLedger.Decimal
