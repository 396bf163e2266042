/-!
The shortest decimal that reads back as a given double.

A finite positive double is `m * 2 ^ e` with an integer `m`. Every real in its rounding interval
reads back as it: the interval reaches half a unit to each side (a quarter unit below when `m`
is the smallest mantissa of its binade), and holds its ends exactly when `m` is even, as a tie
goes to the even mantissa. For one, two, and up to seventeen significant digits we test the two
neighbours of the value on that decimal grid; the first count with a neighbour in the interval
gives the digits, the nearer neighbour winning and a tie going to the even last digit.

All comparisons are exact: a number `a * 2 ^ p * 10 ^ q` is compared with another by moving
both to the least powers of two and ten that occur.
-/

namespace TurnLedger.Decimal

/-- A finite double split into sign, integer mantissa and binary exponent:
the value is `(-1) ^ sign * mantissa * 2 ^ exponent`. -/
structure BinaryParts where
  negative : Bool
  mantissa : Nat
  exponent : Int

/-- The parts of a finite double; for an infinite or NaN value the result is meaningless. -/
def BinaryParts.ofFloat (x : Float) : BinaryParts :=
  let bits := x.toBits.toNat
  let negative := bits / Nat.pow 2 63 % 2 == (1 : Nat)
  let biased : Nat := bits / Nat.pow 2 52 % Nat.pow 2 11
  let fraction := bits % Nat.pow 2 52
  if biased == 0 then ⟨negative, fraction, -1074⟩
  else ⟨negative, fraction + Nat.pow 2 52, (biased : Int) - 1075⟩

def compareScaled (a : Nat) (p q : Int) (b : Nat) (p' q' : Int) : Ordering :=
  let p0 := min p p'
  let q0 := min q q'
  compare (a * Nat.pow 2 (p - p0).toNat * Nat.pow 10 (q - q0).toNat)
    (b * Nat.pow 2 (p' - p0).toNat * Nat.pow 10 (q' - q0).toNat)

def floorScaled (m : Nat) (e k : Int) : Nat :=
  (m * Nat.pow 2 e.toNat * Nat.pow 10 (-k).toNat) / (Nat.pow 2 (-e).toNat * Nat.pow 10 k.toNat)

/-- Moves a guess `E` of the decimal exponent until `10 ^ E ≤ m * 2 ^ e < 10 ^ (E + 1)`,
at most `fuel` steps each way. -/
def settleExponent (m : Nat) (e : Int) : Nat → Int → Int
  | 0, guess => guess
  | fuel + 1, guess =>
    if compareScaled 1 0 guess m e 0 == .gt then settleExponent m e fuel (guess - 1)
    else if compareScaled 1 0 (guess + 1) m e 0 != .gt then settleExponent m e fuel (guess + 1)
    else guess

/-- The decimal exponent `E` with `10 ^ E ≤ m * 2 ^ e < 10 ^ (E + 1)`, for `m > 0`. -/
def decimalExponent (m : Nat) (e : Int) : Int :=
  let bits : Int := (Nat.log2 m : Int) + e
  settleExponent m e 8 ((bits * 30103).fdiv 100000)

/-- A decimal `digits * 10 ^ exponent`, with no trailing zero in `digits` unless it is zero. -/
structure Shortest where
  digits : Nat
  exponent : Int
  deriving Repr, BEq

def Shortest.normalize : Nat → Shortest → Shortest
  | 0, s => s
  | fuel + 1, s =>
    if s.digits != 0 && s.digits % 10 == 0 then
      Shortest.normalize fuel ⟨s.digits / 10, s.exponent + 1⟩
    else s

/-- The rounding interval of `m * 2 ^ e`, as `(low, high, scale, closed)`: the interval is
`[low, high] * 2 ^ scale`, with its ends included exactly when `closed`. -/
def roundingInterval (m : Nat) (e : Int) : Nat × Nat × Int × Bool :=
  let lowGap := if m == Nat.pow 2 52 && e > -1074 then 1 else 2
  (4 * m - lowGap, 4 * m + 2, e - 2, m % 2 == 0)

def inInterval (m : Nat) (e : Int) (c : Nat) (k : Int) : Bool :=
  let (low, high, scale, closed) := roundingInterval m e
  let lo := compareScaled low scale 0 c 0 k
  let hi := compareScaled c 0 k high scale 0
  (lo == .lt || (closed && lo == .eq)) && (hi == .lt || (closed && hi == .eq))

def searchDigits (m : Nat) (e E : Int) : Nat → Nat → Shortest
  | 0, _ => ⟨m, 0⟩
  | fuel + 1, n =>
    let k := E - n + 1
    let lower := floorScaled m e k
    let upper := lower + 1
    let lowIn := inInterval m e lower k
    let upIn := inInterval m e upper k
    if lowIn && upIn then
      -- the nearer of the two, a tie to the even digit
      let below := compareScaled m e 0 (2 * lower + 1) (-1) k
      let pick :=
        if below == .lt then lower
        else if below == .gt then upper
        else if lower % 2 == 0 then lower else upper
      ⟨pick, k⟩
    else if lowIn then ⟨lower, k⟩
    else if upIn then ⟨upper, k⟩
    else searchDigits m e E fuel (n + 1)

/-- The shortest decimal that reads back as the finite positive value `m * 2 ^ e`. -/
def shortestOf (m : Nat) (e : Int) : Shortest :=
  let E := decimalExponent m e
  Shortest.normalize 20 (searchDigits m e E 17 1)

/-- The shortest decimal of the magnitude of a finite double; zero gives `⟨0, 0⟩`. -/
def shortest (x : Float) : Shortest :=
  let p := BinaryParts.ofFloat x
  if p.mantissa == 0 then ⟨0, 0⟩ else shortestOf p.mantissa p.exponent

end TurnLedger.Decimal
