import TurnLedger.Toml.Lexeme
import TurnLedger.Decimal.Read

/-!
# TOML numbers, booleans and date-times

An integer is decimal (an optional sign, no leading zero, `_` only between digits) or, without
sign, hexadecimal `0x`, octal `0o` or binary `0b`; it must fit in a signed 64-bit word. A float
is a decimal integer part followed by a fraction, an exponent or both, or `inf` and `nan` with an
optional sign; a finite float that rounds to positive infinity is refused, as TOML floats come
from finite text. A date-time follows RFC 3339: a date, a date and a time with an optional
offset, or a time alone, with `T`, `t` or a space between date and time; the day must exist in
its month.
-/

namespace TurnLedger.Toml

def wordMax : Int := 9223372036854775807

def tooLargeCause : String := "number too large to fit in target type"

def tooSmallCause : String := "number too small to fit in target type"

def outOfRangeCause : String := "value is out of range"

/-- Digits accepted by `digit`, each group after the first introduced by `_`, from `i`, where a
digit has already been read. An `_` must be followed by a digit. -/
def digitGroups (digit : UInt8 → Bool) (b : ByteArray) : Nat → Nat → Step Unit
  | 0, i => .ok ((), i)
  | fuel + 1, i =>
    if byteIs digit b i then digitGroups digit b fuel (i + 1)
    else if byteAt b i == some 0x5F then
      if byteIs digit b (i + 1) then digitGroups digit b fuel (i + 2)
      else .error { offset := i + 1, cut := true, contexts := [expectWords "digit"] }
    else .ok ((), i)

/-- A decimal integer's text at `i`: an optional sign, then `0` alone or a digit from one to
nine followed by digits. -/
def decimalInteger (b : ByteArray) (i : Nat) : Step Unit :=
  let j := if byteIs (fun c => c == 0x2B || c == 0x2D) b i then i + 1 else i
  let r : Step Unit :=
    if byteIs (fun c => 0x31 ≤ c && c ≤ 0x39) b j then digitGroups isDigitByte b (b.size + 1) (j + 1)
    else if byteIs isDigitByte b j then .ok ((), j + 1)
    else .error (soft j)
  Step.within r [.label "integer"]

def zeroPrefixable (b : ByteArray) (i : Nat) : Step Unit :=
  if byteIs isDigitByte b i then digitGroups isDigitByte b (b.size + 1) (i + 1)
  else .error (soft i)

def fraction (b : ByteArray) (i : Nat) : Step Unit :=
  if byteAt b i != some 0x2E then .error (soft i)
  else Step.within (Step.hard (zeroPrefixable b (i + 1))) [expectWords "digit"]

def exponentPart (b : ByteArray) (i : Nat) : Step Unit :=
  if !byteIs (fun c => c == 0x65 || c == 0x45) b i then .error (soft i)
  else
    let j := if byteIs (fun c => c == 0x2B || c == 0x2D) b (i + 1) then i + 2 else i + 1
    Step.hard (zeroPrefixable b j)

def floatText (b : ByteArray) (i : Nat) : Step Unit :=
  match decimalInteger b i with
  | .error f => .error f
  | .ok (_, j) =>
    Step.orElse (exponentPart b j) fun _ =>
      match fraction b j with
      | .error f => .error f
      | .ok (_, k) =>
        match exponentPart b k with
        | .ok r => .ok r
        | .error f => if f.cut then .error f else .ok ((), k)

def withoutSeparators (s : String) : String := String.ofList (s.toList.filter (· != '_'))

def digitsValue (cs : List Char) : Nat := cs.foldl (fun acc c => acc * 10 + (c.toNat - 48)) 0

/-- The double nearest to the text of a finite float (sign, digits, optional fraction and
exponent, separators removed). -/
def readFloat (s : String) : Float :=
  let cs := s.toList
  let negative := cs.head? == some '-'
  let cs := if cs.head? == some '-' || cs.head? == some '+' then cs.drop 1 else cs
  let whole := cs.takeWhile Char.isDigit
  let rest := cs.dropWhile Char.isDigit
  let (frac, rest) := match rest with
    | '.' :: r => (r.takeWhile Char.isDigit, r.dropWhile Char.isDigit)
    | r => ([], r)
  let exponent : Int := match rest with
    | e :: r =>
      if e == 'e' || e == 'E' then
        match r with
        | '-' :: ds => -(digitsValue ds : Int)
        | '+' :: ds => digitsValue ds
        | ds => digitsValue ds
      else 0
    | [] => 0
  let x := Decimal.nearestScientific (digitsValue (whole ++ frac)) (exponent - frac.length)
  if negative then -x else x

def infinity : Float := Float.ofBits Decimal.infinityBits.toUInt64

def floatAt (b : ByteArray) (i : Nat) : Step Float :=
  let finite : Step Float :=
    match floatText b i with
    | .error f => .error f
    | .ok (_, j) =>
      let x := readFloat (withoutSeparators (slice b i j))
      if x.toBits == infinity.toBits then .error { offset := i, cut := true }
      else .ok (x, j)
  let special : Unit → Step Float := fun _ =>
    let sign := byteAt b i
    let j := if sign == some 0x2B || sign == some 0x2D then i + 1 else i
    let negate := fun (x : Float) => if sign == some 0x2D then -x else x
    if startsWith b j [0x69, 0x6E, 0x66] then .ok (negate infinity, j + 3)
    else if startsWith b j [0x6E, 0x61, 0x6E] then .ok (negate (0.0 / 0.0), j + 3)
    else .error (soft j)
  Step.within (Step.orElse finite special) [.label "floating-point number"]

def radixValue (base : Nat) (cs : List Char) : Nat :=
  cs.foldl (fun acc c =>
    if c == '_' then acc
    else
      let d := if c.isDigit then c.toNat - 48 else if c.isUpper then c.toNat - 55 else c.toNat - 87
      acc * base + d) 0

def prefixedInteger (b : ByteArray) (i : Nat) (base : Nat) (digit : UInt8 → Bool) (what : String) :
    Step Int :=
  let r : Step Unit :=
    if !byteIs digit b (i + 2) then .error (soft (i + 2))
    else digitGroups digit b (b.size + 1) (i + 3)
  match Step.within (Step.hard r) [.label what] with
  | .error f => .error f
  | .ok (_, j) =>
    let n := radixValue base (slice b (i + 2) j).toList
    if (n : Int) > wordMax then .error (hardCause i tooLargeCause) else .ok (n, j)

def integerAt (b : ByteArray) (i : Nat) : Step Int :=
  if startsWith b i [0x30, 0x78] then prefixedInteger b i 16 isHexByte "hexadecimal integer"
  else if startsWith b i [0x30, 0x6F] then
    prefixedInteger b i 8 (fun c => 0x30 ≤ c && c ≤ 0x37) "octal integer"
  else if startsWith b i [0x30, 0x62] then
    prefixedInteger b i 2 (fun c => c == 0x30 || c == 0x31) "binary integer"
  else
    match decimalInteger b i with
    | .error f => .error f
    | .ok (_, j) =>
      let s := (withoutSeparators (slice b i j)).toList
      let magnitude : Int := digitsValue (s.filter Char.isDigit)
      let n := if s.head? == some '-' then -magnitude else magnitude
      if n > wordMax then .error (hardCause i tooLargeCause)
      else if n < -wordMax - 1 then .error (hardCause i tooSmallCause)
      else .ok (n, j)

def fixedDigits (b : ByteArray) (i n : Nat) : Option Nat :=
  if scanWhile isDigitByte b i - i < n then none
  else some (digitsValue (slice b i (i + n)).toList)

def component (b : ByteArray) (i lo hi : Nat) : Step Nat :=
  match fixedDigits b i 2 with
  | none => .error (soft i)
  | some v =>
    if lo ≤ v && v ≤ hi then .ok (v, i + 2)
    else .error { offset := i, cause := some outOfRangeCause }

def monthLength (year month : Nat) : Nat :=
  if month == 2 then
    if year % 4 == 0 && (year % 100 != 0 || year % 400 == 0) then 29 else 28
  else if month == 4 || month == 6 || month == 9 || month == 11 then 30
  else 31

def expectByte (b : ByteArray) (i : Nat) (c : UInt8) : Step Unit :=
  if byteAt b i == some c then .ok ((), i + 1) else .error (soft i)

/-- A date at `i`. Once the year and its dash are read, the rest must follow. -/
def dateAt (b : ByteArray) (i : Nat) : Step (Nat × Nat × Nat) :=
  match fixedDigits b i 4 with
  | none => .error (soft i)
  | some year =>
    match expectByte b (i + 4) 0x2D with
    | .error f => .error f
    | .ok _ =>
      match Step.hard (component b (i + 5) 1 12) with
      | .error f => .error f
      | .ok (month, _) =>
        match Step.hard (expectByte b (i + 7) 0x2D) with
        | .error f => .error f
        | .ok _ =>
          match Step.hard (component b (i + 8) 1 31) with
          | .error f => .error f
          | .ok (day, j) =>
            if monthLength year month < day then .error (hardCause (i + 8) outOfRangeCause)
            else .ok ((year, month, day), j)

/-- The nanoseconds of a fraction of a second at `i` (a point and digits, those past the ninth
ignored). -/
def secondFraction (b : ByteArray) (i : Nat) : Option (Nat × Nat) :=
  if byteAt b i != some 0x2E then none
  else
    let j := scanWhile isDigitByte b (i + 1)
    if j == i + 1 then none
    else
      let ds := (slice b (i + 1) j).toList.take 9
      some (digitsValue ds * Nat.pow 10 (9 - ds.length), j)

/-- A time of day at `i`. Once the hour and its colon are read, the rest must follow. -/
def timeAt (b : ByteArray) (i : Nat) : Step (Nat × Nat × Nat × Nat) :=
  match component b i 0 23 with
  | .error f => .error f
  | .ok (hour, _) =>
    match expectByte b (i + 2) 0x3A with
    | .error f => .error f
    | .ok _ =>
      match Step.hard (component b (i + 3) 0 59) with
      | .error f => .error f
      | .ok (minute, _) =>
        match Step.hard (expectByte b (i + 5) 0x3A) with
        | .error f => .error f
        | .ok _ =>
          match Step.hard (component b (i + 6) 0 60) with
          | .error f => .error f
          | .ok (second, j) =>
            match secondFraction b j with
            | some (nanos, k) => .ok ((hour, minute, second, nanos), k)
            | none => .ok ((hour, minute, second, 0), j)

def offsetAt (b : ByteArray) (i : Nat) : Step Offset :=
  let r : Step Offset :=
    if byteIs (fun c => c == 0x5A || c == 0x7A) b i then .ok (.utc, i + 1)
    else if byteIs (fun c => c == 0x2B || c == 0x2D) b i then
      let rest : Step (Nat × Nat) :=
        match component b (i + 1) 0 23 with
        | .error f => .error f
        | .ok (h, _) =>
          match expectByte b (i + 3) 0x3A with
          | .error f => .error f
          | .ok _ =>
            match component b (i + 4) 0 59 with
            | .error f => .error f
            | .ok (m, j) => .ok ((h, m), j)
      match Step.hard rest with
      | .error f => .error f
      | .ok ((h, m), j) =>
        let minutes : Int := h * 60 + m
        .ok (.minutes (if byteAt b i == some 0x2D then -minutes else minutes), j)
    else .error (soft i)
  Step.within r [.label "time offset"]

/-- A date-time at `i`: a date with an optional time and offset, or a time alone. -/
def datetimeAt (b : ByteArray) (i : Nat) : Step Datetime :=
  let dated : Step Datetime :=
    match dateAt b i with
    | .error f => .error f
    | .ok (date, j) =>
      let timed : Step (Option ((Nat × Nat × Nat × Nat) × Option Offset)) :=
        Step.optional (
          if !byteIs (fun c => c == 0x54 || c == 0x74 || c == 0x20) b j then .error (soft j)
          else
            match timeAt b (j + 1) with
            | .error f => .error f
            | .ok (time, k) =>
              match Step.optional (offsetAt b k) k with
              | .error f => .error f
              | .ok (offset, l) => .ok ((time, offset), l)) j
      match timed with
      | .error f => .error f
      | .ok (none, k) => .ok ({ date := some date, time := none, offset := none }, k)
      | .ok (some (time, offset), k) => .ok ({ date := some date, time := some time, offset }, k)
  Step.orElse (Step.within dated [.label "date-time"]) fun _ =>
    Step.within ((timeAt b i).map fun (t, j) => ({ date := none, time := some t, offset := none }, j))
      [.label "time"]

def booleanAt (b : ByteArray) (i : Nat) : Step Bool :=
  if startsWith b i [0x74, 0x72, 0x75, 0x65] then .ok (true, i + 4)
  else if startsWith b i [0x66, 0x61, 0x6C, 0x73, 0x65] then .ok (false, i + 5)
  else .error { offset := i, cut := true }

end TurnLedger.Toml
