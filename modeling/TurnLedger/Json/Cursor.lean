import TurnLedger.Json.Value
import TurnLedger.Json.Error
import TurnLedger.Decimal.Read

/-!
# Reading JSON tokens from bytes

The reader walks the UTF-8 bytes of the text with an index. A failure is reported either at
the index (`Slip.here`), or one byte past it (`Slip.ahead`, clamped to the end) when the reader
only looked at the offending byte without taking it; `Position` then counts lines and the bytes
of the last line up to that point.

Strings decode the escapes `\" \\ \/ \b \f \n \r \t` and `\uXXXX`; a surrogate escape must be
a leading surrogate followed at once by an escaped trailing one. Control characters below
`0x20` may not stand in a string raw.

Numbers follow the JSON grammar. The digits are gathered into a significand while it stays
below `2 ^ 64`; further integer digits only raise the decimal exponent and further fraction
digits are dropped. An integer without fraction or exponent is kept as an integer when it fits
(`Number.unsigned`, or `Number.negative` from `-1` down to `-2 ^ 63`); all else becomes a
double by `Decimal.scaleByTen`. An exponent beyond the 32-bit range makes a zero, or the error
`numberOutOfRange` when the value would be huge.
-/

namespace TurnLedger.Json

inductive Slip where
  | here (index : Nat)
  | ahead (index : Nat)

def positionIn (bytes : ByteArray) (i : Nat) : Position :=
  let before := bytes.toList.take i
  ⟨1 + before.count 10, (before.reverse.takeWhile (· != 10)).length⟩

def Slip.offset (size : Nat) : Slip → Nat
  | .here i => i
  | .ahead i => min (i + 1) size

def malformedAt (bytes : ByteArray) (code : SyntaxCode) (slip : Slip) : Error :=
  .malformed code (positionIn bytes (slip.offset bytes.size))

abbrev Lex := Except (SyntaxCode × Slip)

/-- The outcome of a token reader: a value and the next index, or a cause and its slip. -/
abbrev Lexed (α : Type) := Lex (α × Nat)

def byteOrNul (bytes : ByteArray) (i : Nat) : UInt8 := bytes[i]?.getD 0

def isDigitByte (b : UInt8) : Bool := 48 ≤ b && b ≤ 57

/-- The first index at or after `i` that is not blank (space, tab, line feed, carriage return). -/
def skipBlank (bytes : ByteArray) (i : Nat) : Nat :=
  if h : i < bytes.size then
    let b := bytes[i]
    if b == 32 || b == 10 || b == 9 || b == 13 then skipBlank bytes (i + 1) else i
  else i
termination_by bytes.size - i

def digitEnd (bytes : ByteArray) (i : Nat) : Nat :=
  if h : i < bytes.size then
    if isDigitByte bytes[i] then digitEnd bytes (i + 1) else i
  else i
termination_by bytes.size - i

def digitValues (bytes : ByteArray) (i j : Nat) : List Nat :=
  ((bytes.extract i j).toList).map fun b => (b - 48).toNat

def hexValue? (b : UInt8) : Option Nat :=
  if 48 ≤ b && b ≤ 57 then some (b - 48).toNat
  else if 97 ≤ b && b ≤ 102 then some (b - 87).toNat
  else if 65 ≤ b && b ≤ 70 then some (b - 55).toNat
  else none

/-- Four hexadecimal digits at `i`: their value and the index after them. Too few bytes left
is the end of the string; a non-digit among them is a bad escape, reported after all four. -/
def hexQuad (bytes : ByteArray) (i : Nat) : Lexed Nat :=
  if i + 4 ≤ bytes.size then
    let ds := (bytes.extract i (i + 4)).toList.map hexValue?
    match ds with
    | [some a, some b, some c, some d] => .ok (((a * 16 + b) * 16 + c) * 16 + d, i + 4)
    | _ => .error (.invalidEscape, .here (i + 4))
  else .error (.eofInString, .here bytes.size)

def utf8Of (n : Nat) : ByteArray := (String.singleton (Char.ofNat n)).toUTF8

def unicodeEscape (bytes : ByteArray) (i : Nat) : Lex (ByteArray × Nat) := do
  let (n, j) ← hexQuad bytes i
  if 0xDC00 ≤ n && n ≤ 0xDFFF then throw (.loneLeadingSurrogate, .here j)
  if n < 0xD800 || n > 0xDBFF then return (utf8Of n, j)
  -- a leading surrogate: an escaped trailing one must follow
  match bytes[j]? with
  | none => throw (.eofInString, .here j)
  | some b => if b != 92 then throw (.unexpectedEndOfHexEscape, .here (j + 1))
  match bytes[j + 1]? with
  | none => throw (.eofInString, .here (j + 1))
  | some b => if b != 117 then throw (.unexpectedEndOfHexEscape, .here (j + 2))
  let (n2, k) ← hexQuad bytes (j + 2)
  if n2 < 0xDC00 || n2 > 0xDFFF then throw (.loneLeadingSurrogate, .here k)
  return (utf8Of ((n - 0xD800) * 0x400 + (n2 - 0xDC00) + 0x10000), k)

def escapeAt (bytes : ByteArray) (i : Nat) : Lexed ByteArray :=
  match bytes[i]? with
  | none => .error (.eofInString, .here i)
  | some c =>
    let one (b : UInt8) : Lexed ByteArray := .ok (ByteArray.empty.push b, i + 1)
    if c == 34 || c == 92 || c == 47 then one c
    else if c == 98 then one 8
    else if c == 102 then one 12
    else if c == 110 then one 10
    else if c == 114 then one 13
    else if c == 116 then one 9
    else if c == 117 then unicodeEscape bytes (i + 1)
    else .error (.invalidEscape, .here (i + 1))

/-- The bytes of a string whose opening quote is already taken, from index `i` on, escapes
decoded, and the index after its closing quote. -/
def stringBytes (bytes : ByteArray) (i : Nat) (out : ByteArray) : Lexed ByteArray :=
  if h : i < bytes.size then
    let b := bytes[i]
    if b == 34 then .ok (out, i + 1)
    else if b == 92 then
      match escapeAt bytes (i + 1) with
      | .error e => .error e
      | .ok (piece, j) =>
        if i < j then stringBytes bytes j (out ++ piece) else .error (.eofInString, .here i)
    else if b < 32 then .error (.controlCharInString, .here (i + 1))
    else stringBytes bytes (i + 1) (out.push b)
  else .error (.eofInString, .here i)
termination_by bytes.size - i

def stringAt (bytes : ByteArray) (i : Nat) : Lex (String × Nat) := do
  let (out, j) ← stringBytes bytes i ByteArray.empty
  return ((String.fromUTF8? out).getD "", j)

/-- Checks a string whose opening quote is already taken, without decoding it. -/
def skipStringAt (bytes : ByteArray) (i : Nat) : Lex (Unit × Nat) := do
  let (_, j) ← stringBytes bytes i ByteArray.empty
  return ((), j)

def significandLimit : Nat := Nat.pow 2 64 - 1

/-- Appends digits to a significand while it stays within `significandLimit`; returns it with
the digits that did not fit. -/
def gatherDigits : Nat → List Nat → Nat × List Nat
  | sig, [] => (sig, [])
  | sig, d :: ds =>
    if sig * 10 + d > significandLimit then (sig, d :: ds) else gatherDigits (sig * 10 + d) ds

def exponentLimit : Nat := Nat.pow 2 31 - 1

def clampExponent (e : Int) : Int := max (-2147483648) (min 2147483647 e)

def composeAt (positive : Bool) (sig : Nat) (exponent : Int) (i : Nat) : Lexed Number :=
  match Decimal.scaleByTen positive sig exponent with
  | some x => .ok (.float x, i)
  | none => .error (.numberOutOfRange, .here i)

/-- The digits of an exponent, the first of them at index `j`; `expPositive` is the
exponent's sign. -/
def exponentDigits (bytes : ByteArray) (positive : Bool) (sig : Nat) (start : Int)
    (expPositive : Bool) (j : Nat) : Lexed Number :=
  match bytes[j]? with
  | none => .error (.eofInValue, .here j)
  | some c =>
    if !isDigitByte c then .error (.invalidNumber, .here (j + 1))
    else
      let k := digitEnd bytes j
      let (e, rest) := gatherExponent (digitValues bytes j k)
      if rest.isEmpty then
        let final := clampExponent (if expPositive then start + e else start - e)
        composeAt positive sig final k
      else if sig != 0 && expPositive then
        -- the digit that overflowed is taken before the failure
        .error (.numberOutOfRange, .here (k - rest.length + 1))
      else .ok (.float (if positive then 0.0 else -0.0), k)
where
  gatherExponent (ds : List Nat) : Nat × List Nat :=
    ds.foldl (fun (e, rest) d =>
      if !rest.isEmpty then (e, rest ++ [d])
      else if e * 10 + d > exponentLimit then (e, [d]) else (e * 10 + d, [])) (0, [])

/-- The exponent part, its `e` at index `i`: an optional sign, then digits. -/
def exponentPart (bytes : ByteArray) (positive : Bool) (sig : Nat) (start : Int) (i : Nat) :
    Lexed Number :=
  match bytes[i + 1]? with
  | some 43 => exponentDigits bytes positive sig start true (i + 2)
  | some 45 => exponentDigits bytes positive sig start false (i + 2)
  | _ => exponentDigits bytes positive sig start true (i + 1)

/-- The fraction part, its `.` at index `i`, and an exponent after it if one follows.
`exponent` is the count of integer digits dropped. -/
def fractionPart (bytes : ByteArray) (positive : Bool) (sig : Nat) (exponent : Int) (i : Nat) :
    Lexed Number :=
  let j := i + 1
  let k := digitEnd bytes j
  let ds := digitValues bytes j k
  let (sig', rest) := gatherDigits sig ds
  let kept : Int := ds.length - rest.length
  if ds.isEmpty then
    .error (if j < bytes.size then .invalidNumber else .eofInValue, .ahead j)
  else
    let e := exponent - kept
    if byteOrNul bytes k == 101 || byteOrNul bytes k == 69 then
      exponentPart bytes positive sig' e k
    else composeAt positive sig' e k

/-- A number that ends at `i` with its integer part: an integer when it is `exact` and fits,
else a double. -/
def integerEnd (positive : Bool) (sig : Nat) (exponent : Int) (exact : Bool) (i : Nat) :
    Lexed Number :=
  if !exact then composeAt positive sig exponent i
  else if positive then .ok (.unsigned sig, i)
  else if sig == 0 || sig > Nat.pow 2 63 then .ok (.float (-(Decimal.nearestDouble sig 1)), i)
  else .ok (.negative (-(sig : Int)), i)

/-- The part after an integer part: a fraction at `.`, an exponent at `e` or `E`, or the end.
`exponent` is the count of integer digits dropped, and `exact` says none was. -/
def afterInteger (bytes : ByteArray) (positive : Bool) (sig : Nat) (exponent : Int)
    (exact : Bool) (i : Nat) : Lexed Number :=
  match bytes[i]? with
  | some 46 => fractionPart bytes positive sig exponent i
  | some 101 | some 69 => exponentPart bytes positive sig exponent i
  | _ => integerEnd positive sig exponent exact i

/-- A number whose sign, if any, is already taken; its first digit is at `i`. -/
def numberAt (bytes : ByteArray) (positive : Bool) (i : Nat) : Lexed Number :=
  match bytes[i]? with
  | none => .error (.eofInValue, .here i)
  | some c =>
    if c == 48 then
      if isDigitByte (byteOrNul bytes (i + 1)) then .error (.invalidNumber, .ahead (i + 1))
      else afterInteger bytes positive 0 0 true (i + 1)
    else if isDigitByte c then
      let k := digitEnd bytes i
      let (sig, rest) := gatherDigits 0 (digitValues bytes i k)
      afterInteger bytes positive sig rest.length rest.isEmpty k
    else .error (.invalidNumber, .here (i + 1))

/-- Checks a number without computing it (its sign, if any, taken); no size limit applies. -/
def skipNumberAt (bytes : ByteArray) (i : Nat) : Lex (Unit × Nat) := do
  let c := byteOrNul bytes i
  let j := if i < bytes.size then i + 1 else i
  let j ←
    if c == 48 then
      if isDigitByte (byteOrNul bytes j) then throw (.invalidNumber, .ahead j) else pure j
    else if isDigitByte c then pure (digitEnd bytes j)
    else throw (.invalidNumber, .here j)
  let j ←
    if byteOrNul bytes j == 46 then
      let k := digitEnd bytes (j + 1)
      if k == j + 1 then throw (.invalidNumber, .ahead k) else pure k
    else pure j
  if byteOrNul bytes j == 101 || byteOrNul bytes j == 69 then
    let k := j + 1
    let k := if byteOrNul bytes k == 43 || byteOrNul bytes k == 45 then k + 1 else k
    let d := byteOrNul bytes k
    let k' := if k < bytes.size then k + 1 else k
    if isDigitByte d then return ((), digitEnd bytes k') else throw (.invalidNumber, .here k')
  else return ((), j)

/-- The rest of a literal whose first letter is taken: `rest` must follow at `i`. -/
def literalAt (bytes : ByteArray) (rest : List UInt8) (i : Nat) : Lexed Unit :=
  match rest with
  | [] => .ok ((), i)
  | b :: more =>
    match bytes[i]? with
    | none => .error (.eofInValue, .here i)
    | some c => if c == b then literalAt bytes more (i + 1) else .error (.expectedIdent, .here (i + 1))

def nullRest : List UInt8 := [117, 108, 108]
def trueRest : List UInt8 := [114, 117, 101]
def falseRest : List UInt8 := [97, 108, 115, 101]

end TurnLedger.Json
