import TurnLedger.Time.Instant
import TurnLedger.Text.Blank

/-!
# Reading dates and instants

`Instant.parse` reads an RFC 3339 date and time leniently. Blanks (Unicode white space) may
stand before every number, before each `-` and `:`, and before the offset; the year may carry a
sign and then any number of digits, and has at most four digits without one; the other fields
have one or two digits. Date and time are parted by `T`, `t` or a space. A fraction of any
length may follow the seconds, of which the first nine digits count. The offset is `Z`, `z`,
`UTC` in any case, or a sign (`+`, `-` or the minus sign `−`), two digits of hours, colons or
blanks, and two digits of minutes below 60. Only blanks may follow.

Each field is checked as soon as it is read (month 1 to 12, day 1 to 31, hour below 24, minute
below 60, second up to 60, for a leap second), so the first bad field decides the failure. The
date itself, the offset (below a day) and the instant in UTC are checked after the whole text.

`CivilDate.parse` reads `YEAR-MONTH-DAY` with the same numbers, blanks allowed only before
them, and nothing after the day.
-/

namespace TurnLedger.Time

inductive ParseFailure where
  | outOfRange
  | impossible
  | notEnough
  | invalid
  | tooShort
  | tooLong
  deriving DecidableEq, Repr

def ParseFailure.message : ParseFailure → String
  | .outOfRange => "input is out of range"
  | .impossible => "no possible date and time matching input"
  | .notEnough => "input is not enough for unique date and time"
  | .invalid => "input contains invalid characters"
  | .tooShort => "premature end of input"
  | .tooLong => "trailing input"

abbrev Parsing := Except ParseFailure

def byteLength (cs : List Char) : Nat := cs.foldl (fun n c => n + c.utf8Size) 0

def numberLimit : Int := 9223372036854775807

/-- Gathers digits into `n`: at most `max` more, at least `min` in all (counted by `taken`). -/
def digitsLoop (min : Nat) : Nat → Nat → Int → List Char → Parsing (Int × List Char)
  | 0, _, n, s => .ok (n, s)
  | left + 1, taken, n, s =>
    match s with
    | c :: rest =>
      if c.isDigit then
        let n' := n * 10 + (c.toNat - 48)
        if n' > numberLimit then .error .outOfRange else digitsLoop min left (taken + 1) n' rest
      else if taken < min then .error .invalid
      else .ok (n, s)
    | [] => .ok (n, [])

def number (s : List Char) (min max : Nat) : Parsing (Int × List Char) :=
  if byteLength s < min then .error .tooShort else digitsLoop min max 0 0 s

def yearNumber (s : List Char) : Parsing (Int × List Char) :=
  match s with
  | '-' :: rest => do
    let (v, rest) ← number rest 1 (byteLength rest + 1)
    return (-v, rest)
  | '+' :: rest => number rest 1 (byteLength rest + 1)
  | _ => number s 1 4

def literal (c : Char) : List Char → Parsing (List Char)
  | [] => .error .tooShort
  | d :: rest => if d = c then .ok rest else .error .invalid

def within (lo hi v : Int) : Parsing Unit :=
  if lo ≤ v && v ≤ hi then .ok () else .error .outOfRange

def dropBlank (s : List Char) : List Char := s.dropWhile Text.isBlank

/-- A fraction of a second after its point: nanoseconds, digits past the ninth skipped. -/
def fraction (s : List Char) : Parsing (Nat × List Char) := do
  let (v, rest) ← number s 1 9
  let consumed := s.length - rest.length
  return (v.toNat * Nat.pow 10 (9 - consumed), rest.dropWhile Char.isDigit)

def twoDigitsAt (s : List Char) : Parsing (Nat × Nat) :=
  match s with
  | a :: b :: _ => if a.isDigit && b.isDigit then .ok (a.toNat - 48, b.toNat - 48) else .error .invalid
  | [a] => if a.toNat < 128 then .error .tooShort else .error .invalid
  | [] => .error .tooShort

/-- An offset from UTC in seconds: `Z`, or sign, hours, separators and minutes. -/
def zoneOffset (s : List Char) : Parsing (Int × List Char) := do
  let (negative, s) ←
    match s with
    | 'Z' :: rest | 'z' :: rest => return (0, rest)
    | '+' :: rest => pure (false, rest)
    | '-' :: rest => pure (true, rest)
    | '−' :: rest => pure (true, rest)
    | _ :: _ => throw .invalid
    | [] => throw .tooShort
  let (h1, h2) ← twoDigitsAt s
  let s := (s.drop 2).dropWhile fun c => c = ':' || Text.isBlank c
  let (m1, m2) ←
    match twoDigitsAt s with
    | .ok (m1, m2) => if m1 ≤ 5 then pure (m1, m2) else throw .outOfRange
    | .error .invalid => throw .invalid
    | .error _ => throw .tooShort
  let seconds : Int := (h1 * 10 + h2) * 3600 + (m1 * 10 + m2) * 60
  return (if negative then -seconds else seconds, s.drop 2)

def startsWithUtc (s : List Char) : Bool :=
  match s with
  | a :: b :: c :: _ => a.toLower = 'u' && b.toLower = 't' && c.toLower = 'c'
  | _ => false

structure Reading where
  year : Int
  month : Nat
  day : Nat
  hour : Nat
  minute : Nat
  second : Nat
  nanos : Nat
  offset : Int

def Reading.read (s : List Char) : Parsing (Reading × List Char) := do
  let (y, s) ← yearNumber (dropBlank s)
  within (-2147483648) 2147483647 y
  let s ← literal '-' (dropBlank s)
  let (mo, s) ← number (dropBlank s) 1 2
  within 1 12 mo
  let s ← literal '-' (dropBlank s)
  let (d, s) ← number (dropBlank s) 1 2
  within 1 31 d
  let s ← match s with
    | c :: rest => if c = 'T' || c = 't' || c = ' ' then pure rest else throw .invalid
    | [] => throw .tooShort
  let (h, s) ← number (dropBlank s) 1 2
  within 0 23 h
  let s ← literal ':' (dropBlank s)
  let (mi, s) ← number (dropBlank s) 1 2
  within 0 59 mi
  let s ← literal ':' (dropBlank s)
  let (se, s) ← number (dropBlank s) 1 2
  within 0 60 se
  let (nanos, s) ← match s with
    | '.' :: rest => fraction rest
    | _ => pure (0, s)
  let s := dropBlank s
  let (offset, s) ← if startsWithUtc s then pure (0, s.drop 3) else zoneOffset s
  return (⟨y, mo.toNat, d.toNat, h.toNat, mi.toNat, se.toNat, nanos, offset⟩, s)

def Reading.toInstant (r : Reading) : Parsing Instant := do
  let date : CivilDate := ⟨r.year, r.month, r.day⟩
  if !date.isValid then throw .outOfRange
  let (second, leap) := if r.second = 60 then (59, 1000000000) else (r.second, 0)
  if r.offset ≤ -86400 || r.offset ≥ 86400 then throw .outOfRange
  let t := (Instant.ofCivil date r.hour r.minute second (r.nanos + leap)).addSeconds (-r.offset)
  if !t.inRange then throw .outOfRange
  return t

def Instant.parse (text : String) : Parsing Instant := do
  let (r, rest) ← Reading.read text.toList
  if !(dropBlank rest).isEmpty then throw .tooLong
  r.toInstant

/-- An offset of the strict form: `Z`, or a sign, two digits of hours, a colon and two digits
of minutes below 60. -/
def strictOffset (s : List Char) : Parsing (Int × List Char) := do
  let (negative, s) ←
    match s with
    | 'Z' :: rest | 'z' :: rest => return (0, rest)
    | '+' :: rest => pure (false, rest)
    | '-' :: rest => pure (true, rest)
    | '−' :: rest => pure (true, rest)
    | _ :: _ => throw .invalid
    | [] => throw .tooShort
  let (h1, h2) ← twoDigitsAt s
  let s ← literal ':' (s.drop 2)
  let (m1, m2) ←
    match twoDigitsAt s with
    | .ok (m1, m2) => if m1 ≤ 5 then pure (m1, m2) else throw .outOfRange
    | .error e => throw e
  let seconds : Int := (h1 * 10 + h2) * 3600 + (m1 * 10 + m2) * 60
  if seconds ≥ 86400 then throw .outOfRange
  return (if negative then -seconds else seconds, s.drop 2)

/-- Reads the fields of a strict RFC 3339 text: four digits of year, two of every other
field, no blanks. -/
def Reading.readStrict (s : List Char) : Parsing (Reading × List Char) := do
  let (y, s) ← number s 4 4
  let s ← literal '-' s
  let (mo, s) ← number s 2 2
  within 1 12 mo
  let s ← literal '-' s
  let (d, s) ← number s 2 2
  within 1 31 d
  let s ← match s with
    | c :: rest => if c = 'T' || c = 't' || c = ' ' then pure rest else throw .invalid
    | [] => throw .tooShort
  let (h, s) ← number s 2 2
  within 0 23 h
  let s ← literal ':' s
  let (mi, s) ← number s 2 2
  within 0 59 mi
  let s ← literal ':' s
  let (se, s) ← number s 2 2
  within 0 60 se
  let (nanos, s) ← match s with
    | '.' :: rest => fraction rest
    | _ => pure (0, s)
  let (offset, s) ← strictOffset s
  return (⟨y, mo.toNat, d.toNat, h.toNat, mi.toNat, se.toNat, nanos, offset⟩, s)

/-- A strict RFC 3339 date and time, converted to UTC; nothing may follow it. -/
def Instant.parseStrict (text : String) : Parsing Instant := do
  let (r, rest) ← Reading.readStrict text.toList
  if !rest.isEmpty then throw .tooLong
  r.toInstant

def CivilDate.parse (text : String) : Parsing CivilDate := do
  let (y, s) ← yearNumber (dropBlank text.toList)
  within (-2147483648) 2147483647 y
  let s ← literal '-' s
  let (mo, s) ← number (dropBlank s) 1 2
  within 1 12 mo
  let s ← literal '-' s
  let (d, s) ← number (dropBlank s) 1 2
  within 1 31 d
  if !s.isEmpty then throw .tooLong
  let date : CivilDate := ⟨y, mo.toNat, d.toNat⟩
  if !date.isValid then throw .outOfRange
  return date

end TurnLedger.Time
