import TurnLedger.Time.Civil

/-!
# Instants in UTC

An instant is a count of seconds from 1970-01-01T00:00:00 that does not count leap seconds,
and a count of nanoseconds into that second. A leap second is the second that ends a minute,
with its nanoseconds counted from one billion, so that it falls after the rest of that second
and before the next minute. Instants compare by seconds, then nanoseconds.

Instants are written `YYYY-MM-DDTHH:MM:SS[.frac]Z`: a year from 0 to 9999 has four digits, any
other year a sign and at least four digits; a leap second is second `60`; the fraction is
absent when zero, and otherwise has three, six or nine digits, the fewest that are exact.
-/

namespace TurnLedger.Time

structure Instant where
  seconds : Int
  nanos : Nat
  deriving DecidableEq, Repr

def Instant.compare (a b : Instant) : Ordering :=
  match Ord.compare a.seconds b.seconds with
  | .eq => Ord.compare a.nanos b.nanos
  | o => o

instance : Ord Instant := ⟨Instant.compare⟩

def Instant.ofCivil (d : CivilDate) (hour minute second nanos : Nat) : Instant :=
  ⟨d.toDays * 86400 + hour * 3600 + minute * 60 + second, nanos⟩

def Instant.day (t : Instant) : Int := t.seconds.fdiv 86400

def Instant.secondOfDay (t : Instant) : Nat := (t.seconds - t.day * 86400).toNat

def Instant.date (t : Instant) : CivilDate := CivilDate.ofDays t.day

def Instant.inRange (t : Instant) : Bool := firstDay ≤ t.day && t.day ≤ lastDay

def Instant.addSeconds (t : Instant) (s : Int) : Instant := ⟨t.seconds + s, t.nanos⟩

def twoDigits (n : Nat) : String :=
  if n < 10 then "0" ++ toString n else toString n

def padded (width n : Nat) : String :=
  let ds := Nat.toDigits 10 n
  String.ofList (List.replicate (width - ds.length) '0' ++ ds)

/-- The year as written: four digits from 0 to 9999, else signed with at least four digits. -/
def yearText (y : Int) : String :=
  if 0 ≤ y && y ≤ 9999 then padded 4 y.toNat
  else (if y < 0 then "-" else "+") ++ padded 4 y.natAbs

/-- The fraction of a second: nothing, or three, six or nine digits, the fewest exact. -/
def fractionText (nanos : Nat) : String :=
  if nanos == 0 then ""
  else if nanos % 1000000 == 0 then "." ++ padded 3 (nanos / 1000000)
  else if nanos % 1000 == 0 then "." ++ padded 6 (nanos / 1000)
  else "." ++ padded 9 nanos

/-- The date and the time of day to the whole second: `YYYY-MM-DDTHH:MM:SS`. -/
def Instant.secondsText (t : Instant) : String :=
  let d := t.date
  let s := t.secondOfDay
  let leap := t.nanos ≥ 1000000000
  let second := s % 60 + (if leap then 1 else 0)
  yearText d.year ++ "-" ++ twoDigits d.month ++ "-" ++ twoDigits d.day ++ "T" ++
    twoDigits (s / 3600) ++ ":" ++ twoDigits (s / 60 % 60) ++ ":" ++ twoDigits second

def Instant.text (t : Instant) : String :=
  t.secondsText ++ fractionText (t.nanos % 1000000000) ++ "Z"

/-- The text of an instant with exactly six digits of fraction, the rest cut off. Texts of
this form for years 0 to 9999 sort as their instants do. -/
def Instant.microsText (t : Instant) : String :=
  t.secondsText ++ "." ++ padded 6 (t.nanos % 1000000000 / 1000) ++ "Z"

def Instant.wholeSecondsText (t : Instant) : String := t.secondsText ++ "Z"

def Instant.dateText (t : Instant) : String :=
  let d := t.date
  yearText d.year ++ "-" ++ twoDigits d.month ++ "-" ++ twoDigits d.day

def Instant.addMicros (t : Instant) (micros : Nat) : Instant :=
  let total := t.nanos % 1000000000 + micros * 1000
  ⟨t.seconds + (total / 1000000000 : Nat), total % 1000000000⟩

end TurnLedger.Time
