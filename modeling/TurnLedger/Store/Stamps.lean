import TurnLedger.Activity.Record

/-!
# Identifiers and clock readings

A store completes a record before it keeps it: a record without an id gets a fresh one, and a
record without a creation time gets the current time. Both are drawn from `Stamps`: the
identifiers are random-form (version 4) UUIDs told apart by a serial number, and every reading of
the clock is one microsecond after the one before, so that records stamped one after another
keep their order even when times are cut to microseconds.
-/

namespace TurnLedger.Store

open Activity

structure Stamps where
  issued : Nat := 0
  clock : Time.Instant

def hexDigits (width n : Nat) : String :=
  let ds := Nat.toDigits 16 n
  String.ofList (List.replicate (width - ds.length) '0' ++ ds)

/-- The identifier with serial number `n`, in the canonical UUID form of version 4. -/
def identifier (n : Nat) : String :=
  "00000000-0000-4000-8000-" ++ hexDigits 12 n

def Stamps.freshId (s : Stamps) : String × Stamps :=
  (identifier (s.issued + 1), { s with issued := s.issued + 1 })

def Stamps.now (s : Stamps) : Time.Instant × Stamps :=
  (s.clock, { s with clock := s.clock.addMicros 1 })

/-- A record completed for storing: a fresh id if it has none, then the current time if it has
no creation time. -/
def Stamps.complete (s : Stamps) (r : Record) : Record × Stamps :=
  let (r, s) := if r.id.isEmpty then
      let (id, s) := s.freshId
      ({ r with id := id }, s)
    else (r, s)
  match r.createdAt with
  | some _ => (r, s)
  | none =>
    let (t, s) := s.now
    ({ r with createdAt := some t }, s)

end TurnLedger.Store
