import TurnLedger.Activity.Record
import TurnLedger.Time.Parse
import TurnLedger.Text.Quoted

/-!
# Filters on records

A filter may name a project, a model and a day. Each is trimmed first, and a blank one filters
nothing. Project and model must equal the record's fields exactly. The day, `YEAR-MONTH-DAY`,
stands for the half-open span from its midnight (UTC) to the next midnight; a day that cannot be
read is refused, with its trimmed text quoted in the message. The last day that exists has no
next midnight, which is a failure of its own.
-/

namespace TurnLedger.Activity

structure Filters where
  projectTag : Option String := none
  model : Option String := none
  date : Option String := none
  deriving Repr

def filled? (o : Option String) : Option String :=
  (o.map Text.trim).filter (!·.isEmpty)

def Filters.admits (f : Filters) (r : Record) : Bool :=
  (filled? f.projectTag).all (· == r.projectTag) && (filled? f.model).all (· == r.model)

inductive DateRangeError where
  | invalid (raw : String)
  | overflow
  deriving DecidableEq, Repr

def invalidDateMessage (raw : String) : String :=
  "invalid date filter: expected YYYY-MM-DD, got " ++ Text.quote raw

def overflowMessage : String := "`DateTime + TimeDelta` overflowed"

def Filters.dayBounds (f : Filters) : Except DateRangeError (Option (Time.Instant × Time.Instant)) :=
  match filled? f.date with
  | none => .ok none
  | some raw =>
    match Time.CivilDate.parse raw with
    | .error _ => .error (.invalid raw)
    | .ok day =>
      let start := Time.Instant.ofCivil day 0 0 0 0
      let stop := start.addSeconds 86400
      if stop.inRange then .ok (some (start, stop)) else .error .overflow

def inSpan (span : Time.Instant × Time.Instant) (t : Time.Instant) : Bool :=
  compare span.1 t != .gt && compare t span.2 == .lt

end TurnLedger.Activity
