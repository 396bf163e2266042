import TurnLedger.Activity.Filter
import TurnLedger.Activity.Summary

/-!
# What a store reports

A store refuses an operation for one of four causes: the day filter cannot be read, the
database refused a statement, the store cannot be reached, or the operation stopped because a
checked sum overflowed or the day filter names the last day there is. The first three are
errors the caller can show; the last is a halt, whose message is the failed check.

A health probe says whether the store answers, which backend it is, how many records it holds
when that is known, and why it cannot be reached when it cannot.
-/

namespace TurnLedger.Store

open Activity

inductive StoreFault where
  | invalidDate (raw : String)
  /-- The database refused a statement, with its message and the engine's own account of the
  cause beneath it. -/
  | database (message : String) (cause : String)
  | unavailable (message : String)
  | halted (message : String)
  deriving DecidableEq, Repr

def StoreFault.message : StoreFault → String
  | .invalidDate raw => invalidDateMessage raw
  | .database m _ => "SQLite error: " ++ m
  | .unavailable m => "Store unavailable: " ++ m
  | .halted m => m

/-- The causes beneath a store error, outermost first: a database error rests on the engine's
message and, beneath that, the engine's account of the failure. -/
def StoreFault.causes : StoreFault → List String
  | .database m c => [m, c]
  | _ => []

/-- The engine's account of a failure with a result code: its number and description. -/
def engineCause (code : Nat) (description : String) : String :=
  "Error code " ++ toString code ++ ": " ++ description

def daySpan (f : Filters) : Except StoreFault (Option (Time.Instant × Time.Instant)) :=
  match f.dayBounds with
  | .ok span => .ok span
  | .error (.invalid raw) => .error (.invalidDate raw)
  | .error .overflow => .error (.halted overflowMessage)

/-- Whether a record falls in the span of a day filter; without a day, every record does. -/
def inDay (span : Option (Time.Instant × Time.Instant)) (r : Record) : Bool :=
  match span, r.createdAt with
  | none, _ => true
  | some s, some t => inSpan s t
  | some _, none => false

structure Health where
  reachable : Bool
  backend : String
  recordCount : Option Int := none
  error : Option String := none

def Health.toValue (h : Health) : Json.Value :=
  .object ([("reachable", .bool h.reachable), ("backend", .string h.backend)] ++
    (h.recordCount.map fun n => ("record_count", intValue n)).toList ++
    (h.error.map fun e => ("error", .string e)).toList)

end TurnLedger.Store
