import TurnLedger.Activity.Record
import TurnLedger.Json.Value

/-!
# Summaries of records

A summary counts records and totals their tokens, cost and duration, and counts records per
status, leaving out the empty status. Counts and totals are signed 64-bit integers: a total
that would leave that range stops the summary with an overflow. Fields are added in the order
count, tokens in, tokens out, cost, duration, status; the cost is a double sum in record order.
-/

namespace TurnLedger.Activity

structure Summary where
  count : Int := 0
  tokensIn : Int := 0
  tokensOut : Int := 0
  cost : Float := 0.0
  durationMs : Int := 0
  byStatus : List (String × Int) := []

def addOverflowMessage : String := "attempt to add with overflow"

/-- `a + b` if it stays a signed 64-bit integer, from `-2 ^ 63` to `2 ^ 63 - 1`. -/
def checkedAdd (a b : Int) : Option Int :=
  let s := a + b
  if -9223372036854775808 ≤ s && s < 9223372036854775808 then some s else none

def bumpStatus (status : String) : List (String × Int) → Option (List (String × Int))
  | [] => some [(status, 1)]
  | (k, n) :: rest =>
    if status < k then some ((status, 1) :: (k, n) :: rest)
    else if status == k then (checkedAdd n 1).map fun m => (k, m) :: rest
    else ((k, n) :: ·) <$> bumpStatus status rest

def Summary.add (s : Summary) (r : Record) : Option Summary := do
  let count ← checkedAdd s.count 1
  let tokensIn ← checkedAdd s.tokensIn r.tokensIn
  let tokensOut ← checkedAdd s.tokensOut r.tokensOut
  let cost := s.cost + r.costEstimate
  let durationMs ← checkedAdd s.durationMs r.durationMs
  let byStatus ← if r.status.isEmpty then some s.byStatus else bumpStatus r.status s.byStatus
  return { count, tokensIn, tokensOut, cost, durationMs, byStatus }

def Summary.ofRecords (rs : List Record) : Option Summary :=
  rs.foldlM Summary.add {}

def Summary.toValue (s : Summary) : Json.Value :=
  .object [("count", intValue s.count), ("tokens_in_total", intValue s.tokensIn),
    ("tokens_out_total", intValue s.tokensOut), ("cost_total", .number (.float s.cost)),
    ("duration_ms_total", intValue s.durationMs),
    ("by_status", .object (s.byStatus.map fun (k, n) => (k, intValue n)))]

end TurnLedger.Activity
