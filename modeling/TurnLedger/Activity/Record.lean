import TurnLedger.Json.Writer
import TurnLedger.Time.Instant

/-!
# Activity records

One record per turn of an agent: who ran it (session, user, channel), with which model, what it
cost (tokens in and out, estimated cost, duration), how it was classified, and when it was
created. Every field has a default (empty text, zero, false, no time), so that a partial record
is still a record. Counts are signed 64-bit integers, held here as `Int` within that range.

Records are written as JSON objects with their seventeen fields in a fixed order.
-/

namespace TurnLedger.Activity

structure Record where
  id : String := ""
  sessionKey : String := ""
  model : String := ""
  tokensIn : Int := 0
  tokensOut : Int := 0
  costEstimate : Float := 0.0
  durationMs : Int := 0
  projectTag : String := ""
  externalRef : String := ""
  category : String := ""
  categoryReason : String := ""
  thinking : String := ""
  reasoning : Bool := false
  channel : String := ""
  status : String := ""
  userId : String := ""
  createdAt : Option Time.Instant := none

instance : Inhabited Record := ⟨{}⟩

def fieldNames : List String :=
  ["id", "session_key", "model", "tokens_in", "tokens_out", "cost_estimate", "duration_ms",
    "project_tag", "external_ref", "category", "category_reason", "thinking", "reasoning",
    "channel", "status", "user_id", "created_at"]

def intValue (n : Int) : Json.Value :=
  if n < 0 then .number (.negative n) else .number (.unsigned n.toNat)

def Record.toValue (r : Record) : Json.Value :=
  .object [
    ("id", .string r.id),
    ("session_key", .string r.sessionKey),
    ("model", .string r.model),
    ("tokens_in", intValue r.tokensIn),
    ("tokens_out", intValue r.tokensOut),
    ("cost_estimate", .number (.float r.costEstimate)),
    ("duration_ms", intValue r.durationMs),
    ("project_tag", .string r.projectTag),
    ("external_ref", .string r.externalRef),
    ("category", .string r.category),
    ("category_reason", .string r.categoryReason),
    ("thinking", .string r.thinking),
    ("reasoning", .bool r.reasoning),
    ("channel", .string r.channel),
    ("status", .string r.status),
    ("user_id", .string r.userId),
    ("created_at", match r.createdAt with
      | some t => .string t.text
      | none => .null)]

def Record.toJson (r : Record) : String := r.toValue.compact

end TurnLedger.Activity
