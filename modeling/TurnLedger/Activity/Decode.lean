import TurnLedger.Activity.Record
import TurnLedger.Json.Reader
import TurnLedger.Time.Parse

/-!
# Reading records from JSON

A record is read from the members of a JSON object, in their order. Members whose key is not a
field name are ignored; a field given twice is refused. Each field wants its own kind of value:
text fields a string, counts an integer from `-2 ^ 63` to `2 ^ 63 - 1` (a double is refused even
when whole, a larger integer is an invalid value), the cost any number, `reasoning` a boolean,
and `created_at` `null` or an RFC 3339 string read by `Time.Instant.parse`.

`Record.ofJsonText` reads a whole text: it must be a JSON object, whose members are taken as
the dictionary they denote (keys in increasing order, the last of repeated keys winning), so no
field is repeated and the first failing field in key order decides the message, which carries
no position.
-/

namespace TurnLedger.Activity

open Json Schema

def foundOf : Value → Found
  | .null => .null
  | .bool b => .bool b
  | .number (.unsigned n) => .unsigned n
  | .number (.negative n) => .signed n
  | .number (.float x) => .float x
  | .string s => .text s
  | .array _ => .sequence
  | .object _ => .map

def wrongKind (v : Value) (expected : String) : String :=
  invalidType floatText (foundOf v) expected

def readText (v : Value) : Except String String :=
  match v with
  | .string s => .ok s
  | _ => .error (wrongKind v "a string")

def readCount (v : Value) : Except String Int :=
  match v with
  | .number (.unsigned n) =>
    if n < Nat.pow 2 63 then .ok n else .error (invalidValue floatText (.unsigned n) "i64")
  | .number (.negative n) => .ok n
  | _ => .error (wrongKind v "i64")

def readFloat (v : Value) : Except String Float :=
  match v with
  | .number (.unsigned n) => .ok (Decimal.nearestDouble n 1)
  | .number (.negative n) => .ok (-(Decimal.nearestDouble n.natAbs 1))
  | .number (.float x) => .ok x
  | _ => .error (wrongKind v "f64")

def readBool (v : Value) : Except String Bool :=
  match v with
  | .bool b => .ok b
  | _ => .error (wrongKind v "a boolean")

def readInstant (v : Value) : Except String (Option Time.Instant) :=
  match v with
  | .null => .ok none
  | .string s =>
    match Time.Instant.parse s with
    | .ok t => .ok (some t)
    | .error e => .error e.message
  | _ => .error (wrongKind v "an RFC 3339 formatted date and time string")

/-- Sets the field `name` of a record from a value; `none` when no field has that name. -/
def Record.setField (r : Record) (name : String) (v : Value) : Option (Except String Record) :=
  match name with
  | "id" => some ((fun s => { r with id := s }) <$> readText v)
  | "session_key" => some ((fun s => { r with sessionKey := s }) <$> readText v)
  | "model" => some ((fun s => { r with model := s }) <$> readText v)
  | "tokens_in" => some ((fun n => { r with tokensIn := n }) <$> readCount v)
  | "tokens_out" => some ((fun n => { r with tokensOut := n }) <$> readCount v)
  | "cost_estimate" => some ((fun x => { r with costEstimate := x }) <$> readFloat v)
  | "duration_ms" => some ((fun n => { r with durationMs := n }) <$> readCount v)
  | "project_tag" => some ((fun s => { r with projectTag := s }) <$> readText v)
  | "external_ref" => some ((fun s => { r with externalRef := s }) <$> readText v)
  | "category" => some ((fun s => { r with category := s }) <$> readText v)
  | "category_reason" => some ((fun s => { r with categoryReason := s }) <$> readText v)
  | "thinking" => some ((fun s => { r with thinking := s }) <$> readText v)
  | "reasoning" => some ((fun b => { r with reasoning := b }) <$> readBool v)
  | "channel" => some ((fun s => { r with channel := s }) <$> readText v)
  | "status" => some ((fun s => { r with status := s }) <$> readText v)
  | "user_id" => some ((fun s => { r with userId := s }) <$> readText v)
  | "created_at" => some ((fun t => { r with createdAt := t }) <$> readInstant v)
  | _ => none

/-- Reads the fields from members in order; `seen` holds the fields already set. -/
def Record.fromMembersLoop (r : Record) (seen : List String) :
    List (String × Value) → Except String Record
  | [] => .ok r
  | (k, v) :: rest =>
    match r.setField k v with
    | none => Record.fromMembersLoop r seen rest
    | some result =>
      if seen.contains k then .error (duplicateField k)
      else match result with
        | .ok r' => Record.fromMembersLoop r' (k :: seen) rest
        | .error e => .error e

def Record.fromMembers (members : List (String × Value)) : Except String Record :=
  Record.fromMembersLoop {} [] members

def notAnObject : String := "activity record must be a JSON object"

def Record.ofJsonText (text : String) : Except Json.Error Record := do
  let v ← Scan.readAll (Scan.value nestingRoom) text
  match v with
  | .object members =>
    match Record.fromMembers (dictionary members) with
    | .ok r => .ok r
    | .error msg => .error (.data msg none)
  | _ => .error (.data notAnObject none)

end TurnLedger.Activity
