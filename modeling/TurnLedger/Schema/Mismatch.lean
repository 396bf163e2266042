import TurnLedger.Text.Quoted

/-!
# What a typed decoder found instead of what it wanted

A decoder that reads a data format into typed fields fails with a message naming what it found
and what it expected: `invalid type: integer `5`, expected a string`. `Found` is the kind and
value of the offending item; the expectation is the target type's own description, such as
`a string`, `i64` or `struct RuleFile`. Floats are spelled by the format's own float printer,
so `Found.describe` takes it as a parameter.
-/

namespace TurnLedger.Schema

inductive Found where
  | null
  | bool (b : Bool)
  | unsigned (n : Nat)
  | signed (n : Int)
  | float (x : Float)
  | text (s : String)
  | sequence
  | map
  /-- An item of a kind the format has and the list above lacks, described in words. -/
  | other (what : String)

def Found.describe (floatText : Float → String) : Found → String
  | .null => "null"
  | .bool b => "boolean `" ++ (if b then "true" else "false") ++ "`"
  | .unsigned n => "integer `" ++ toString n ++ "`"
  | .signed n => "integer `" ++ toString n ++ "`"
  | .float x => "floating point `" ++ floatText x ++ "`"
  | .text s => "string " ++ Text.quote s
  | .sequence => "sequence"
  | .map => "map"
  | .other what => what

def invalidType (floatText : Float → String) (found : Found) (expected : String) : String :=
  "invalid type: " ++ found.describe floatText ++ ", expected " ++ expected

def invalidValue (floatText : Float → String) (found : Found) (expected : String) : String :=
  "invalid value: " ++ found.describe floatText ++ ", expected " ++ expected

def duplicateField (name : String) : String :=
  "duplicate field `" ++ name ++ "`"

end TurnLedger.Schema
