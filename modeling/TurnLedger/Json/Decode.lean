import TurnLedger.Json.Reader

/-!
# Typed decoding straight from JSON text

Typed decoders read the text as they go, so the first problem in reading order decides the
failure. Each decoder looks at the next value: a kind it does not take fails with a
`Schema.Found` message placed after that value (before it, for an array or object).

Arrays and objects take their closing bracket even after the body failed, and a message
without a position is placed after that. A record may be given as an object with named fields,
in any order, unknown ones skipped and repeated ones refused, or as an array with the fields in
their declared order, missing ones taking their defaults; an array with more items than fields
fails on the first extra item.
-/

namespace TurnLedger.Json.Scan

def text (expected : String) : Scan String := do
  let some b ← blank | failAhead .eofInValue
  if b == 34 then advance; lex stringAt else mismatch expected

def arrayOf (room : Nat) (expected : String) (visit : Nat → Scan α) : Scan α := do
  let some b ← blank | failAhead .eofInValue
  if b == 91 then
    enter room
    closeWith closeArrayAt (visit (room - 1))
  else mismatch expected

def objectOf (room : Nat) (expected : String) (visit : Nat → Scan α) : Scan α := do
  let some b ← blank | failAhead .eofInValue
  if b == 123 then
    enter room
    closeWith closeObjectAt (visit (room - 1))
  else mismatch expected

def recordOf (room : Nat) (expected : String) (byPosition byName : Nat → Scan α) : Scan α := do
  let some b ← blank | failAhead .eofInValue
  if b == 91 then
    enter room
    closeWith closeArrayAt (byPosition (room - 1))
  else if b == 123 then
    enter room
    closeWith closeObjectAt (byName (room - 1))
  else mismatch expected

def listOf (room : Nat) (expected : String) (item : Nat → Scan α) : Scan (List α) :=
  arrayOf room expected fun inner => items (item inner)

/-- The next item of an array given as a record, if there is one; `first` is true for the
first field. -/
def positional (first : Bool) (item : Scan α) : Scan (Option α) := do
  if ← nextItem first then some <$> item else pure none

/-- One named field of a record: its name, and how its value updates the record. -/
structure Field (σ : Type) where
  name : String
  read : Nat → σ → Scan σ

/-- Reads the members of a record given as an object, updating `acc` field by field, each
inside its key; a field met twice fails at once, unknown members are checked and skipped. -/
def fieldsLoop (fields : List (Field σ)) (room : Nat) :
    Nat → Bool → List String → σ → Scan σ
  | 0, _, _, acc => pure acc
  | fuel + 1, first, seen, acc => do
    match ← nextKey first with
    | none => pure acc
    | some k =>
      match fields.find? (·.name == k) with
      | some f =>
        if seen.contains k then refuse (Schema.duplicateField k)
        let acc ← inside (.key k) do colon; f.read room acc
        fieldsLoop fields room fuel false (k :: seen) acc
      | none =>
        inside (.key k) do colon; skip
        fieldsLoop fields room fuel false seen acc

def fields (fs : List (Field σ)) (room : Nat) (init : σ) : Scan σ := do
  fieldsLoop fs room (← budget) true [] init

end TurnLedger.Json.Scan
