/-!
# JSON values

A number keeps the form it was read in: a non-negative integer below `2 ^ 64`, a negative
integer not below `-2 ^ 63`, or a double for everything else (fractions, exponents, integers out
of those ranges, and negative zero). An object keeps its members in the order they were read,
repeated keys included; `Value.canonical` turns every object into the dictionary it denotes,
keys in increasing order and the last of repeated keys winning.
-/

namespace TurnLedger.Json

inductive Number where
  | unsigned (n : Nat)
  | negative (n : Int)
  | float (x : Float)

inductive Value where
  | null
  | bool (b : Bool)
  | number (n : Number)
  | string (s : String)
  | array (items : List Value)
  | object (members : List (String × Value))

instance : Inhabited Value := ⟨.null⟩

/-- Inserts a member into members sorted by key, replacing a member of the same key. -/
def insertMember (k : String) (v : Value) : List (String × Value) → List (String × Value)
  | [] => [(k, v)]
  | (k', v') :: rest =>
    if k < k' then (k, v) :: (k', v') :: rest
    else if k == k' then (k, v) :: rest
    else (k', v') :: insertMember k v rest

/-- The dictionary that a member list denotes: sorted by key, the last of repeated keys kept. -/
def dictionary (members : List (String × Value)) : List (String × Value) :=
  members.foldl (fun acc (k, v) => insertMember k v acc) []

mutual
/-- Every object of the value, at every depth, replaced by its dictionary. -/
def Value.canonical : Value → Value
  | .array items => .array (canonicalItems items)
  | .object members => .object (dictionary (canonicalMembers members))
  | v => v

def canonicalItems : List Value → List Value
  | [] => []
  | v :: rest => v.canonical :: canonicalItems rest

def canonicalMembers : List (String × Value) → List (String × Value)
  | [] => []
  | (k, v) :: rest => (k, v.canonical) :: canonicalMembers rest
end

def Value.field? (v : Value) (k : String) : Option Value :=
  match v with
  | .object members => (members.reverse.find? (·.1 == k)).map (·.2)
  | _ => none

def Value.string? : Value → Option String
  | .string s => some s
  | _ => none

def Value.bool? : Value → Option Bool
  | .bool b => some b
  | _ => none

def Value.array? : Value → Option (List Value)
  | .array items => some items
  | _ => none

def Value.members? : Value → Option (List (String × Value))
  | .object members => some members
  | _ => none

def Value.int? : Value → Option Int
  | .number (.unsigned n) => some n
  | .number (.negative n) => some n
  | _ => none

def Value.isNull : Value → Bool
  | .null => true
  | _ => false

end TurnLedger.Json
