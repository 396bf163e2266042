import TurnLedger.Json.Cursor
import TurnLedger.Schema.Mismatch
import TurnLedger.Decimal.Layout

/-!
# The JSON reader

`Scan` reads from a cursor over the bytes of a text and, on failure, keeps the cursor where the
failure happened: a decoder that fails inside an array or object still looks for the closing
bracket, and a message without a position is then placed where the cursor stands.

Arrays and objects may nest 127 deep; the bracket that would open the 128th level is refused.
Members of an object are read with their keys in the order given, repeated keys kept.

`skipValueAt` checks a value that nobody wants without building it: it has no nesting limit
and does not compute numbers, so it accepts numbers of any size.
-/

namespace TurnLedger.Json

structure Cursor where
  bytes : ByteArray
  index : Nat

abbrev Scan := EStateM Error Cursor

/-- How deep arrays and objects may nest, counting the outermost one as one. -/
def nestingRoom : Nat := 128

def floatText (x : Float) : String := Decimal.Layout.json.render x

namespace Scan

/-- Runs a reader on a text, which must hold nothing but blanks after what it reads. -/
def readAll (p : Scan α) (text : String) : Except Error α :=
  let bytes := text.toUTF8
  let whole : Scan α := do
    let a ← p
    let c ← get
    let i := skipBlank c.bytes c.index
    set { c with index := i }
    if i < c.bytes.size then throw (malformedAt c.bytes .trailingCharacters (.ahead i))
    pure a
  match EStateM.run whole ⟨bytes, 0⟩ with
  | .ok a _ => .ok a
  | .error e _ => .error e

/-- Runs a reader on the start of a text; what follows the value it reads is not looked at. -/
def readPrefix (p : Scan α) (text : String) : Except Error α :=
  match EStateM.run p ⟨text.toUTF8, 0⟩ with
  | .ok a _ => .ok a
  | .error e _ => .error e

def blank : Scan (Option UInt8) := fun c =>
  let i := skipBlank c.bytes c.index
  .ok c.bytes[i]? { c with index := i }

def advance : Scan Unit := fun c => .ok () { c with index := c.index + 1 }

def fail (code : SyntaxCode) : Scan α := fun c => .error (malformedAt c.bytes code (.here c.index)) c

def failAhead (code : SyntaxCode) : Scan α := fun c =>
  .error (malformedAt c.bytes code (.ahead c.index)) c

def reject (message : String) : Scan α := fun c =>
  .error (.data message (some (positionIn c.bytes c.index))) c

/-- Fails with a decoder's message, to be placed by the enclosing array or object. -/
def refuse (message : String) : Scan α := fun c => .error (.data message none) c

def inside (segment : Segment) (p : Scan α) : Scan α := fun c =>
  match p c with
  | .ok a c => .ok a c
  | .error e c => .error (.within segment e) c

def lex (f : ByteArray → Nat → Lexed α) : Scan α := fun c =>
  match f c.bytes c.index with
  | .ok (a, j) => .ok a { c with index := j }
  | .error (code, slip) => .error (malformedAt c.bytes code slip) { c with index := slip.offset c.bytes.size }

/-- The bytes left after the cursor, plus one: a bound on the steps of any loop that takes a
byte each step. -/
def budget : Scan Nat := fun c => .ok (c.bytes.size - c.index + 1) c

/-- Runs `body` and then `close`, which moves the cursor past a closing bracket or fails. A
failure of `body` wins, and a message of it without a position gets the one where `close`
left the cursor. -/
def closeWith (close : ByteArray → Nat → Option (SyntaxCode × Slip) × Nat) (body : Scan α) :
    Scan α := fun c =>
  match body c with
  | .ok a c1 =>
    let (r, j) := close c1.bytes c1.index
    let c2 := { c1 with index := j }
    match r with
    | none => .ok a c2
    | some (code, slip) => .error (malformedAt c1.bytes code slip) c2
  | .error e c1 =>
    let (_, j) := close c1.bytes c1.index
    .error (e.placeAt (positionIn c1.bytes j)) { c1 with index := j }

end Scan

/-- The end of an array: `]`, or the failure found in its place, and where the cursor stops. -/
def closeArrayAt (bytes : ByteArray) (i : Nat) : Option (SyntaxCode × Slip) × Nat :=
  let i := skipBlank bytes i
  match bytes[i]? with
  | some 93 => (none, i + 1)
  | some 44 =>
    let j := skipBlank bytes (i + 1)
    if bytes[j]? == some 93 then (some (.trailingComma, .ahead j), j)
    else (some (.trailingCharacters, .ahead j), j)
  | some _ => (some (.trailingCharacters, .ahead i), i)
  | none => (some (.eofInList, .ahead i), i)

/-- The end of an object: `}`, or the failure found in its place, and where the cursor stops. -/
def closeObjectAt (bytes : ByteArray) (i : Nat) : Option (SyntaxCode × Slip) × Nat :=
  let i := skipBlank bytes i
  match bytes[i]? with
  | some 125 => (none, i + 1)
  | some 44 => (some (.trailingComma, .ahead i), i)
  | some _ => (some (.trailingCharacters, .ahead i), i)
  | none => (some (.eofInObject, .ahead i), i)

namespace Scan

/-- Whether another item of an array follows; `first` is true before the first item. -/
def nextItem (first : Bool) : Scan Bool := do
  let some b ← blank | failAhead .eofInList
  if b == 93 then pure false
  else if first then pure true
  else if b == 44 then
    advance
    match ← blank with
    | some 93 => failAhead .trailingComma
    | some _ => pure true
    | none => failAhead .eofInValue
  else failAhead .expectedListCommaOrEnd

def key : Scan String := do
  advance
  lex stringAt

/-- The key of the next member of an object, if one follows; `first` is true before the first
member. -/
def nextKey (first : Bool) : Scan (Option String) := do
  let some b ← blank | failAhead .eofInObject
  if b == 125 then pure none
  else if first then
    if b == 34 then some <$> key else failAhead .keyMustBeString
  else if b == 44 then
    advance
    match ← blank with
    | some 34 => some <$> key
    | some 125 => failAhead .trailingComma
    | some _ => failAhead .keyMustBeString
    | none => failAhead .eofInValue
  else failAhead .expectedObjectCommaOrEnd

def colon : Scan Unit := do
  match ← blank with
  | some 58 => advance
  | some _ => failAhead .expectedColon
  | none => failAhead .eofInObject

/-- The remaining items of an array, each read by `item` inside its index, at most `fuel` of
them. -/
def itemsLoop (item : Scan α) : Nat → Bool → List α → Scan (List α)
  | 0, _, acc => pure acc.reverse
  | fuel + 1, first, acc => do
    if ← nextItem first then
      let a ← inside (.index acc.length) item
      itemsLoop item fuel false (a :: acc)
    else pure acc.reverse

def items (item : Scan α) : Scan (List α) := do
  itemsLoop item (← budget) true []

/-- The remaining members of an object, each value read by `val` inside its key. -/
def membersLoop (val : Scan α) : Nat → Bool → List (String × α) → Scan (List (String × α))
  | 0, _, acc => pure acc.reverse
  | fuel + 1, first, acc => do
    match ← nextKey first with
    | none => pure acc.reverse
    | some k =>
      let v ← inside (.key k) do colon; val
      membersLoop val fuel false ((k, v) :: acc)

def members (val : Scan α) : Scan (List (String × α)) := do
  membersLoop val (← budget) true []

/-- Opens an array or object at the cursor when `room` allows one more level: fails on the
bracket when `room` is one or less, else takes the bracket. -/
def enter (room : Nat) : Scan Unit :=
  if room ≤ 1 then failAhead .recursionLimitExceeded else advance

/-- A whole value, arrays and objects nested at most `room - 1` levels below it. -/
def value : Nat → Scan Value
  | 0 => failAhead .recursionLimitExceeded
  | room + 1 => do
    let some b ← blank | failAhead .eofInValue
    if b == 110 then advance; lex (literalAt · nullRest ·); pure .null
    else if b == 116 then advance; lex (literalAt · trueRest ·); pure (.bool true)
    else if b == 102 then advance; lex (literalAt · falseRest ·); pure (.bool false)
    else if b == 45 then advance; (.number ·) <$> lex (numberAt · false ·)
    else if isDigitByte b then (.number ·) <$> lex (numberAt · true ·)
    else if b == 34 then advance; (.string ·) <$> lex stringAt
    else if b == 91 then
      enter (room + 1)
      closeWith closeArrayAt ((.array ·) <$> items (value room))
    else if b == 123 then
      enter (room + 1)
      closeWith closeObjectAt ((.object ·) <$> members (value room))
    else failAhead .expectedValue

/-- What a failed decoder met at the cursor, for its message: a scalar is read (and taken), an
array or object only seen. -/
def found : Scan Schema.Found := do
  let some b ← blank | failAhead .eofInValue
  if b == 110 then advance; lex (literalAt · nullRest ·); pure .null
  else if b == 116 then advance; lex (literalAt · trueRest ·); pure (.bool true)
  else if b == 102 then advance; lex (literalAt · falseRest ·); pure (.bool false)
  else if b == 45 || isDigitByte b then
    let positive := b != 45
    if !positive then advance
    let n ← lex (numberAt · positive ·)
    pure <| match n with
      | .unsigned n => .unsigned n
      | .negative n => .signed n
      | .float x => .float x
  else if b == 34 then advance; (.text ·) <$> lex stringAt
  else if b == 91 then pure .sequence
  else if b == 123 then pure .map
  else failAhead .expectedValue

def mismatch (expected : String) : Scan α := do
  let f ← found
  reject (Schema.invalidType floatText f expected)

end Scan

/-- Where checking an unwanted value goes next: done at an index, or on at an index with the
open brackets, innermost first (`true` for an object). -/
inductive SkipState where
  | done (index : Nat)
  | more (index : Nat) (stack : List Bool)

/-- Closes brackets after a value until a comma or the next value, at most `fuel` of them. -/
def skipClosing (bytes : ByteArray) : Nat → Nat → Bool → Bool → List Bool →
    Except (SyntaxCode × Slip) (Sum Nat (Nat × Bool × List Bool))
  | 0, i, frame, _, stack => .ok (.inr (i, frame, stack))
  | fuel + 1, i, frame, acceptComma, stack =>
    let i := skipBlank bytes i
    match bytes[i]? with
    | none => .error (if frame then .eofInObject else .eofInList, .ahead i)
    | some c =>
      if c == 44 && acceptComma then .ok (.inr (i + 1, frame, stack))
      else if (c == 93 && !frame) || (c == 125 && frame) then
        match stack with
        | [] => .ok (.inl (i + 1))
        | f :: rest => skipClosing bytes fuel (i + 1) f true rest
      else if acceptComma then
        .error (if frame then .expectedObjectCommaOrEnd else .expectedListCommaOrEnd, .ahead i)
      else .ok (.inr (i, frame, stack))

/-- One step of checking an unwanted value: a scalar or an opening bracket, then the brackets
it closes, then the key of a next member. -/
def skipStep (bytes : ByteArray) (i : Nat) (stack : List Bool) :
    Except (SyntaxCode × Slip) SkipState := do
  let i := skipBlank bytes i
  let some b := bytes[i]? | throw (.eofInValue, .ahead i)
  let scalar (r : Lex (Unit × Nat)) : Lex (Option Bool × Nat) := (fun (_, j) => (none, j)) <$> r
  let (opened, i) ←
    if b == 110 then scalar (literalAt bytes nullRest (i + 1))
    else if b == 116 then scalar (literalAt bytes trueRest (i + 1))
    else if b == 102 then scalar (literalAt bytes falseRest (i + 1))
    else if b == 45 then scalar (skipNumberAt bytes (i + 1))
    else if isDigitByte b then scalar (skipNumberAt bytes i)
    else if b == 34 then scalar (skipStringAt bytes (i + 1))
    else if b == 91 then pure (some false, i + 1)
    else if b == 123 then pure (some true, i + 1)
    else throw (.expectedValue, .ahead i)
  let next ←
    match opened, stack with
    | some f, _ => skipClosing bytes (bytes.size + 1) i f false stack
    | none, f :: rest => skipClosing bytes (bytes.size + 1) i f true rest
    | none, [] => pure (.inl i)
  match next with
  | .inl j => return .done j
  | .inr (i, frame, stack) =>
    if frame then
      -- the key and colon of the next member
      let i := skipBlank bytes i
      match bytes[i]? with
      | some 34 => pure ()
      | some _ => throw (.keyMustBeString, .ahead i)
      | none => throw (.eofInObject, .ahead i)
      let (_, i) ← skipStringAt bytes (i + 1)
      let i := skipBlank bytes i
      match bytes[i]? with
      | some 58 => pure ()
      | some _ => throw (.expectedColon, .ahead i)
      | none => throw (.eofInObject, .ahead i)
      return .more (i + 1) (frame :: stack)
    else return .more i (frame :: stack)

/-- Checks steps of an unwanted value until it is complete, at most `fuel` steps. -/
def skipLoop (bytes : ByteArray) : Nat → Nat → List Bool → Lexed Unit
  | 0, i, _ => .ok ((), i)
  | fuel + 1, i, stack =>
    match skipStep bytes i stack with
    | .error e => .error e
    | .ok (.done j) => .ok ((), j)
    | .ok (.more j stack) => skipLoop bytes fuel j stack

def skipValueAt (bytes : ByteArray) (i : Nat) : Lexed Unit :=
  skipLoop bytes (bytes.size + 1) i []

def Scan.skip : Scan Unit := Scan.lex skipValueAt

end TurnLedger.Json
