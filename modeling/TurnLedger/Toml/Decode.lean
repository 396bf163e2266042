import TurnLedger.Toml.Parser
import TurnLedger.Schema.Mismatch
import TurnLedger.Decimal.Layout

/-!
# Typed values from TOML items

A decoder reads an item into a typed value or fails with a message naming what it found and
what it expected. The failure points at the innermost item that has a span; an item without one
(an implicit table) is pointed at through the key that names it.

Tables are maps and arrays are sequences; a date-time reads as a map of one private entry, whose
value is the date-time's text, so a record given a date-time keeps its defaults. A record is read
from a table by its field names, unknown names being skipped, or from an array by position.
-/

namespace TurnLedger.Toml

def Datetime.text (d : Datetime) : String :=
  let two := fun (n : Nat) => if n < 10 then "0" ++ toString n else toString n
  let datePart := match d.date with
    | some (y, m, day) =>
      let ys := toString y
      String.ofList (List.replicate (4 - ys.length) '0') ++ ys ++ "-" ++ two m ++ "-" ++ two day
    | none => ""
  let timePart := match d.time with
    | some (h, m, s, nanos) =>
      let base := two h ++ ":" ++ two m ++ ":" ++ two s
      let frac :=
        if nanos == 0 then ""
        else
          let ds := toString nanos
          let padded := String.ofList (List.replicate (9 - ds.length) '0') ++ ds
          "." ++ String.ofList (padded.toList.reverse.dropWhile (· == '0')).reverse
      (if d.date.isSome then "T" else "") ++ base ++ frac
    | none => ""
  let offsetPart := match d.offset with
    | some .utc => "Z"
    | some (.minutes m) =>
      (if m < 0 then "-" else "+") ++ two (m.natAbs / 60) ++ ":" ++ two (m.natAbs % 60)
    | none => ""
  datePart ++ timePart ++ offsetPart

def datetimeEntry : String := "$__toml_private_datetime"

/-- A float as messages write it: positional digits, `NaN`, `inf` or `-inf`. -/
def messageFloat (x : Float) : String :=
  if x.isNaN then "NaN"
  else if x.isInf then (if x < 0 then "-inf" else "inf")
  else Decimal.Layout.plain.render x

def Item.found : Item → Schema.Found
  | .string s _ => .text s
  | .integer n _ => .signed n
  | .float x _ => .float x
  | .boolean v _ => .bool v
  | .datetime .. => .map
  | .array .. | .tableArray .. => .sequence
  | .inlineTable .. | .table .. => .map

abbrev Decoded (α : Type) := Except Error α

def Decoded.at (span : Option Span) (r : Decoded α) : Decoded α :=
  match r with
  | .error e => .error { e with span := e.span <|> span }
  | ok => ok

def Item.mismatch (item : Item) (expected : String) : Error :=
  { message := Schema.invalidType messageFloat item.found expected, span := item.span? }

def Item.readString (expected : String) (item : Item) : Decoded String :=
  match item with
  | .string s _ => .ok s
  | _ => .error (item.mismatch expected)

def Item.readBool (item : Item) : Decoded Bool :=
  match item with
  | .boolean v _ => .ok v
  | _ => .error (item.mismatch "a boolean")

def Item.readCount (item : Item) : Decoded Nat :=
  match item with
  | .integer n _ =>
    if n < 0 then .error { message := Schema.invalidValue messageFloat item.found "u64", span := item.span? }
    else .ok n.toNat
  | _ => .error (item.mismatch "u64")

def Item.entries? : Item → Option (List (Key × Item))
  | .table ms _ _ | .inlineTable ms _ _ => some ms
  | .datetime d s => some [({ name := datetimeEntry, raw := datetimeEntry, span := s }, .string d.text s)]
  | _ => none

def Item.elements? : Item → Option (List Item)
  | .array items _ | .tableArray items _ => some items
  | _ => none

def Item.readList (read : Item → Decoded α) (item : Item) : Decoded (List α) :=
  match item.elements? with
  | some items => items.mapM fun v => Decoded.at v.span? (read v)
  | none => .error (item.mismatch "a sequence")

/-- The value of a map entry read by `read`, pointed at the entry's key if the value has no span. -/
def readEntry (read : Item → Decoded α) (k : Key) (v : Item) : Decoded α :=
  Decoded.at (v.span? <|> some k.span) (read v)

def Item.readMap (read : Item → Decoded α) (item : Item) : Decoded (List (String × α)) :=
  match item.entries? with
  | some entries => entries.mapM fun (k, v) => (readEntry read k v).map (k.name, ·)
  | none => .error (item.mismatch "a map")

structure Field (σ : Type) where
  name : String
  read : Item → σ → Decoded σ

/-- A record from a table, by field names (unknown names skipped), or from an array, by
position (missing elements keeping their defaults). -/
def Item.readRecord (expected : String) (fields : List (Field σ)) (init : σ) (item : Item) :
    Decoded σ :=
  match item.entries? with
  | some entries =>
    entries.foldlM (fun acc (k, v) =>
      match fields.find? (·.name == k.name) with
      | some f => readEntry (fun v => f.read v acc) k v
      | none => .ok acc) init
  | none =>
    match item.elements? with
    | some items =>
      (fields.zip items).foldlM (fun acc (f, v) => Decoded.at v.span? (f.read v acc)) init
    | none => .error (item.mismatch expected)

/-- A document read by `read`, failures shown against the document's text. -/
def decodeDocument (read : Item → Decoded α) (text : String) : Except String α :=
  match parseDocument text with
  | .error e => .error (e.render text)
  | .ok root =>
    match Decoded.at root.span (read root.toItem) with
    | .error e => .error (e.render text)
    | .ok a => .ok a

end TurnLedger.Toml
