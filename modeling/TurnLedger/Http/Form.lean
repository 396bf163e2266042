import TurnLedger.Activity.Filter
import TurnLedger.Schema.Mismatch
import TurnLedger.Text.Utf8

/-!
# Form-encoded queries

A query is a list of pairs parted by `&`; empty pieces are skipped. A piece is a name and a
value parted by its first `=`, or a name alone with an empty value. In names and values `+`
stands for a space and `%` with two hexadecimal digits for a byte (any other `%` stands for
itself); the bytes are then read as UTF-8 with replacements.

The filters of the activity API are read from the pairs `project`, `model` and `date`; other
names are ignored, and a name given twice is refused.
-/

namespace TurnLedger.Http

def hexDigitValue (b : UInt8) : Option Nat :=
  if 48 ≤ b && b ≤ 57 then some (b.toNat - 48)
  else if 97 ≤ b && b ≤ 102 then some (b.toNat - 87)
  else if 65 ≤ b && b ≤ 70 then some (b.toNat - 55)
  else none

def percentDecode : List UInt8 → List UInt8
  | 37 :: h :: l :: rest =>
    match hexDigitValue h, hexDigitValue l with
    | some a, some b => (a * 16 + b).toUInt8 :: percentDecode rest
    | _, _ => 37 :: percentDecode (h :: l :: rest)
  | b :: rest => b :: percentDecode rest
  | [] => []

def decodeFormPart (s : String) : String :=
  let bytes := s.toUTF8.toList.map fun b => if b == 43 then 32 else b
  Text.decodeLossy ⟨(percentDecode bytes).toArray⟩

def formPairs (query : String) : List (String × String) :=
  ((query.splitOn "&").filter (!·.isEmpty)).map fun piece =>
    match piece.splitOn "=" with
    | [] => ("", "")
    | [name] => (decodeFormPart name, "")
    | name :: rest => (decodeFormPart name, decodeFormPart ("=".intercalate rest))

def filtersOfQuery (query : String) : Except String Activity.Filters :=
  (formPairs query).foldlM (fun f (k, v) =>
    if k == "project" then
      if f.projectTag.isSome then .error (Schema.duplicateField k) else .ok { f with projectTag := some v }
    else if k == "model" then
      if f.model.isSome then .error (Schema.duplicateField k) else .ok { f with model := some v }
    else if k == "date" then
      if f.date.isSome then .error (Schema.duplicateField k) else .ok { f with date := some v }
    else .ok f) ({} : Activity.Filters)

end TurnLedger.Http
