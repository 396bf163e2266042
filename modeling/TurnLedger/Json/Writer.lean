import TurnLedger.Json.Value
import TurnLedger.Decimal.Layout

/-!
# Writing JSON text

Strings are written between double quotes with `\"` and `\\` for a quote and a backslash, the
short escapes `\b \t \n \f \r`, and `\u00xx` (lowercase hexadecimal) for the other control
characters below `0x20`. Other characters stand as they are, unless the text must be ASCII, in
which case every character above `0x7e` is written as `\uxxxx`, with a surrogate pair above
`0xffff`. Doubles are written by `Decimal.Layout.json`; infinities and NaN are written `null`.

`Value.compact` puts no blank anywhere. `Value.pretty` puts every item and member on a line of
its own, indented two spaces per level, with `": "` after keys; empty arrays and objects stay
`[]` and `{}`.
-/

namespace TurnLedger.Json

def hex4 (n : Nat) : String :=
  let ds := Nat.toDigits 16 n
  String.ofList (List.replicate (4 - ds.length) '0' ++ ds)

def escapeChar (ascii : Bool) (c : Char) : String :=
  if c = '"' then "\\\""
  else if c = '\\' then "\\\\"
  else if c = '\n' then "\\n"
  else if c = '\r' then "\\r"
  else if c = '\t' then "\\t"
  else if c.toNat = 8 then "\\b"
  else if c.toNat = 12 then "\\f"
  else if c.toNat < 0x20 then "\\u" ++ hex4 c.toNat
  else if ascii && c.toNat > 0x7e then
    if c.toNat < 0x10000 then "\\u" ++ hex4 c.toNat
    else
      let m := c.toNat - 0x10000
      "\\u" ++ hex4 (0xD800 + m / 0x400) ++ "\\u" ++ hex4 (0xDC00 + m % 0x400)
  else c.toString

def quoteString (ascii : Bool) (s : String) : String :=
  "\"" ++ String.join (s.toList.map (escapeChar ascii)) ++ "\""

def floatLiteral (x : Float) : String :=
  if x.isFinite then Decimal.Layout.json.render x else "null"

def Number.text : Number → String
  | .unsigned n => toString n
  | .negative n => toString n
  | .float x => floatLiteral x

mutual
def Value.compactWith (ascii : Bool) : Value → String
  | .null => "null"
  | .bool b => if b then "true" else "false"
  | .number n => n.text
  | .string s => quoteString ascii s
  | .array items => "[" ++ compactItems ascii items ++ "]"
  | .object members => "\x7b" ++ compactMembers ascii members ++ "\x7d"

def compactItems (ascii : Bool) : List Value → String
  | [] => ""
  | [v] => v.compactWith ascii
  | v :: rest => v.compactWith ascii ++ "," ++ compactItems ascii rest

def compactMembers (ascii : Bool) : List (String × Value) → String
  | [] => ""
  | [(k, v)] => quoteString ascii k ++ ":" ++ v.compactWith ascii
  | (k, v) :: rest =>
    quoteString ascii k ++ ":" ++ v.compactWith ascii ++ "," ++ compactMembers ascii rest
end

def Value.compact (v : Value) : String := v.compactWith false

def newline (level : Nat) : String := "\n" ++ String.ofList (List.replicate (2 * level) ' ')

mutual
def Value.prettyAt (level : Nat) : Value → String
  | .array [] => "[]"
  | .object [] => "\x7b\x7d"
  | .array items => "[" ++ prettyItems (level + 1) items ++ newline level ++ "]"
  | .object members => "\x7b" ++ prettyMembers (level + 1) members ++ newline level ++ "\x7d"
  | v => v.compact

def prettyItems (level : Nat) : List Value → String
  | [] => ""
  | [v] => newline level ++ v.prettyAt level
  | v :: rest => newline level ++ v.prettyAt level ++ "," ++ prettyItems level rest

def prettyMembers (level : Nat) : List (String × Value) → String
  | [] => ""
  | [(k, v)] => newline level ++ quoteString false k ++ ": " ++ v.prettyAt level
  | (k, v) :: rest =>
    newline level ++ quoteString false k ++ ": " ++ v.prettyAt level ++ "," ++
      prettyMembers level rest
end

def Value.pretty (v : Value) : String := v.prettyAt 0

end TurnLedger.Json
