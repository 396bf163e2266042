/-!
# Socket addresses

A socket address is an IPv4 address and a port (`127.0.0.1:80`) or a bracketed IPv6 address,
an optional numeric scope and a port (`[::1]:80`, `[fe80::1%2]:80`). An IPv4 address has four
decimal parts below 256, each of one to three digits without a leading zero. An IPv6 address has
eight groups of one to four hexadecimal digits, or fewer around one `::` that stands for at least
one zero group; its last two groups may be written as an IPv4 address. A port is a decimal
number below 65536, leading zeros allowed. Nothing may follow.

An address is written back in canonical form: IPv6 groups in lowercase hexadecimal without
leading zeros, the first longest run of two or more zero groups shortened to `::`, and an
IPv4-mapped address as `::ffff:` and dotted parts.
-/

namespace TurnLedger.Net

inductive SocketAddr where
  | v4 (octets : List Nat) (port : Nat)
  | v6 (groups : List Nat) (scope : Nat) (port : Nat)
  deriving Repr, DecidableEq

abbrev Rest := List Char

/-- A number in `base` from the front of `cs`: at least one digit, at most `maxDigits` when
given, below `bound`; a leading zero followed by more digits only when `zeroLead`. -/
def readNumber (base : Nat) (maxDigits : Option Nat) (bound : Nat) (zeroLead : Bool) (cs : Rest) :
    Option (Nat × Rest) :=
  let digit := fun (c : Char) =>
    if c.isDigit && c.toNat - 48 < base then some (c.toNat - 48)
    else if base == 16 && 'a' ≤ c && c ≤ 'f' then some (c.toNat - 87)
    else if base == 16 && 'A' ≤ c && c ≤ 'F' then some (c.toNat - 55)
    else none
  let ds := cs.takeWhile fun c => (digit c).isSome
  let rest := cs.drop ds.length
  let value := ds.foldl (fun acc c => acc * base + (digit c).getD 0) 0
  let tooMany := match maxDigits with
    | some m => ds.length > m
    | none => false
  if ds.isEmpty || tooMany || value ≥ bound then none
  else if !zeroLead && ds.head? == some '0' && ds.length > 1 then none
  else some (value, rest)

def readChar (c : Char) : Rest → Option Rest
  | d :: rest => if c == d then some rest else none
  | [] => none

def readIpv4 (cs : Rest) : Option (List Nat × Rest) := do
  let (a, cs) ← readNumber 10 (some 3) 256 false cs
  let cs ← readChar '.' cs
  let (b, cs) ← readNumber 10 (some 3) 256 false cs
  let cs ← readChar '.' cs
  let (c, cs) ← readNumber 10 (some 3) 256 false cs
  let cs ← readChar '.' cs
  let (d, cs) ← readNumber 10 (some 3) 256 false cs
  pure ([a, b, c, d], cs)

/-- Colon-separated IPv6 groups, at most `limit`; the last two may be an IPv4 address. Gives
the groups, whether they ended in an IPv4 address, and the rest. -/
def readGroups : Nat → Nat → List Nat → Rest → List Nat × Bool × Rest
  | 0, _, acc, cs => (acc.reverse, false, cs)
  | fuel + 1, limit, acc, cs =>
    let i := acc.length
    if i ≥ limit then (acc.reverse, false, cs)
    else
      let sep := fun (cs : Rest) => if i > 0 then readChar ':' cs else some cs
      let asIpv4 := if i + 1 < limit then (sep cs).bind readIpv4 else none
      match asIpv4 with
      | some (octets, rest) =>
        let hi := (octets.getD 0 0) * 256 + octets.getD 1 0
        let lo := (octets.getD 2 0) * 256 + octets.getD 3 0
        ((lo :: hi :: acc).reverse, true, rest)
      | none =>
        match (sep cs).bind (readNumber 16 (some 4) 65536 true) with
        | some (g, rest) => readGroups fuel limit (g :: acc) rest
        | none => (acc.reverse, false, cs)

def readIpv6 (cs : Rest) : Option (List Nat × Rest) := do
  let (head, headV4, cs) := readGroups 9 8 [] cs
  if head.length == 8 then pure (head, cs)
  else if headV4 then none
  else
    let cs ← readChar ':' cs
    let cs ← readChar ':' cs
    let (tail, _, cs) := readGroups 8 (8 - (head.length + 1)) [] cs
    pure (head ++ List.replicate (8 - head.length - tail.length) 0 ++ tail, cs)

def readPort (cs : Rest) : Option (Nat × Rest) := do
  let cs ← readChar ':' cs
  readNumber 10 none 65536 true cs

def SocketAddr.parse (s : String) : Option SocketAddr :=
  let cs := s.toList
  let v4 : Option SocketAddr := do
    let (octets, cs) ← readIpv4 cs
    let (port, cs) ← readPort cs
    if cs.isEmpty then pure (.v4 octets port) else none
  let v6 : Option SocketAddr := do
    let cs ← readChar '[' cs
    let (groups, cs) ← readIpv6 cs
    let (scope, cs) := match (readChar '%' cs).bind (readNumber 10 none (Nat.pow 2 32) true) with
      | some r => r
      | none => (0, cs)
    let cs ← readChar ']' cs
    let (port, cs) ← readPort cs
    if cs.isEmpty then pure (.v6 groups scope port) else none
  v4 <|> v6

def hexGroup (g : Nat) : String := String.ofList (Nat.toDigits 16 g)

def zeroRun (groups : List Nat) : Nat × Nat :=
  let step := fun (st : (Nat × Nat) × (Nat × Nat) × Nat) (g : Nat) =>
    let ((bestStart, bestLen), (curStart, curLen), i) := st
    if g == 0 then
      let cur := if curLen == 0 then (i, 1) else (curStart, curLen + 1)
      let best := if cur.2 > bestLen then cur else (bestStart, bestLen)
      (best, cur, i + 1)
    else ((bestStart, bestLen), (0, 0), i + 1)
  (groups.foldl step ((0, 0), (0, 0), 0)).1

def ipv6Text (groups : List Nat) : String :=
  let part := fun (gs : List Nat) => ":".intercalate (gs.map hexGroup)
  if groups.take 6 == [0, 0, 0, 0, 0, 0xffff] then
    let hi := groups.getD 6 0
    let lo := groups.getD 7 0
    "::ffff:" ++ toString (hi / 256) ++ "." ++ toString (hi % 256) ++ "." ++ toString (lo / 256) ++
      "." ++ toString (lo % 256)
  else
    let (start, len) := zeroRun groups
    if len > 1 then part (groups.take start) ++ "::" ++ part (groups.drop (start + len))
    else part groups

def SocketAddr.text : SocketAddr → String
  | .v4 octets port => ".".intercalate (octets.map toString) ++ ":" ++ toString port
  | .v6 groups scope port =>
    "[" ++ ipv6Text groups ++ (if scope == 0 then "" else "%" ++ toString scope) ++ "]:" ++ toString port

def invalidSocketAddr : String := "invalid socket address syntax"

end TurnLedger.Net
