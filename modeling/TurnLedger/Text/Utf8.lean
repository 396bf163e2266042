/-!
# Reading bytes as UTF-8 with replacements

Bytes are read as UTF-8; where they do not form a character, the longest start of a valid
sequence found there is replaced by U+FFFD and reading goes on with the next byte. A valid
sequence is an ASCII byte; a lead byte `C2`–`DF` and one continuation byte; a lead byte `E0`
(second byte `A0`–`BF`), `E1`–`EC` or `EE`–`EF`, or `ED` (second byte `80`–`9F`) and two
continuation bytes; a lead byte `F0` (second byte `90`–`BF`), `F1`–`F3`, or `F4` (second byte
`80`–`8F`) and three continuation bytes. Continuation bytes are `80`–`BF`.
-/

namespace TurnLedger.Text

def replacement : Char := '�'

def isContinuation (b : UInt8) : Bool := 0x80 ≤ b && b ≤ 0xBF

/-- The length of the sequence a lead byte starts, and the range its second byte must fall in;
`none` for a byte that starts no sequence. -/
def leadShape (b : UInt8) : Option (Nat × UInt8 × UInt8) :=
  if 0xC2 ≤ b && b ≤ 0xDF then some (2, 0x80, 0xBF)
  else if b == 0xE0 then some (3, 0xA0, 0xBF)
  else if (0xE1 ≤ b && b ≤ 0xEC) || b == 0xEE || b == 0xEF then some (3, 0x80, 0xBF)
  else if b == 0xED then some (3, 0x80, 0x9F)
  else if b == 0xF0 then some (4, 0x90, 0xBF)
  else if 0xF1 ≤ b && b ≤ 0xF3 then some (4, 0x80, 0xBF)
  else if b == 0xF4 then some (4, 0x80, 0x8F)
  else none

def codePoint (lead : UInt8) (tail : List UInt8) : Nat :=
  let width := tail.length + 1
  let leadBits := lead.toNat % (if width == 2 then 32 else if width == 3 then 16 else 8)
  tail.foldl (fun acc b => acc * 64 + b.toNat % 64) leadBits

/-- How many bytes after the lead belong to a valid start of its sequence. -/
def validTail (lo hi : UInt8) (need : Nat) : List UInt8 → Nat
  | [] => 0
  | b :: rest =>
    if need == 0 then 0
    else if lo ≤ b && b ≤ hi then 1 + validTail 0x80 0xBF (need - 1) rest
    else 0

def decodeLoop : Nat → List UInt8 → List Char → List Char
  | 0, _, acc => acc.reverse
  | _ + 1, [], acc => acc.reverse
  | fuel + 1, b :: rest, acc =>
    if b < 0x80 then decodeLoop fuel rest (Char.ofNat b.toNat :: acc)
    else match leadShape b with
      | none => decodeLoop fuel rest (replacement :: acc)
      | some (width, lo, hi) =>
        let good := validTail lo hi (width - 1) rest
        if good == width - 1 then
          decodeLoop fuel (rest.drop good) (Char.ofNat (codePoint b (rest.take good)) :: acc)
        else decodeLoop fuel (rest.drop good) (replacement :: acc)

def decodeLossy (bytes : ByteArray) : String :=
  String.ofList (decodeLoop (bytes.size + 1) bytes.toList [])

end TurnLedger.Text
