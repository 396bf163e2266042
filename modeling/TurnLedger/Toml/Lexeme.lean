import TurnLedger.Toml.Document

/-!
# The small pieces of TOML text

Blanks are spaces and tabs; a line ends with a line feed or a carriage return followed by one; a
comment runs from `#` to the end of its line and may hold no control character but a tab.

Strings come in four forms. A basic string (`"…"`) holds escapes: `\b \f \n \r \t \" \\`,
`\uXXXX` and `\UXXXXXXXX` naming a Unicode scalar value. A multi-line basic string (`"""…"""`)
may also hold line ends, and a backslash at the end of a line removes the line end and the
blanks and line ends after it. A literal string (`'…'`) holds its text as written, and so does
a multi-line literal string (`'''…'''`). A line end right after an opening `"""` or `'''` is
not part of the string, and one or two quotes may stand right before the closing three.

Each reader takes the text as bytes and an offset, and gives a value and the offset after it,
or a failure: soft where another form may still be tried, hard where the text is wrong.
-/

namespace TurnLedger.Toml

def byteAt (b : ByteArray) (i : Nat) : Option UInt8 := b[i]?

def isBlankByte (c : UInt8) : Bool := c == 0x20 || c == 0x09

def isBasicByte (c : UInt8) : Bool :=
  isBlankByte c || c == 0x21 || (0x23 ≤ c && c ≤ 0x5B) || (0x5D ≤ c && c ≤ 0x7E) || 0x80 ≤ c

def isLiteralByte (c : UInt8) : Bool :=
  c == 0x09 || (0x20 ≤ c && c ≤ 0x26) || (0x28 ≤ c && c ≤ 0x7E) || 0x80 ≤ c

def isCommentByte (c : UInt8) : Bool := c == 0x09 || (0x20 ≤ c && c ≤ 0x7E) || 0x80 ≤ c

def isBareKeyByte (c : UInt8) : Bool :=
  (0x41 ≤ c && c ≤ 0x5A) || (0x61 ≤ c && c ≤ 0x7A) || (0x30 ≤ c && c ≤ 0x39) || c == 0x2D || c == 0x5F

def isDigitByte (c : UInt8) : Bool := 0x30 ≤ c && c ≤ 0x39

def isHexByte (c : UInt8) : Bool := isDigitByte c || (0x41 ≤ c && c ≤ 0x46) || (0x61 ≤ c && c ≤ 0x66)

def byteIs (p : UInt8 → Bool) (b : ByteArray) (i : Nat) : Bool :=
  match byteAt b i with
  | some c => p c
  | none => false

def scanWhile (p : UInt8 → Bool) (b : ByteArray) (i : Nat) : Nat :=
  if h : i < b.size then
    if p b[i] then scanWhile p b (i + 1) else i
  else i
termination_by b.size - i

def startsWith (b : ByteArray) (i : Nat) : List UInt8 → Bool
  | [] => true
  | c :: cs => byteAt b i == some c && startsWith b (i + 1) cs

def slice (b : ByteArray) (i j : Nat) : String := (String.fromUTF8? (b.extract i j)).getD ""

def Step.orElse (r : Step α) (other : Unit → Step α) : Step α :=
  match r with
  | .error f => if f.cut then .error f else other ()
  | ok => ok

/-- A step that may be left out: a soft failure gives `none` at the starting offset. -/
def Step.optional (r : Step α) (i : Nat) : Step (Option α) :=
  match r with
  | .ok (a, j) => .ok (some a, j)
  | .error f => if f.cut then .error f else .ok (none, i)

def blank (b : ByteArray) (i : Nat) : Nat := scanWhile isBlankByte b i

/-- A line end. A carriage return not followed by a line feed fails after the return. -/
def newline (b : ByteArray) (i : Nat) : Step Unit :=
  match byteAt b i with
  | some 0x0A => .ok ((), i + 1)
  | some 0x0D => if byteAt b (i + 1) == some 0x0A then .ok ((), i + 2) else .error (soft (i + 1))
  | _ => .error (soft i)

def lineEnding (b : ByteArray) (i : Nat) : Step Unit :=
  match newline b i with
  | .ok r => .ok r
  | .error _ => if b.size ≤ i then .ok ((), i) else .error (soft i)

def comment (b : ByteArray) (i : Nat) : Option Nat :=
  if byteAt b i == some 0x23 then some (scanWhile isCommentByte b (i + 1)) else none

/-- Blanks, an optional comment and a line end: the rest of a line after its content. -/
def lineTrailing (b : ByteArray) (i : Nat) : Step Unit :=
  let j := blank b i
  lineEnding b ((comment b j).getD j)

def blankLines (b : ByteArray) : Nat → Nat → Nat
  | 0, i => i
  | fuel + 1, i =>
    match newline b i with
    | .ok (_, j) => blankLines b fuel j
    | .error _ =>
      let j := blank b i
      if j == i then i else blankLines b fuel j

/-- Blanks, line ends and comments each ended by a line end, as many as there are. -/
def gap (b : ByteArray) : Nat → Nat → Step Unit
  | 0, i => .ok ((), i)
  | fuel + 1, i =>
    let j := blank b i
    match byteAt b j with
    | some 0x23 =>
      match newline b ((comment b j).getD j) with
      | .ok (_, k) => gap b fuel k
      | .error f => .error f
    | some 0x0A | some 0x0D =>
      match newline b j with
      | .ok (_, k) => gap b fuel k
      | .error f => .error f
    | _ => .ok ((), j)

/-- The characters an escape may name after a backslash, as messages list them. -/
def escapeLetters : List Char := ['b', 'f', 'n', 'r', 't', 'u', 'U', '\\', '"']

def hexEscape (b : ByteArray) (n i : Nat) : Step Char :=
  let j := scanWhile isHexByte b i
  if j - i < n then .error (soft i)
  else
    let code := (List.range n).foldl (fun acc k =>
      let c := (byteAt b (i + k)).getD 0
      let d := if c ≤ 0x39 then c.toNat - 0x30 else if c ≤ 0x46 then c.toNat - 0x37 else c.toNat - 0x57
      acc * 16 + d) 0
    if code.isValidChar then .ok (Char.ofNat code, i + n)
    else .error { offset := i, cause := some "value is out of range" }

/-- An escape at `i`: a backslash and what follows. A backslash at the end of the text fails
softly; an unknown escape fails hard after the letter. -/
def escaped (b : ByteArray) (i : Nat) : Step Char :=
  if byteAt b i != some 0x5C then .error (soft i)
  else
    match byteAt b (i + 1) with
    | none => .error (soft (i + 1))
    | some c =>
      let k := i + 2
      match c with
      | 0x62 => .ok ('\x08', k)
      | 0x66 => .ok ('\x0c', k)
      | 0x6E => .ok ('\n', k)
      | 0x72 => .ok ('\r', k)
      | 0x74 => .ok ('\t', k)
      | 0x5C => .ok ('\\', k)
      | 0x22 => .ok ('"', k)
      | 0x75 => Step.within (Step.hard (hexEscape b 4 k)) [.label "unicode 4-digit hex code"]
      | 0x55 => Step.within (Step.hard (hexEscape b 8 k)) [.label "unicode 8-digit hex code"]
      | _ => .error { offset := k, cut := true,
                      contexts := .label "escape sequence" :: escapeLetters.map expectChar }

/-- The characters of a basic string from `i` up to its closing quote, and that offset. -/
def basicBody (b : ByteArray) : Nat → Nat → String → Step String
  | 0, i, acc => .ok (acc, i)
  | fuel + 1, i, acc =>
    if byteIs isBasicByte b i then
      let j := scanWhile isBasicByte b i
      basicBody b fuel j (acc ++ slice b i j)
    else
      match escaped b i with
      | .ok (c, j) => basicBody b fuel j (acc.push c)
      | .error f => if f.cut then .error f else .ok (acc, i)

def basicString (b : ByteArray) (i : Nat) : Step String :=
  if byteAt b i != some 0x22 then .error (soft i)
  else
    match basicBody b (b.size + 1) (i + 1) "" with
    | .error f => .error f
    | .ok (s, j) =>
      if byteAt b j == some 0x22 then .ok (s, j + 1)
      else .error { offset := j, cut := true, contexts := [.label "basic string"] }

def literalString (b : ByteArray) (i : Nat) : Step String :=
  if byteAt b i != some 0x27 then .error { offset := i, contexts := [.label "literal string"] }
  else
    let j := scanWhile isLiteralByte b (i + 1)
    if byteAt b j == some 0x27 then .ok (slice b (i + 1) j, j + 1)
    else .error { offset := j, cut := true, contexts := [.label "literal string"] }

def tripleQuote : List UInt8 := [0x22, 0x22, 0x22]

def tripleApostrophe : List UInt8 := [0x27, 0x27, 0x27]

/-- One or two of the byte `q` at `i`, followed by something `next` accepts: two if possible. -/
def quotesBefore (q : UInt8) (next : Nat → Bool) (b : ByteArray) (i : Nat) : Option Nat :=
  if byteAt b i == some q && byteAt b (i + 1) == some q && next (i + 2) then some (i + 2)
  else if byteAt b i == some q && next (i + 1) then some (i + 1)
  else none

/-- A backslash, blanks and a line end, with the blanks and line ends after it; at least one. -/
def escapedLineEnd (b : ByteArray) : Nat → Nat → Bool → Step Unit
  | 0, i, _ => .ok ((), i)
  | fuel + 1, i, seen =>
    let attempt : Step Unit :=
      if byteAt b i != some 0x5C then .error (soft i)
      else
        match newline b (blank b (i + 1)) with
        | .ok (_, k) => .ok ((), blankLines b (b.size + 1) k)
        | .error f => .error f
    match attempt with
    | .ok (_, j) => escapedLineEnd b fuel j true
    | .error f => if seen then .ok ((), i) else .error f

def multiBasicPiece (b : ByteArray) (i : Nat) : Step String :=
  if byteIs isBasicByte b i then
    let j := scanWhile isBasicByte b i
    .ok (slice b i j, j)
  else
    Step.orElse ((escapedLineEnd b (b.size + 1) i false).map fun (_, j) => ("", j)) fun _ =>
      Step.orElse ((escaped b i).map fun (c, j) => (c.toString, j)) fun _ =>
        (newline b i).map fun (_, j) => ("\n", j)

def multiBasicPieces (b : ByteArray) : Nat → Nat → String → Step String
  | 0, i, acc => .ok (acc, i)
  | fuel + 1, i, acc =>
    match multiBasicPiece b i with
    | .ok (s, j) => multiBasicPieces b fuel j (acc ++ s)
    | .error f => if f.cut then .error f else .ok (acc, i)

/-- The content of a multi-line basic string: pieces, and quotes followed by more pieces. Quotes
followed by nothing the content may hold end the content after them. -/
def multiBasicGroups (b : ByteArray) : Nat → Nat → String → Step String
  | 0, i, acc => .ok (acc, i)
  | fuel + 1, i, acc =>
    let notQuote := fun k => byteIs (· != 0x22) b k
    match quotesBefore 0x22 notQuote b i with
    | none => .ok (acc, i)
    | some j =>
      match multiBasicPiece b j with
      | .error f => if f.cut then .error f else .ok (acc, j)
      | .ok (s, k) =>
        match multiBasicPieces b (b.size + 1) k (acc ++ slice b i j ++ s) with
        | .error f => .error f
        | .ok (acc', l) => multiBasicGroups b fuel l acc'

def multiBasicString (b : ByteArray) (i : Nat) : Step String :=
  let r : Step String :=
    if !startsWith b i tripleQuote then .error (soft i)
    else
      let j := match newline b (i + 3) with
        | .ok (_, k) => k
        | .error _ => i + 3
      match multiBasicPieces b (b.size + 1) j "" with
      | .error f => .error f
      | .ok (s, k) =>
        match multiBasicGroups b (b.size + 1) k s with
        | .error f => .error f
        | .ok (s, l) =>
          let (s, m) := match quotesBefore 0x22 (fun k => startsWith b k tripleQuote) b l with
            | some m => (s ++ slice b l m, m)
            | none => (s, l)
          if startsWith b m tripleQuote then .ok (s, m + 3)
          else .error { offset := m, cut := true }
  Step.within r [.label "multiline basic string"]

def multiLiteralPiece (b : ByteArray) (i : Nat) : Option Nat :=
  if byteIs (fun c => c == 0x09 || (0x20 ≤ c && c ≤ 0x26) || (0x28 ≤ c && c ≤ 0x7E) || 0x80 ≤ c) b i
  then some (i + 1)
  else match newline b i with
    | .ok (_, j) => some j
    | .error _ => none

def multiLiteralPieces (b : ByteArray) : Nat → Nat → Nat
  | 0, i => i
  | fuel + 1, i =>
    match multiLiteralPiece b i with
    | some j => multiLiteralPieces b fuel j
    | none => i

def multiLiteralGroups (b : ByteArray) : Nat → Nat → Nat
  | 0, i => i
  | fuel + 1, i =>
    match quotesBefore 0x27 (fun k => byteIs (· != 0x27) b k) b i with
    | none => i
    | some j =>
      let k := multiLiteralPieces b (b.size + 1) j
      if k == j then i else multiLiteralGroups b fuel k

def unixLines (s : String) : String := "\n".intercalate (s.splitOn "\r\n")

def multiLiteralString (b : ByteArray) (i : Nat) : Step String :=
  let r : Step String :=
    if !startsWith b i tripleApostrophe then .error (soft i)
    else
      let j := match newline b (i + 3) with
        | .ok (_, k) => k
        | .error _ => i + 3
      let k := multiLiteralGroups b (b.size + 1) (multiLiteralPieces b (b.size + 1) j)
      let l := (quotesBefore 0x27 (fun m => startsWith b m tripleApostrophe) b k).getD k
      if startsWith b l tripleApostrophe then .ok (unixLines (slice b j l), l + 3)
      else .error { offset := l, cut := true }
  Step.within r [.label "multiline literal string"]

def anyString (b : ByteArray) (i : Nat) : Step String :=
  Step.orElse (multiBasicString b i) fun _ =>
    Step.orElse (basicString b i) fun _ =>
      Step.orElse (multiLiteralString b i) fun _ => literalString b i

end TurnLedger.Toml
