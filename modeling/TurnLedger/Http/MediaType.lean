/-!
# Media types

A `Content-Type` value is read as a media type `type/subtype`, with an optional suffix after the
subtype's last `+` (a `+` that starts the subtype belongs to it) and parameters after the first
`;`. The value must be visible ASCII or tabs. The type is a nonempty run of token characters;
the subtype is a run of token characters that may be empty, but a `;` cannot start it.

A parameter list is read byte by byte by `ParamState`: leading spaces before a name are skipped;
a name is a nonempty token run ending in `=`; a value is a token run, possibly empty at the end
of the text, or a nonempty quoted run, after which only spaces may stand before the next `;`.
Running out of text inside a name or a quoted value is an error; anywhere else it ends the list.

A body is JSON when the type is `application` and either the subtype (up to the `+`) or the
suffix is `json`, all without regard to ASCII case.
-/

namespace TurnLedger.Http

/-- The marks that may stand in a media-type token beside ASCII letters and digits. -/
def tokenMarks : List Char :=
  ['!', '#', '$', '%', '&', Char.ofNat 39, '*', '+', '-', '.', '^', '_', Char.ofNat 96, '|', '~']

def isTokenByte (b : UInt8) : Bool :=
  let c := Char.ofNat b.toNat
  b < 128 && (c.isAlphanum || tokenMarks.contains c)

/-- Whether a byte may stand inside a quoted parameter value: anything but controls other than
tab, the quote and the backslash. -/
def isQuotedByte (b : UInt8) : Bool :=
  b == 9 || b == 32 || b == 33 || (35 ≤ b && b ≤ 91) || (93 ≤ b && b ≤ 126) || 128 ≤ b

inductive ParamState where
  | nameStart
  | name
  | valueStart
  | value
  | quotedStart
  | quoted
  | afterQuote
  deriving DecidableEq, Repr

namespace ParamState

/-- The state after one more byte, or `none` when the byte is not allowed there. -/
def step : ParamState → UInt8 → Option ParamState
  | .nameStart, b =>
    if b == 32 then some .nameStart else if isTokenByte b then some .name else none
  | .name, b =>
    if isTokenByte b then some .name else if b == 61 then some .valueStart else none
  | .valueStart, b =>
    if b == 34 then some .quotedStart else if isTokenByte b then some .value else none
  | .value, b =>
    if isTokenByte b then some .value else if b == 59 then some .nameStart else none
  | .quotedStart, b => if isQuotedByte b then some .quoted else none
  | .quoted, b =>
    if b == 34 then some .afterQuote else if isQuotedByte b then some .quoted else none
  | .afterQuote, b =>
    if b == 59 then some .nameStart else if b == 32 then some .afterQuote else none

def accepts : ParamState → Bool
  | .name | .quotedStart | .quoted => false
  | _ => true

def run : ParamState → List UInt8 → Bool
  | st, [] => st.accepts
  | st, b :: rest =>
    match st.step b with
    | some next => next.run rest
    | none => false

end ParamState

def paramsOk (bytes : List UInt8) : Bool := ParamState.nameStart.run bytes

/-- A media type as its parts: the type, the subtype up to its last `+`, and the suffix after
that `+`, all lowercased. -/
structure MediaType where
  type : String
  subtype : String
  suffix : Option String
  deriving DecidableEq, Repr

/-- The bytes of a nonempty token run up to a `/`, and the bytes after the `/`. -/
def typePart : List UInt8 → List UInt8 → Option (List UInt8 × List UInt8)
  | _, [] => none
  | acc, b :: rest =>
    if isTokenByte b then typePart (acc ++ [b]) rest
    else if b == 47 && !acc.isEmpty then some (acc, rest)
    else none

/-- The subtype part, read on from the bytes `acc`: the bytes before the last `+` that does not
start it and those after that `+`; `none` when a byte is out of place or the text after the
first `;` is not a parameter list. -/
def subtypePart : List UInt8 → List UInt8 → Option (List UInt8 × Option (List UInt8))
  | acc, [] => some (splitAtPlus acc)
  | acc, b :: rest =>
    if b == 59 && !acc.isEmpty then
      if paramsOk rest then some (splitAtPlus acc) else none
    else if isTokenByte b then subtypePart (acc ++ [b]) rest
    else none
where
  splitAtPlus (acc : List UInt8) : List UInt8 × Option (List UInt8) :=
    match acc with
    | [] => ([], none)
    | first :: more =>
      let back := more.reverse
      match back.findIdx? (· == 43) with
      | some k => (first :: (back.drop (k + 1)).reverse, some (back.take k).reverse)
      | none => (acc, none)

def lowerText (bytes : List UInt8) : String :=
  String.ofList (bytes.map fun b => (Char.ofNat b.toNat).toLower)

def isVisibleHeader (value : String) : Bool :=
  value.all fun c => c == '\t' || (32 ≤ c.toNat && c.toNat < 127)

def MediaType.ofHeader? (value : String) : Option MediaType := do
  if !isVisibleHeader value then none
  let (kind, rest) ← typePart [] value.toUTF8.toList
  let (sub, suffix) ← subtypePart [] rest
  pure { type := lowerText kind, subtype := lowerText sub, suffix := suffix.map lowerText }

def MediaType.isJson (m : MediaType) : Bool :=
  m.type == "application" && (m.subtype == "json" || m.suffix == some "json")

def isJsonContentType (value : String) : Bool :=
  match MediaType.ofHeader? value with
  | some m => m.isJson
  | none => false

end TurnLedger.Http
