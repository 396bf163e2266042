/-!
# Errors of the JSON reader

A grammar error names its cause and where it was found: the line, counted from one, and the
column, counted in bytes from the start of that line. A data error is a message from a typed
decoder; it carries a position when it arose while reading text, and none when it arose from an
already parsed value. Errors fall into three classes: the input ended early, the input is not
JSON, or the JSON does not fit the target type. A decoder that tracks where it is wraps a
failure in the parts it arose in (a member's key, an item's index); the message itself is the
same with or without them.
-/

namespace TurnLedger.Json

inductive SyntaxCode where
  | eofInList
  | eofInObject
  | eofInString
  | eofInValue
  | expectedColon
  | expectedListCommaOrEnd
  | expectedObjectCommaOrEnd
  | expectedIdent
  | expectedValue
  | invalidEscape
  | invalidNumber
  | numberOutOfRange
  | controlCharInString
  | keyMustBeString
  | loneLeadingSurrogate
  | trailingComma
  | trailingCharacters
  | unexpectedEndOfHexEscape
  | recursionLimitExceeded
  deriving DecidableEq, Repr

def SyntaxCode.text : SyntaxCode → String
  | .eofInList => "EOF while parsing a list"
  | .eofInObject => "EOF while parsing an object"
  | .eofInString => "EOF while parsing a string"
  | .eofInValue => "EOF while parsing a value"
  | .expectedColon => "expected `:`"
  | .expectedListCommaOrEnd => "expected `,` or `]`"
  | .expectedObjectCommaOrEnd => "expected `,` or `\x7d`"
  | .expectedIdent => "expected ident"
  | .expectedValue => "expected value"
  | .invalidEscape => "invalid escape"
  | .invalidNumber => "invalid number"
  | .numberOutOfRange => "number out of range"
  | .controlCharInString => "control character (\\u0000-\\u001F) found while parsing a string"
  | .keyMustBeString => "key must be a string"
  | .loneLeadingSurrogate => "lone leading surrogate in hex escape"
  | .trailingComma => "trailing comma"
  | .trailingCharacters => "trailing characters"
  | .unexpectedEndOfHexEscape => "unexpected end of hex escape"
  | .recursionLimitExceeded => "recursion limit exceeded"

def SyntaxCode.isEof : SyntaxCode → Bool
  | .eofInList | .eofInObject | .eofInString | .eofInValue => true
  | _ => false

/-- A place in the text: line from one, column in bytes from the line's start. -/
structure Position where
  line : Nat
  column : Nat
  deriving DecidableEq, Repr

/-- A step from a value into a part of it: a member by its key, or an item by its index. -/
inductive Segment where
  | key (name : String)
  | index (n : Nat)
  deriving DecidableEq, Repr

inductive Error where
  | malformed (code : SyntaxCode) (pos : Position)
  | data (message : String) (pos : Option Position)
  | within (segment : Segment) (inner : Error)

inductive Category where
  | eof
  | malformed
  | data
  deriving DecidableEq, Repr

def Error.category : Error → Category
  | .malformed code _ => if code.isEof then .eof else .malformed
  | .data _ _ => .data
  | .within _ e => e.category

def Position.suffix (p : Position) : String :=
  " at line " ++ toString p.line ++ " column " ++ toString p.column

def Error.message : Error → String
  | .malformed code pos => code.text ++ pos.suffix
  | .data msg (some pos) => msg ++ pos.suffix
  | .data msg none => msg
  | .within _ e => e.message

/-- The parts of the decoded value that lead to the failure, outermost first. -/
def Error.path : Error → List Segment
  | .within s e => s :: e.path
  | _ => []

/-- A path as text: keys parted by dots, indices in brackets with nothing before them. -/
def pathText : List Segment → String
  | [] => ""
  | first :: rest =>
    let piece := fun (s : Segment) => match s with
      | .key k => k
      | .index n => "[" ++ toString n ++ "]"
    rest.foldl (fun acc s => match s with
      | .key _ => acc ++ "." ++ piece s
      | .index _ => acc ++ piece s) (piece first)

def Error.placeAt (pos : Position) : Error → Error
  | .data msg none => .data msg (some pos)
  | .within s e => .within s (e.placeAt pos)
  | e => e

end TurnLedger.Json
