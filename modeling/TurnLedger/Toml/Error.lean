import TurnLedger.Toml.Failure

/-!
# TOML errors as shown

An error of the TOML reader or of a typed decoder may point at a span of the text. Shown, it
names the line and column (both from one; the column counts characters before the span's start
on its line, or bytes when the span starts inside a multi-byte character), repeats that line
and underlines the span with carets (at least one, at most to the line's end), then gives the
message. Without a span only the message is shown.
-/

namespace TurnLedger.Toml

structure Span where
  start : Nat
  stop : Nat
  deriving DecidableEq, Repr

structure Error where
  message : String
  span : Option Span

/-- The zero-based line and column of a byte offset, as the error display counts them. -/
def lineAndColumn (input : ByteArray) (index : Nat) : Nat × Nat :=
  if input.size = 0 then (0, index)
  else
    let safe := min index (input.size - 1)
    let extra := index - safe
    let before := (input.extract 0 safe).toList
    let lineStart := safe - (before.reverse.takeWhile (· != 10)).length
    let line := ((input.extract 0 lineStart).toList.filter (· == 10)).length
    let column :=
      match String.fromUTF8? (input.extract lineStart (safe + 1)) with
      | some s => s.length - 1
      | none => safe - lineStart
    (line, column + extra)

def spaces (n : Nat) : String := String.ofList (List.replicate n ' ')

def Error.render (e : Error) (text : String) : String :=
  match e.span with
  | none => e.message ++ "\n"
  | some span =>
    let bytes := text.toUTF8
    let (line, column) := lineAndColumn bytes span.start
    let lineNum := toString (line + 1)
    let gutter := lineNum.length
    let content := (text.splitOn "\n").getD line ""
    let highlight := min (span.stop - span.start) (content.utf8ByteSize - column)
    "TOML parse error at line " ++ lineNum ++ ", column " ++ toString (column + 1) ++ "\n" ++
      spaces (gutter + 1) ++ "|\n" ++
      lineNum ++ " | " ++ content ++ "\n" ++
      spaces (gutter + 1) ++ "|" ++ spaces (column + 1) ++ "^" ++
      String.ofList (List.replicate (highlight - 1) '^') ++ "\n" ++
      e.message ++ "\n"

/-- The number of bytes of the UTF-8 encoded character that starts with byte `b`. -/
def charWidth (b : UInt8) : Nat :=
  if b < 0x80 then 1 else if b < 0xE0 then 2 else if b < 0xF0 then 3 else 4

/-- The error of a failed reading: the span of the character at the failure, empty at the end. -/
def Error.ofFailure (f : Failure) (bytes : ByteArray) : Error :=
  { message := f.message
    span := some (if h : f.offset < bytes.size then
        ⟨f.offset, min bytes.size (f.offset + charWidth bytes[f.offset])⟩
      else ⟨f.offset, f.offset⟩) }

end TurnLedger.Toml
