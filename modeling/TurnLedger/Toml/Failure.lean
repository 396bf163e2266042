/-!
# Failures of the TOML reader

A failure records the byte offset where reading stopped, what was being read there (labels
such as `table header`), what would have been accepted (`expected` items such as `]`), and an
underlying cause. A failure is either soft, letting an enclosing alternative try something
else, or hard ("cut"), ending the whole reading.

The message names the first label (`invalid table header`), then the expected items on a line
of their own (``expected `.`, `]` ``), then the cause.
-/

namespace TurnLedger.Toml

inductive Context where
  | label (what : String)
  | expected (item : String)
  deriving DecidableEq, Repr

structure Failure where
  offset : Nat
  contexts : List Context := []
  cause : Option String := none
  cut : Bool := false
  deriving Repr

/-- The outcome of a reading step: a value and the next offset, or a failure. -/
abbrev Step (α : Type) := Except Failure (α × Nat)

def soft (offset : Nat) : Failure := { offset }

def hardCause (offset : Nat) (cause : String) : Failure := { offset, cause := some cause, cut := true }

def Failure.within (f : Failure) (cs : List Context) : Failure :=
  { f with contexts := f.contexts ++ cs }

def Step.within (r : Step α) (cs : List Context) : Step α :=
  match r with
  | .error f => .error (f.within cs)
  | ok => ok

def Step.hard (r : Step α) : Step α :=
  match r with
  | .error f => .error { f with cut := true }
  | ok => ok

def expectChar (c : Char) : Context :=
  .expected (if c = '\n' then "newline" else "`" ++ c.toString ++ "`")

def expectWords (s : String) : Context := .expected s

def Failure.message (f : Failure) : String :=
  let label := f.contexts.findSome? fun
    | .label s => some s
    | _ => none
  let expected := f.contexts.filterMap fun
    | .expected s => some s
    | _ => none
  let parts :=
    (match label with | some l => ["invalid " ++ l] | none => []) ++
    (if expected.isEmpty then [] else ["expected " ++ ", ".intercalate expected]) ++
    (match f.cause with | some c => [c] | none => [])
  "\n".intercalate parts

end TurnLedger.Toml
