import TurnLedger.Command.Failure
import TurnLedger.Files.Path

/-!
# A run of a program

A program run gets its arguments, its standard input and the variables its environment adds,
runs with a home directory, and gives back an exit code and what it wrote on standard output
and standard error.

A failure that ends a run is a chain of messages, the outermost first. It is printed as `Error:`
and the first message; then, when there are causes, `Caused by:` and each cause on its own
line, indented by four columns, numbered from 0 when there are several, with the lines of a
cause that runs over several lines indented to match. Such a run exits with 1; a refused command
line exits with 2.
-/

namespace TurnLedger.Program

/-- A run of a program: its arguments, standard input and environment variables. -/
structure Invocation where
  args : List String
  stdin : ByteArray := ByteArray.empty
  env : List (String × String) := []

structure Outcome where
  exit : Nat
  stdout : String := ""
  stderr : String := ""

/-- The environment of a run: its own variables, and `HOME` set to `home` unless they set it. -/
def Invocation.lookup (inv : Invocation) (home : Files.Path) (name : String) : Option String :=
  match inv.env.lookup name with
  | some v => some v
  | none => if name == "HOME" then some home else none

def alignRight (width : Nat) (text : String) : String :=
  String.ofList (List.replicate (width - text.length) ' ') ++ text

def causeText (number : Option Nat) (message : String) : String :=
  let lead := match number with
    | some n => alignRight 5 (toString n) ++ ": "
    | none => "    "
  let follow := if number.isSome then "       " else "    "
  match message.splitOn "\n" with
  | [] => lead
  | first :: rest => lead ++ first ++ String.join (rest.map fun line => "\n" ++ follow ++ line)

def chainText : List String → String
  | [] => ""
  | top :: causes =>
    if causes.isEmpty then top
    else
      let numbered := causes.length > 1
      top ++ "\n\nCaused by:" ++ String.join (causes.zipIdx.map fun (c, i) =>
        "\n" ++ causeText (if numbered then some i else none) c)

def Outcome.failed (chain : List String) : Outcome :=
  { exit := 1, stderr := "Error: " ++ chainText chain ++ "\n" }

def Outcome.refused (e : Command.UsageError) : Outcome := { exit := 2, stderr := e.text }

def Outcome.printed (text : String) : Outcome := { exit := 0, stdout := text }

def Outcome.halted (message : String) : Outcome :=
  { exit := 101, stderr := "\nthread 'main' panicked:\n" ++ message ++ "\n" }

end TurnLedger.Program
