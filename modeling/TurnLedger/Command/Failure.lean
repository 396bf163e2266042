import TurnLedger.Command.Spec

/-!
# Usage errors

A command line that does not fit its grammar is refused with one line saying why, then, where
the reader can act on it, a tip naming a similar argument, command or value, then the usage
line, and last a pointer to `--help`. A missing or empty value, and a value of the wrong form,
are reported without a usage line.
-/

namespace TurnLedger.Command

inductive Tip where
  | similar (flag : String)
  | inCommand (command flag : String)
  | escapedCommand (command : String)
  deriving DecidableEq, Repr

inductive UsageError where
  | unknownArgument (arg : String) (tip : Option Tip) (usage : String)
  | unknownCommand (name : String) (similar : List String) (usage : String)
  /-- A value that is empty or not among the possible ones, with the nearest possible one. -/
  | invalidValue (value arg : String) (possible : List String) (nearest : Option String)
  | malformedValue (value arg reason : String)
  | givenTwice (arg : String) (usage : String)
  | unexpectedValue (value arg : String) (usage : String)
  | missingCommand (program : String) (commands : List String) (usage : String)
  deriving DecidableEq, Repr

def helpPointer : String := "\n\nFor more information, try '--help'.\n"

def usageParagraph (usage : String) : String := "\n\nUsage: " ++ usage

def quotedList (names : List String) : String := ", ".intercalate (names.map fun n => "'" ++ n ++ "'")

def similarTip (kind : String) : List String → String
  | [] => ""
  | [one] => "\n\n  tip: a similar " ++ kind ++ " exists: '" ++ one ++ "'"
  | many => "\n\n  tip: some similar " ++ kind ++ "s exist: " ++ quotedList many

def UsageError.text : UsageError → String
  | .unknownArgument arg tip usage =>
    "error: unexpected argument '" ++ arg ++ "' found" ++
      (match tip with
        | some (.similar flag) => similarTip "argument" [flag]
        | some (.inCommand command flag) => "\n\n  tip: '" ++ command ++ " " ++ flag ++ "' exists"
        | some (.escapedCommand command) =>
          "\n\n  tip: subcommand '" ++ command ++ "' exists; to use it, remove the '--' before it"
        | none => "") ++
      usageParagraph usage ++ helpPointer
  | .unknownCommand name similar usage =>
    "error: unrecognized subcommand '" ++ name ++ "'" ++ similarTip "subcommand" similar ++
      usageParagraph usage ++ helpPointer
  | .invalidValue value arg possible nearest =>
    (if value.isEmpty then "error: a value is required for '" ++ arg ++ "' but none was supplied"
     else "error: invalid value '" ++ value ++ "' for '" ++ arg ++ "'") ++
      (if possible.isEmpty then "" else "\n  [possible values: " ++ ", ".intercalate possible ++ "]") ++
      similarTip "value" nearest.toList ++ helpPointer
  | .malformedValue value arg reason =>
    "error: invalid value '" ++ value ++ "' for '" ++ arg ++ "': " ++ reason ++ helpPointer
  | .givenTwice arg usage =>
    "error: the argument '" ++ arg ++ "' cannot be used multiple times" ++ usageParagraph usage ++
      helpPointer
  | .unexpectedValue value arg usage =>
    "error: unexpected value '" ++ value ++ "' for '" ++ arg ++ "' found; no more were expected" ++
      usageParagraph usage ++ helpPointer
  | .missingCommand program commands usage =>
    "error: '" ++ program ++ "' requires a subcommand but one was not provided\n  [subcommands: " ++
      ", ".intercalate commands ++ "]" ++ usageParagraph usage ++ helpPointer

end TurnLedger.Command
