import TurnLedger.Text.Quoted

/-!
# The grammar of a command line

A program's command line is a list of named arguments, each with a long name and perhaps a
one-letter short name. A switch stands alone; an option takes one value, in the next argument,
after `=`, or (for a short name) in the rest of its cluster. An argument may fall back on an
environment variable and then on a default. A program may have commands, each with arguments of
its own; then one command must be named, after the program's own arguments, and `help` is a
command too.

The help of a command is its description, a usage line and a table of its commands and
arguments. A table puts every entry's text in one column, two blanks right of the widest entry;
when that would leave a text too little room in a line of 100 columns, every text goes on the
line below its entry instead. An argument's text ends with its environment variable, shown with
its current value, and its default.
-/

namespace TurnLedger.Command

inductive ValueKind where
  | text
  | path
  | count
  deriving DecidableEq, Repr

inductive Takes where
  | switch
  | single (valueName : String) (kind : ValueKind)
  | repeated (valueName : String) (kind : ValueKind)
  | help
  | version
  deriving DecidableEq, Repr

structure Arg where
  id : String
  long : String
  short : Option Char := none
  takes : Takes
  doc : String
  env : Option String := none
  default : Option String := none
  deriving Repr

def Arg.valueName? (a : Arg) : Option String :=
  match a.takes with
  | .single n _ | .repeated n _ => some n
  | _ => none

def Arg.takesValue (a : Arg) : Bool := a.valueName?.isSome

def Arg.once (a : Arg) : Bool :=
  match a.takes with
  | .repeated .. => false
  | _ => true

/-- How errors and usage lines name an argument: `--long` and its value's name. -/
def Arg.display (a : Arg) : String :=
  "--" ++ a.long ++ match a.valueName? with
    | some n => " <" ++ n ++ ">"
    | none => ""

def helpArg : Arg := { id := "help", long := "help", short := some 'h', takes := .help, doc := "Print help" }

def versionArg : Arg :=
  { id := "version", long := "version", short := some 'V', takes := .version, doc := "Print version" }

/-- A command: its name in usage lines (the program's, then the command's), its description and
its arguments, the help argument included. -/
structure Spec where
  usageName : String
  about : Option String := none
  args : List Arg
  deriving Repr

/-- A program: its own arguments, its commands by name, and its version line. -/
structure Tool where
  root : Spec
  commands : List (String × Spec) := []
  version : Option String := none

def helpCommandAbout : String := "Print this message or the help of the given subcommand(s)"

/-- The names a command may be given by, `help` last, when the program has commands. -/
def Tool.commandNames (t : Tool) : List String :=
  if t.commands.isEmpty then [] else t.commands.map (·.1) ++ ["help"]

def Spec.byLong (s : Spec) (name : String) : Option Arg := s.args.find? (·.long == name)

def Spec.byShort (s : Spec) (c : Char) : Option Arg := s.args.find? (·.short == some c)

/-- Whether the usage line shows `[OPTIONS]`: some argument besides help and version. -/
def Spec.hasOptions (s : Spec) : Bool :=
  s.args.any fun a => a.takes != .help && a.takes != .version

def Spec.usage (s : Spec) (needsCommand : Bool) : String :=
  s.usageName ++ (if s.hasOptions then " [OPTIONS]" else "") ++
    (if needsCommand then " <COMMAND>" else "")

/-- The usage line naming the arguments already given, each once, in the order first given. -/
def Spec.usageWith (s : Spec) (needsCommand : Bool) (used : List Arg) : String :=
  if used.isEmpty then s.usage needsCommand
  else
    let shown := used.foldl (fun acc a => if acc.contains a.display then acc else acc ++ [a.display]) []
    s.usageName ++ String.join (shown.map (" " ++ ·)) ++ (if needsCommand then " <COMMAND>" else "")

def blanks (n : Nat) : String := String.ofList (List.replicate n ' ')

def lineWidth : Nat := 100

/-- Whether an entry's text goes below it: the entries take more than two fifths of the line
and the text does not fit in the rest. -/
def textBelow (widest textWidth : Nat) : Bool :=
  let taken := widest + 12
  lineWidth ≥ taken && taken * 5 > lineWidth * 2 && textWidth > lineWidth - taken

/-- The notes after an argument's text: its environment variable with its current value, and
its default, quoted when it is empty or holds a blank. -/
def Arg.notes (a : Arg) (env : String → Option String) : List String :=
  let envNote := a.env.map fun name => "[env: " ++ name ++ "=" ++ (env name).getD "" ++ "]"
  let defaultNote := a.default.map fun d =>
    "[default: " ++ (if d.isEmpty || d.any Char.isWhitespace then Text.quote d else d) ++ "]"
  envNote.toList ++ defaultNote.toList

/-- An argument's entry in the table: its short name or room for one, then `--long` and its
value's name. -/
def Arg.entry (a : Arg) : String :=
  (match a.short with
    | some c => "-" ++ String.singleton c ++ ", "
    | none => "    ") ++ a.display

def Arg.text (a : Arg) (env : String → Option String) : String :=
  " ".intercalate ((if a.doc.isEmpty then [] else [a.doc]) ++ a.notes env)

/-- Lays out a table's rows: entry, then text. `widest` and `widths` measure the entries as the
layout rule counts them. -/
def table (rows : List (String × String × Nat)) (widest : Nat) (below : Bool) : String :=
  "\n".intercalate (rows.map fun (entry, text, width) =>
    if below then "  " ++ entry ++ "\n" ++ blanks 10 ++ text
    else "  " ++ entry ++ blanks (widest + 2 - width) ++ text)

def Spec.argTable (s : Spec) (env : String → Option String) : String :=
  let widest := s.args.foldl (fun w a => max w a.display.length) 2
  let below := s.args.any fun a =>
    textBelow widest (a.doc.length + (" ".intercalate (a.notes env)).length)
  table (s.args.map fun a => (a.entry, a.text env, a.display.length)) widest below

def Tool.commandTable (t : Tool) : String :=
  let rows := t.commands.map (fun (name, s) => (name, s.about.getD "")) ++ [("help", helpCommandAbout)]
  let widest := rows.foldl (fun w r => max w r.1.length) 0
  let below := rows.any fun r => textBelow widest r.2.length
  let padded := rows.map fun (name, text) =>
    if below then "  " ++ name ++ "\n" ++ blanks 10 ++ text
    else "  " ++ name ++ blanks (widest + 2 - name.length) ++ text
  "\n".intercalate padded

/-- The help of a command, with the table of the program's commands when it has some. -/
def Spec.helpText (s : Spec) (commands : Option Tool) (env : String → Option String) : String :=
  let head := match s.about with
    | some about => about ++ "\n\n"
    | none => ""
  let usage := "Usage: " ++ s.usage commands.isSome ++ "\n\n"
  let sections :=
    (commands.map fun t => "Commands:\n" ++ t.commandTable).toList ++
    (if s.args.isEmpty then [] else ["Options:\n" ++ s.argTable env])
  head ++ usage ++ "\n\n".intercalate sections ++ "\n"

def helpCommandHelp (program : String) : String :=
  helpCommandAbout ++ "\n\nUsage: " ++ program ++ " help [COMMAND]...\n\nArguments:\n" ++
    "  [COMMAND]...  Print help for the subcommand(s)\n"

def helpCommandUsage (program : String) : String := program ++ " help [COMMAND]..."

def Tool.helpText (t : Tool) (env : String → Option String) : String :=
  t.root.helpText (if t.commands.isEmpty then none else some t) env

end TurnLedger.Command
