import TurnLedger.Command.Failure
import TurnLedger.Text.Similarity

/-!
# Reading a command line

The words are read left to right. A word that names a command starts that command, and the
rest of the line belongs to it; `help` instead prints the help of the commands it names. `--`
ends the arguments. A long argument is `--name` or `--name=value`; a short cluster `-abc` sets
switches until a short option takes the rest of the cluster (after an optional `=`) as its
value. An option without an attached value takes the next word unless that word is a command or
looks like an argument; its value is checked when the next argument arrives or the line ends,
so that asking for help after an option still finds a missing value. After the line come the
environment variables and then the defaults of the arguments not given.

An unknown long argument is answered with the most similar known one, by Jaro similarity above
0.7, and failing that with a similar argument of a command named later on the line. A word
where a command must stand is answered with the similar command names.
-/

namespace TurnLedger.Command

inductive Source where
  | line
  | environment
  | fallback
  deriving DecidableEq, Repr

structure Given where
  arg : Arg
  values : List String
  source : Source
  deriving Repr

inductive Request where
  /-- Run with the program's arguments and, if it has commands, the command's. -/
  | run (given : List Given) (command : Option (String × List Given))
  | show (text : String)
  | helpInstead (text : String)
  | refuse (e : UsageError)

inductive Stop where
  | show (text : String)
  | helpInstead (text : String)
  | refuse (e : UsageError)

/-- The state of reading one level: the arguments given so far in order, the option waiting for
its value (and the value, once read), and whether `--` was passed. -/
structure State where
  given : List Given := []
  pending : Option (Arg × Option String) := none
  escaped : Bool := false

def State.has (st : State) (a : Arg) : Bool := st.given.any (·.arg.id == a.id)

def State.explicit (st : State) : List Arg :=
  (st.given.filter (·.source != .fallback)).map (·.arg)

def State.add (st : State) (a : Arg) (values : List String) (source : Source) : State :=
  if st.has a then
    { st with given := st.given.map fun g =>
        if g.arg.id == a.id then { g with values := g.values ++ values, source := source } else g }
  else { st with given := st.given ++ [⟨a, values, source⟩] }

def mostSimilar (word : String) (candidates : List String) : Option String :=
  (candidates.foldl (fun best c =>
    let score := Text.jaro word c
    if score > 0.7 then
      match best with
      | some (s, _) => if score ≥ s then some (score, c) else best
      | none => some (score, c)
    else best) none).map (·.2)

def similarAll (word : String) (candidates : List String) : List String :=
  let scored := candidates.filterMap fun c =>
    let score := Text.jaro word c
    if score > 0.7 then some (score, c) else none
  (scored.mergeSort fun x y => decide (x.1 ≤ y.1)).map (·.2)

def parseCount (v : String) : Except String Nat :=
  let cs := v.toList
  if cs.isEmpty then .error "cannot parse integer from empty string"
  else
    let ds := if cs.head? == some '+' then cs.drop 1 else cs
    if ds.isEmpty || !ds.all Char.isDigit then .error "invalid digit found in string"
    else
      let n := ds.foldl (fun acc c => acc * 10 + (c.toNat - 48)) 0
      if n < Nat.pow 2 64 then .ok n else .error "number too large to fit in target type"

def switchValues : List String := ["true", "false"]

def checkValue (a : Arg) (v : String) : Except UsageError Unit :=
  match a.takes with
  | .single _ kind | .repeated _ kind =>
    match kind with
    | .text => .ok ()
    | .path => if v.isEmpty then .error (.invalidValue "" a.display [] none) else .ok ()
    | .count =>
      match parseCount v with
      | .ok _ => .ok ()
      | .error reason => .error (.malformedValue v a.display reason)
  | .switch =>
    if switchValues.contains v then .ok ()
    else .error (.invalidValue v a.display switchValues (mostSimilar v switchValues))
  | _ => .ok ()

def State.take (st : State) (usage : String) (a : Arg) (values : List String) (source : Source) :
    Except UsageError State := do
  if source == .line && a.takesValue && values.isEmpty then
    throw (.invalidValue "" a.display [] none)
  if a.once && st.has a then throw (.givenTwice a.display usage)
  let values := if a.takes == .switch && source == .line then ["true"] else values
  values.forM (checkValue a)
  return st.add a values source

/-- Takes the waiting option with its value; a waiting option without one is an error. -/
def State.settle (st : State) (usage : String) : Except UsageError State :=
  match st.pending with
  | none => .ok st
  | some (a, none) => .error (.invalidValue "" a.display [] none)
  | some (a, some v) => { st with pending := none }.take usage a [v] .line

/-- The arguments a usage line names after an unknown argument: those given, and the waiting
option once it has its value. -/
def State.usedSoFar (st : State) : List Arg :=
  match st.pending with
  | some (a, some _) =>
    if st.has a then (if a.once then st.explicit.filter (·.id != a.id) else st.explicit)
    else st.explicit ++ [a]
  | _ => st.explicit

structure Level where
  tool : Tool
  spec : Spec
  atRoot : Bool
  env : String → Option String

def Level.commandNames (lv : Level) : List String := if lv.atRoot then lv.tool.commandNames else []

def Level.needsCommand (lv : Level) : Bool := !lv.commandNames.isEmpty

def Level.usage (lv : Level) : String := lv.spec.usage lv.needsCommand

def Level.help (lv : Level) : String :=
  if lv.atRoot then lv.tool.helpText lv.env else lv.spec.helpText none lv.env

def Level.version (lv : Level) : String := if lv.atRoot then lv.tool.version.getD "" else ""

def Spec.longs (s : Spec) : List String := s.args.map (·.long)

/-- The refusal of an unknown long argument `--name`, `rest` being the words after it. -/
def Level.unknownLong (lv : Level) (st : State) (name : String) (rest : List String) : UsageError :=
  let used := st.usedSoFar
  match mostSimilar name lv.spec.longs with
  | some long =>
    let used := match lv.spec.byLong long with
      | some a => if used.any (·.id == a.id) then used else used ++ [a]
      | none => used
    .unknownArgument ("--" ++ name) (some (.similar ("--" ++ long)))
      (lv.spec.usageWith lv.needsCommand used)
  | none =>
    let commands := if lv.atRoot then lv.tool.commands else []
    let found := commands.filterMap fun (command, s) => do
      let long ← mostSimilar name s.longs
      let place ← rest.idxOf? command
      return (place, command, long)
    let best := found.foldl (fun best x =>
      match best with
      | some b => if x.1 < b.1 then some x else best
      | none => some x) none
    .unknownArgument ("--" ++ name) (best.map fun (_, command, long) => .inCommand command ("--" ++ long))
      (lv.spec.usageWith lv.needsCommand used)

def Level.stray (lv : Level) (st : State) (word : String) : UsageError :=
  let names := lv.commandNames
  if st.escaped && names.contains word then
    .unknownArgument word (some (.escapedCommand word)) lv.usage
  else
    let similar := similarAll word names
    if !similar.isEmpty then .unknownCommand word similar lv.usage
    else if lv.needsCommand then .unknownCommand word [] lv.usage
    else .unknownArgument word none lv.usage

def helpFor (t : Tool) (env : String → Option String) (names : List String) : Stop :=
  let program := t.root.usageName
  match names with
  | [] => .show (t.helpText env)
  | name :: rest =>
    if name == "help" then
      match rest with
      | [] => .show (helpCommandHelp program)
      | other :: _ => .refuse (.unknownCommand other [] (helpCommandUsage program))
    else
      match t.commands.lookup name with
      | some s =>
        match rest with
        | [] => .show (s.helpText none env)
        | other :: _ => .refuse (.unknownCommand other [] (s.usage false))
      | none => .refuse (.unknownCommand name [] (t.root.usage true))

def Level.cluster (lv : Level) (st : State) : List Char → Except Stop State
  | [] => .ok st
  | c :: more =>
    let settle := fun (st : State) => (st.settle lv.usage).mapError Stop.refuse
    match lv.spec.byShort c with
    | none => .error (.refuse (.unknownArgument ("-" ++ String.singleton c) none lv.usage))
    | some a =>
      match a.takes with
      | .help => do let _ ← settle st; throw (.show lv.help)
      | .version => do let _ ← settle st; throw (.show lv.version)
      | .switch => do
        let st ← settle st
        let st ← (st.take lv.usage a [] .line).mapError Stop.refuse
        lv.cluster st more
      | _ => do
        let st ← settle st
        if more.isEmpty then return { st with pending := some (a, none) }
        else
          let value := String.ofList (if more.head? == some '=' then more.drop 1 else more)
          (st.take lv.usage a [value] .line).mapError Stop.refuse

/-- The end of a level: the waiting option, the environment, the defaults, and the command that
must have been named. -/
def Level.finish (lv : Level) (st : State) (command : Option (String × List Given)) :
    Except Stop (List Given × Option (String × List Given)) := do
  let refuse := fun (e : UsageError) => Stop.refuse e
  let st ← (st.settle lv.usage).mapError refuse
  let st ← lv.spec.args.foldlM (fun st a =>
    match a.env with
    | some name =>
      if st.has a then pure st
      else match lv.env name with
        | some v => (st.take lv.usage a [v] .environment).mapError refuse
        | none => pure st
    | none => pure st) st
  let st := lv.spec.args.foldl (fun st a =>
    match a.default with
    | some d => if st.has a then st else st.add a [d] .fallback
    | none => st) st
  if lv.needsCommand && command.isNone then
    if st.explicit.isEmpty then throw (.helpInstead lv.help)
    else
      throw (.refuse (.missingCommand lv.spec.usageName lv.commandNames lv.usage))
  return (st.given, command)

def splitAttached (body : String) : String × Option String :=
  match body.splitOn "=" with
  | [] => (body, none)
  | [name] => (name, none)
  | name :: rest => (name, some ("=".intercalate rest))

def Level.read (lv : Level) (st : State) :
    List String → Except Stop (List Given × Option (String × List Given))
  | [] => lv.finish st none
  | word :: rest =>
    let settle := fun (st : State) => (st.settle lv.usage).mapError Stop.refuse
    if !st.escaped && lv.commandNames.contains word then
      if word == "help" then .error (helpFor lv.tool lv.env rest)
      else do
        let spec := (lv.tool.commands.lookup word).getD lv.tool.root
        let inner ← (Level.mk lv.tool spec false lv.env).read {} rest
        lv.finish st (some (word, inner.1))
    else if st.escaped then .error (.refuse (lv.stray st word))
    else if word == "--" then lv.read { st with escaped := true } rest
    else if word.startsWith "--" then
      let (name, attached) := splitAttached (word.drop 2).toString
      match lv.spec.byLong name with
      | none => .error (.refuse (lv.unknownLong st name rest))
      | some a =>
        if !a.takesValue then
          match attached with
          | some v =>
            .error (.refuse (.unexpectedValue v a.display
              (lv.spec.usageWith lv.needsCommand (st.explicit ++ [a]))))
          | none =>
            match a.takes with
            | .help => do let _ ← settle st; throw (.show lv.help)
            | .version => do let _ ← settle st; throw (.show lv.version)
            | _ => do
              let st ← settle st
              let st ← (st.take lv.usage a [] .line).mapError Stop.refuse
              lv.read st rest
        else do
          let st ← settle st
          match attached with
          | some v =>
            let st ← (st.take lv.usage a [v] .line).mapError Stop.refuse
            lv.read st rest
          | none => lv.read { st with pending := some (a, none) } rest
    else if word.startsWith "-" && word.length > 1 then do
      let st ← lv.cluster st (word.toList.drop 1)
      lv.read st rest
    else
      match st.pending with
      | some (a, none) => lv.read { st with pending := some (a, some word) } rest
      | _ => .error (.refuse (lv.stray st word))

/-- Reads a program's command line against its grammar, with the environment's variables. -/
def Tool.read (t : Tool) (env : String → Option String) (words : List String) : Request :=
  let lv : Level := ⟨t, t.root, true, env⟩
  match lv.read {} words with
  | .ok (given, command) => .run given command
  | .error (.show text) => .show text
  | .error (.helpInstead text) => .helpInstead text
  | .error (.refuse e) => .refuse e

def valuesOf (given : List Given) (id : String) : List String :=
  ((given.find? (·.arg.id == id)).map (·.values)).getD []

def valueOf? (given : List Given) (id : String) : Option String := (valuesOf given id).head?

def switchOn (given : List Given) (id : String) : Bool := valueOf? given id == some "true"

end TurnLedger.Command
