import TurnLedger.Program.Run
import TurnLedger.Command.Parse
import TurnLedger.Queue.Pass
import TurnLedger.Queue.Document
import TurnLedger.Server.Settings
import TurnLedger.Classify.Load
import TurnLedger.Classify.RuleSet
import TurnLedger.Activity.Decode
import TurnLedger.Decimal.Layout

/-!
# The ledger tool

The operator's command-line tool over the fallback queue, the database and the classifier. Its
own arguments name the database file (or the `AGENTLEDGER_DB_PATH` setting, or
`./agentledger.db`), the queue directory (resolved as the queue's location rule says), and
whether to answer in JSON; they come before the command:

* `flush` replays the queue into the database once, reading the host's clock;
* `enqueue` puts one record, read from a file or standard input, into today's queue file;
* `status` lists the queue files with their pending and malformed entries;
* `classify` classifies a turn with the built-in rules or a rule file, storing nothing;
* `summary` totals the stored records that pass the given filters.

Text answers end in a newline; JSON answers are compact for one object and spread over lines
for reports, listings and summaries.
-/

namespace TurnLedger.Program.Ledger

open Command Store Files

def toolName : String := "agentledger"

def tool : Tool where
  root := {
    usageName := toolName
    about := some "Agentledger - agent activity ledger tools"
    args := [
      { id := "db_path", long := "db-path", short := some 'd', takes := .single "DB_PATH" .path
        doc := "SQLite database path", env := some "AGENTLEDGER_DB_PATH"
        default := some "./agentledger.db" },
      { id := "queue_dir", long := "queue-dir", short := some 'q', takes := .single "QUEUE_DIR" .path
        doc := "Fallback queue directory (default: $AGENTLEDGER_QUEUE_DIR or ~/.agentledger/queue)" },
      { id := "verbose", long := "verbose", short := some 'v', takes := .switch, doc := "Verbose mode" },
      { id := "json", long := "json", takes := .switch, doc := "Output as JSON (machine-readable)" },
      helpArg] }
  commands := [
    ("flush", { usageName := toolName ++ " flush"
                about := some "Replay buffered activities into the database", args := [helpArg] }),
    ("enqueue", { usageName := toolName ++ " enqueue"
                  about := some "Buffer an activity record (JSON) for later replay"
                  args := [
                    { id := "file", long := "file", takes := .single "FILE" .path
                      doc := "File containing the record; reads stdin when omitted" },
                    helpArg] }),
    ("status", { usageName := toolName ++ " status"
                 about := some "Show pending entries per queue file", args := [helpArg] }),
    ("classify", { usageName := toolName ++ " classify"
                   about := some "Classify a turn without storing anything"
                   args := [
                     { id := "prompt", long := "prompt", takes := .single "PROMPT" .text
                       doc := "Prompt text", default := some "" },
                     { id := "assistant", long := "assistant", takes := .single "ASSISTANT" .text
                       doc := "Assistant response text", default := some "" },
                     { id := "tools", long := "tool", takes := .repeated "TOOLS" .text
                       doc := "Tool used during the turn (repeatable, in order)" },
                     { id := "rules", long := "rules", takes := .single "RULES" .path
                       doc := "Category rule file (JSON or TOML)", env := some "AGENTLEDGER_RULES_PATH" },
                     helpArg] }),
    ("summary", { usageName := toolName ++ " summary"
                  about := some "Aggregate stored activities"
                  args := [
                    { id := "project", long := "project", takes := .single "PROJECT" .text
                      doc := "Filter by project tag" },
                    { id := "model", long := "model", takes := .single "MODEL" .text
                      doc := "Filter by model" },
                    { id := "date", long := "date", takes := .single "DATE" .text
                      doc := "Filter by day (YYYY-MM-DD, UTC)" },
                    helpArg] })]

def flush (dbPath queueDir : Path) (json : Bool) : Run Outcome := do
  let site ← openStore dbPath "Failed to open database"
  let (result, site) := Queue.flush queueDir .host [] false site
  keepSite site
  match result with
  | .ok report =>
    return .printed (if json then report.toValue.pretty ++ "\n"
      else "✓ Flushed " ++ toString report.flushed ++ " entries (" ++ toString report.retained ++
        " retained, " ++ toString report.malformed ++ " malformed)\n")
  | .error e => fail (e.message :: e.causes)

def payloadText (stdin : ByteArray) : Option Path → Run String
  | some path => do
    match (← get).volume.readText path with
    | .ok text => return text
    | .error f => fail ["reading " ++ path, f.message]
  | none =>
    match String.fromUTF8? stdin with
    | some text => return text
    | none => fail [IoFailure.invalidUtf8.message]

def enqueue (stdin : ByteArray) (file : Option Path) (queueDir : Path) (json : Bool) : Run Outcome := do
  let payload := Text.trim (← payloadText stdin file)
  if payload.isEmpty then fail ["empty activity payload"]
  let record ← match Activity.Record.ofJsonText payload with
    | .ok r => pure r
    | .error e => fail ["activity payload is not a valid record", e.message]
  let now ← readClock
  match Queue.enqueue (← get).volume queueDir record now with
  | .ok (volume, path) =>
    modify fun h => { h with volume := volume }
    return .printed (if json
      then (Json.Value.object [("queue_file", .string path), ("queued", .bool true)]).compact ++ "\n"
      else "✓ Queued activity in " ++ path ++ "\n")
  | .error e => fail (e.message :: e.causes)

def status (queueDir : Path) (json : Bool) : Run Outcome := do
  match Queue.inspect (← get).volume queueDir with
  | .error e => fail (e.message :: e.causes)
  | .ok files =>
    if json then return .printed ((Json.Value.array (files.map Queue.FileStatus.toValue)).pretty ++ "\n")
    else if files.isEmpty then return .printed ("Queue is empty (" ++ queueDir ++ ")\n")
    else
      let lines := files.map fun f =>
        "  " ++ (fileName f.path).getD "" ++ "  " ++ toString f.entries ++ " pending (" ++
          toString f.malformed ++ " malformed)\n"
      let total := files.foldl (fun n f => n + f.entries) 0
      return .printed ("Queue: " ++ queueDir ++ "\n" ++ String.join lines ++ "Total: " ++
        toString total ++ " pending\n")

def classifyTurn (given : List Given) (json : Bool) : Run Outcome := do
  let rules ← match valueOf? given "rules" with
    | some path =>
      match Classify.RuleSet.ofFile (← get).volume path with
      | .ok rules => pure rules
      | .error e => fail (("loading rules from " ++ path) :: e.message :: e.causes)
    | none => pure Classify.builtinRules
  let signals : Classify.Signals :=
    { promptText := (valueOf? given "prompt").getD ""
      assistantText := (valueOf? given "assistant").getD ""
      toolsUsed := valuesOf given "tools" }
  let c := Classify.classify signals rules
  return .printed (if json
    then (Json.Value.object [("category", .string c.category), ("reason", .string c.reason.text)]).compact ++ "\n"
    else c.display ++ "\n")

def costText (x : Float) : String :=
  if x.isNaN then "NaN"
  else if x.isInf then (if x < 0 then "-inf" else "inf")
  else Decimal.fixed 4 x

def padRight (width : Nat) (text : String) : String :=
  text ++ String.ofList (List.replicate (width - text.length) ' ')

def summaryText (s : Activity.Summary) : String :=
  "Activities:   " ++ toString s.count ++ "\n" ++
  "Tokens in:    " ++ toString s.tokensIn ++ "\n" ++
  "Tokens out:   " ++ toString s.tokensOut ++ "\n" ++
  "Cost (USD):   " ++ costText s.cost ++ "\n" ++
  "Duration:     " ++ toString s.durationMs ++ " ms\n" ++
  String.join (s.byStatus.map fun (status, n) => "  " ++ padRight 10 status ++ " " ++ toString n ++ "\n")

def summary (dbPath : Path) (filters : Activity.Filters) (json : Bool) : Run Outcome := do
  let site ← openStore dbPath "Failed to open database"
  match site.summarize filters with
  | .ok s => return .printed (if json then s.toValue.pretty ++ "\n" else summaryText s)
  | .error (.halted m) => return .halted m
  | .error e => fail (e.message :: e.causes)

def run (inv : Invocation) (home : Path) : Run Outcome := do
  let env := inv.lookup home
  match tool.read env inv.args with
  | .show text => return .printed text
  | .helpInstead text => return { exit := 2, stderr := text }
  | .refuse e => return .refused e
  | .run given command =>
    let dbPath := (valueOf? given "db_path").getD "./agentledger.db"
    let queueDir := Queue.queueDirectory (valueOf? given "queue_dir") (env Queue.queueDirVariable)
      ((env "HOME").getD "")
    let json := switchOn given "json"
    match command with
    | some ("flush", _) => flush dbPath queueDir json
    | some ("enqueue", g) => enqueue inv.stdin (valueOf? g "file") queueDir json
    | some ("status", _) => status queueDir json
    | some ("classify", g) => classifyTurn g json
    | some ("summary", g) =>
      summary dbPath { projectTag := valueOf? g "project", model := valueOf? g "model",
                       date := valueOf? g "date" } json
    | _ => return .printed ""

end TurnLedger.Program.Ledger
