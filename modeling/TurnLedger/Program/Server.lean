import TurnLedger.Program.Run
import TurnLedger.Command.Parse
import TurnLedger.Server.Settings
import TurnLedger.Queue.Pass
import TurnLedger.Classify.Load

/-!
# Starting the server

The server takes its settings from an optional configuration file and the environment, then
lets its arguments override them. It checks the settings, opens the database, loads the rule
file if one is named, and (unless told not to) replays the queue once, reading the host's clock;
a failed replay does not stop it. Then it binds its listening socket. No host here grants that,
so every start that gets this far ends with the refusal, after its replay has taken effect.
-/

namespace TurnLedger.Program.Server

open Command Store Files

def programName : String := "agentledger-server"

def tool : Tool where
  root := {
    usageName := programName
    args := [
      { id := "config", long := "config", short := some 'c', takes := .single "CONFIG" .path
        doc := "Path to configuration file (TOML)" },
      { id := "http_addr", long := "http-addr", takes := .single "HTTP_ADDR" .text
        doc := "HTTP listen address (overrides config file)" },
      { id := "db_path", long := "db-path", takes := .single "DB_PATH" .path
        doc := "SQLite database path (overrides config file)" },
      { id := "queue_dir", long := "queue-dir", takes := .single "QUEUE_DIR" .path
        doc := "Fallback queue directory (overrides config file)" },
      { id := "flush_interval", long := "flush-interval", takes := .single "FLUSH_INTERVAL" .count
        doc := "Seconds between scheduled queue replays, 0 to disable" },
      { id := "no_startup_flush", long := "no-startup-flush", takes := .switch
        doc := "Skip the queue replay at startup" },
      { id := "rules", long := "rules", takes := .single "RULES" .path
        doc := "Category rule file (JSON or TOML)" },
      { id := "log_json", long := "log-json", takes := .switch, doc := "Emit logs as JSON lines"
        env := some "AGENTLEDGER_LOG_JSON" },
      helpArg,
      versionArg] }
  version := some (programName ++ " 0.1.0\n")

def withArguments (c : Server.Config) (given : List Given) : Server.Config :=
  let c := match valueOf? given "http_addr" with | some a => { c with listenAddr := a } | none => c
  let c := match valueOf? given "db_path" with | some p => { c with dbPath := p } | none => c
  let c := match valueOf? given "queue_dir" with | some d => { c with queueDir := some d } | none => c
  let c := match (valueOf? given "flush_interval").bind fun v => (parseCount v).toOption with
    | some n => { c with flushIntervalSecs := n }
    | none => c
  let c := if switchOn given "no_startup_flush" then { c with flushOnStartup := false } else c
  match valueOf? given "rules" with | some p => { c with rulesPath := some p } | none => c

def bindRefusal : String := "Permission denied (os error 13)"

def start (c : Server.Config) (env : String → Option String) (home : Path) : Run Outcome := do
  match c.validate (← get).volume with
  | .error e => fail [e]
  | .ok () => pure ()
  let addr ← match c.listenAddress with
    | .ok a => pure a
    | .error e => fail [e]
  let site ← openStore c.dbPath ("opening activity database " ++ c.dbPath)
  match c.rulesPath with
  | some path =>
    match Classify.RuleSet.ofFile (← get).volume path with
    | .ok _ => pure ()
    | .error e => fail (("loading category rules from " ++ path) :: e.message :: e.causes)
  | none => pure ()
  if c.flushOnStartup then
    let (_, site) := Queue.flush (c.resolvedQueueDir env home) .host [] false site
    keepSite site
  fail ["binding " ++ addr.text, bindRefusal]

def run (inv : Invocation) (home : Path) : Run Outcome := do
  let env := inv.lookup home
  match tool.read env inv.args with
  | .show text => return .printed text
  | .helpInstead text => return { exit := 2, stderr := text }
  | .refuse e => return .refused e
  | .run given _ =>
    match Server.Config.load (← get).volume (valueOf? given "config") env with
    | .error e => fail [e]
    | .ok c => start (withArguments c given) env home

end TurnLedger.Program.Server
