import TurnLedger.Program.Ledger
import TurnLedger.Program.Server
import Std.Time

/-!
# The command line

`main` runs the ledger tool on its words, or, when the first word is `server`, starts the
server with the rest. The run gets standard input, the variables the programs read, and the
clock; it works on a host whose file system starts empty, with the root as working directory.
-/

namespace TurnLedger.Main

def variableNames : List String :=
  ["HOME", "AGENTLEDGER_DB_PATH", "AGENTLEDGER_QUEUE_DIR", "AGENTLEDGER_RULES_PATH",
   "AGENTLEDGER_HTTP_ADDR", "AGENTLEDGER_FLUSH_INTERVAL", "AGENTLEDGER_LOG_JSON"]

def chooseProgram : List String → (Program.Invocation → Files.Path → Program.Run Program.Outcome) × List String
  | "server" :: rest => (Program.Server.run, rest)
  | words => (Program.Ledger.run, words)

end TurnLedger.Main

open TurnLedger in
def main (args : List String) : IO UInt32 := do
  let stdin ← (← IO.getStdin).readBinToEnd
  let env ← Main.variableNames.filterMapM fun name => do
    return (← IO.getEnv name).map fun value => (name, value)
  let now ← Std.Time.Timestamp.now
  let nanos := now.toNanosecondsSinceUnixEpoch.val
  let clock : Time.Instant := ⟨nanos.fdiv 1000000000, (nanos.fmod 1000000000).toNat / 1000 * 1000⟩
  let (program, words) := Main.chooseProgram args
  let home := ((env.lookup "HOME").getD "")
  let (outcome, _) := (program { args := words, stdin, env } home).exec { stamps := { clock := clock } }
  IO.print outcome.stdout
  IO.eprint outcome.stderr
  return outcome.exit.toUInt32
