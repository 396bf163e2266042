import TurnLedger.Toml.Decode
import TurnLedger.Files.Volume
import TurnLedger.Net.SocketAddr
import TurnLedger.Json.Value
import TurnLedger.Files.Path
import TurnLedger.Text.Blank

/-!
# Server configuration

The server reads its settings from an optional TOML file, then lets environment variables
override them: `AGENTLEDGER_HTTP_ADDR`, `AGENTLEDGER_DB_PATH`, `AGENTLEDGER_QUEUE_DIR`,
`AGENTLEDGER_FLUSH_INTERVAL` (whole seconds; anything else is ignored) and
`AGENTLEDGER_RULES_PATH`, each trimmed and ignored when blank. A configuration is valid when its
listen address is a socket address, its database path is not empty, and its rules file, if
named, exists. The queue directory is one given explicitly (any non-empty text), else the
queue setting when not blank, else `.agentledger/queue` under the home directory.
-/

namespace TurnLedger.Queue

def queueDirVariable : String := "AGENTLEDGER_QUEUE_DIR"

/-- The queue directory from an explicit choice, the setting and the home directory. -/
def queueDirectory (explicit : Option String) (setting : Option String) (home : String) :
    Files.Path :=
  match explicit.filter (!·.isEmpty) with
  | some dir => dir
  | none =>
    match setting.filter (!Text.isBlankText ·) with
    | some value => Text.trim value
    | none => Files.join (Files.join home ".agentledger") "queue"

end TurnLedger.Queue

namespace TurnLedger.Server

open Toml

structure Config where
  listenAddr : String := "127.0.0.1:18730"
  enableCors : Bool := true
  dbPath : String := "./agentledger.db"
  queueDir : Option String := none
  flushOnStartup : Bool := true
  flushIntervalSecs : Nat := 300
  rulesPath : Option String := none
  deriving Repr

def httpAddrVariable : String := "AGENTLEDGER_HTTP_ADDR"
def dbPathVariable : String := "AGENTLEDGER_DB_PATH"
def flushIntervalVariable : String := "AGENTLEDGER_FLUSH_INTERVAL"
def rulesPathVariable : String := "AGENTLEDGER_RULES_PATH"

def serverVariables : List String :=
  [httpAddrVariable, dbPathVariable, Queue.queueDirVariable, flushIntervalVariable, rulesPathVariable]

def tomlPath (item : Item) : Decoded String := item.readString "path string"

def tomlHttp (item : Item) (c : Config) : Decoded Config :=
  item.readRecord "struct HttpServerConfig" [
    ⟨"listen_addr", fun v c => (v.readString "a string").map fun s => { c with listenAddr := s }⟩,
    ⟨"enable_cors", fun v c => v.readBool.map fun b => { c with enableCors := b }⟩]
    { c with listenAddr := "127.0.0.1:18730", enableCors := true }

def tomlStorage (item : Item) (c : Config) : Decoded Config :=
  item.readRecord "struct StorageConfig" [
    ⟨"db_path", fun v c => (tomlPath v).map fun s => { c with dbPath := s }⟩]
    { c with dbPath := "./agentledger.db" }

def tomlQueue (item : Item) (c : Config) : Decoded Config :=
  item.readRecord "struct QueueConfig" [
    ⟨"dir", fun v c => (tomlPath v).map fun s => { c with queueDir := some s }⟩,
    ⟨"flush_on_startup", fun v c => v.readBool.map fun b => { c with flushOnStartup := b }⟩,
    ⟨"flush_interval_secs", fun v c => v.readCount.map fun n => { c with flushIntervalSecs := n }⟩]
    { c with queueDir := none, flushOnStartup := true, flushIntervalSecs := 300 }

def tomlClassifier (item : Item) (c : Config) : Decoded Config :=
  item.readRecord "struct ClassifierConfig" [
    ⟨"rules_path", fun v c => (tomlPath v).map fun s => { c with rulesPath := some s }⟩]
    { c with rulesPath := none }

def tomlConfig (item : Item) : Decoded Config :=
  item.readRecord "struct ServerConfig" [
    ⟨"server", tomlHttp⟩, ⟨"storage", tomlStorage⟩, ⟨"queue", tomlQueue⟩,
    ⟨"classifier", tomlClassifier⟩] {}

def Config.ofTomlText (text : String) : Except String Config := decodeDocument tomlConfig text

/-- A whole number of seconds: an optional `+` and decimal digits, below `2 ^ 64`. -/
def parseSeconds (s : String) : Option Nat :=
  let cs := s.toList
  let ds := if cs.head? == some '+' then cs.drop 1 else cs
  if ds.isEmpty || !ds.all Char.isDigit then none
  else
    let n := ds.foldl (fun acc c => acc * 10 + (c.toNat - 48)) 0
    if n < Nat.pow 2 64 then some n else none

/-- The configuration with the environment's overrides, `lookup` giving variables. -/
def Config.withEnvironment (c : Config) (lookup : String → Option String) : Config :=
  let value := fun name => ((lookup name).map Text.trim).filter (!·.isEmpty)
  let c := match value httpAddrVariable with | some a => { c with listenAddr := a } | none => c
  let c := match value dbPathVariable with | some p => { c with dbPath := p } | none => c
  let c := match value Queue.queueDirVariable with | some d => { c with queueDir := some d } | none => c
  let c := match (value flushIntervalVariable).bind parseSeconds with
    | some n => { c with flushIntervalSecs := n }
    | none => c
  match value rulesPathVariable with | some p => { c with rulesPath := some p } | none => c

def Config.fromEnvironment (lookup : String → Option String) : Config := ({} : Config).withEnvironment lookup

/-- Loads the configuration: the file if one is named and exists, else the defaults, then the
environment's overrides. A file that exists but cannot be read or decoded is an error. -/
def Config.load (volume : Files.Volume) (file : Option String) (lookup : String → Option String) :
    Except String Config := do
  let base ← match file with
    | some path =>
      if volume.existsAt path then
        match volume.readText path with
        | .error e => .error e.message
        | .ok text => Config.ofTomlText text
      else .ok {}
    | none => .ok {}
  .ok (base.withEnvironment lookup)

def Config.listenAddress (c : Config) : Except String Net.SocketAddr :=
  match Net.SocketAddr.parse c.listenAddr with
  | some a => .ok a
  | none => .error Net.invalidSocketAddr

def Config.validate (c : Config) (volume : Files.Volume) : Except String Unit :=
  match c.listenAddress with
  | .error e => .error ("invalid listen_addr " ++ Text.quote c.listenAddr ++ ": " ++ e)
  | .ok _ =>
    if c.dbPath.isEmpty then .error "storage.db_path must not be empty"
    else match c.rulesPath with
      | some p => if volume.existsAt p then .ok () else .error ("classifier rules file not found: " ++ p)
      | none => .ok ()

def Config.resolvedQueueDir (c : Config) (lookup : String → Option String) (home : String) : String :=
  Queue.queueDirectory c.queueDir (lookup Queue.queueDirVariable) home

def Config.toJson (c : Config) : Json.Value :=
  let opt := fun (o : Option String) => match o with | some s => Json.Value.string s | none => .null
  .object [
    ("server", .object [("listen_addr", .string c.listenAddr), ("enable_cors", .bool c.enableCors)]),
    ("storage", .object [("db_path", .string c.dbPath)]),
    ("queue", .object [("dir", opt c.queueDir), ("flush_on_startup", .bool c.flushOnStartup),
      ("flush_interval_secs", .number (.unsigned c.flushIntervalSecs))]),
    ("classifier", .object [("rules_path", opt c.rulesPath)])]

end TurnLedger.Server
