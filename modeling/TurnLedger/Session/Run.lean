import TurnLedger.Session.Step

/-!
# Running a session

A session is set up in a directory: its queue directory `queue` is created (or left out, or a
plain file put in its place), and then its store is opened: in memory, in a private database,
or in a database file below the directory. The session's directory is the working directory of
the programs it runs, and its `home` directory their home. The replay clock of its flush steps
is fixed; the API, the periodic replay and the programs read the host's clock.

Steps on the memory store's fault injection need the memory store. A flush step may cancel
its pass before it starts or when a given session's record reaches the store, and may make a
queue file vanish or turn into a directory at that moment. A periodic replay that runs for at
least one interval does one pass (later passes find nothing new); its failures are not shown.
-/

namespace TurnLedger.Session

open Activity Store Files

inductive StoreChoice where
  | memory
  /-- A database, private or in the file at this path below the session directory. -/
  | database (file : Option String)

structure Setup where
  dir : Path
  store : StoreChoice := .memory
  createQueueDir : Bool := true
  queueIsFile : Bool := false
  clock : Time.Instant
  rules : Classify.RuleSet

structure State where
  site : Site
  dir : Path
  queueDir : Path
  clock : Time.Instant
  rules : Classify.RuleSet
  databasePath : Option Path

def defaultClock : Time.Instant := Time.Instant.ofCivil ⟨2026, 3, 1⟩ 12 0 0 0

def State.start (setup : Setup) (host : Host) : Except StoreFault State := do
  let queueDir := join setup.dir "queue"
  let volume :=
    if setup.queueIsFile then (host.volume.writeBytes queueDir ByteArray.empty).toOption.getD host.volume
    else if setup.createQueueDir then (host.volume.createDirAll queueDir).toOption.getD host.volume
    else host.volume
  let host := { host with volume := { volume with cwd := steps setup.dir } }
  let (backend, host, path) ← match setup.store with
    | .memory => pure (Backend.memory {}, host, none)
    | .database none => pure (Backend.database {}, host, none)
    | .database (some file) =>
      let path := join setup.dir file
      let host ← host.openDatabase path true
      pure (Backend.file path, host, some path)
  return { site := ⟨host, backend⟩, dir := setup.dir, queueDir, clock := setup.clock,
           rules := setup.rules, databasePath := path }

def State.service (s : State) : Http.Service := ⟨s.queueDir, s.rules⟩

def State.volume (s : State) : Volume := s.site.host.volume

def State.withVolume (s : State) (v : Volume) : State := { s with site := s.site.withVolume v }

def State.queuePath (s : State) (name : String) : Path := join s.queueDir name

def State.relative (s : State) (p : Path) : String :=
  let front := if s.queueDir.endsWith "/" then s.queueDir else s.queueDir ++ "/"
  if p.startsWith front then (p.drop front.length).toString else p

def needsMemory : Answer := .failed (.badInput "this step needs the memory store")

def State.withMemory (s : State) (f : MemoryStore → MemoryStore) : Answer × State :=
  match s.site.backend with
  | .memory m => (.ok, { s with site := { s.site with backend := .memory (f m) } })
  | _ => (needsMemory, s)

def State.watches (s : State) (cancelOn : Option String)
    (tamper : Option (String × String × Tamper)) : List Queue.Watch :=
  (cancelOn.map fun k => (⟨k, .cancel⟩ : Queue.Watch)).toList ++
  (tamper.map fun (k, name, t) => (⟨k, match t with
    | .delete => .remove (s.queuePath name)
    | .toDirectory => .replaceWithDirectory (s.queuePath name)⟩ : Queue.Watch)).toList

/-- A listing of the queue directory: every path below it, directories ending in `/`. -/
def State.listing (s : State) : List String :=
  (s.volume.below s.queueDir).map fun (ks, n) =>
    "/".intercalate ks ++ match n with
      | .directory => "/"
      | .file _ => ""

def State.runProgram (s : State) (program : Program.Run Program.Outcome) : Answer × State :=
  let (o, host) := program.exec s.site.host
  (.outcome o, { s with site := { s.site with host := host } })

def State.step (s : State) : Step → Answer × State
  | .create r =>
    match s.site.create r with
    | (.ok r, site) => (.record r, { s with site := site })
    | (.error e, site) => (.failed (.store e), { s with site := site })
  | .list f =>
    match s.site.list f with
    | .ok rs => (.records rs, s)
    | .error e => (.failed (.store e), s)
  | .summarize f =>
    match s.site.summarize f with
    | .ok sm => (.summary sm, s)
    | .error e => (.failed (.store e), s)
  | .health => (.health s.site.health, s)
  | .records =>
    match s.site.backend with
    | .memory m => (.records m.records, s)
    | _ => (needsMemory, s)
  | .size =>
    match s.site.backend with
    | .memory m => (.size m.records.length, s)
    | _ => (needsMemory, s)
  | .setUnavailable b => s.withMemory fun m => { m with unavailable := b }
  | .failSessions keys => s.withMemory fun m => { m with rejected := some keys }
  | .clearFailures => s.withMemory fun m => { m with rejected := none }
  | .writeFile name bytes =>
    let path := s.queuePath name
    let v := match parent path with
      | some dir => (s.volume.createDirAll dir).toOption.getD s.volume
      | none => s.volume
    match v.writeBytes path bytes with
    | .ok v => (.ok, s.withVolume v)
    | .error e => (.failed (.badInput e.message), s)
  | .makeDir name =>
    match s.volume.createDirAll (s.queuePath name) with
    | .ok v => (.ok, s.withVolume v)
    | .error e => (.failed (.badInput e.message), s)
  | .remove name =>
    match s.volume.removeAll (s.queuePath name) with
    | .ok v => (.removed true, s.withVolume v)
    | .error _ => (.removed false, s)
  | .showFile name =>
    match s.volume.readBytes (s.queuePath name) with
    | .ok b => (.fileContent (some b), s)
    | .error _ => (.fileContent none, s)
  | .listing => (.entries s.listing, s)
  | .queueFiles =>
    match Queue.queueFiles s.volume s.queueDir with
    | .ok fs => (.files (fs.map s.relative), s)
    | .error e => (.failed (.queue e), s)
  | .inspect =>
    match Queue.inspect s.volume s.queueDir with
    | .ok fs => (.statuses (fs.map fun f => { f with path := s.relative f.path }), s)
    | .error e => (.failed (.queue e), s)
  | .dayFile now => (.path (s.relative (Queue.dayFile s.queueDir now)), s)
  | .enqueue r now =>
    match Queue.enqueue s.volume s.queueDir r now with
    | .ok (v, path) => (.path (s.relative path), s.withVolume v)
    | .error e => (.failed (.queue e), s)
  | .flush clock cancel cancelOn tamper =>
    let watches := s.watches cancelOn tamper
    match Queue.flush s.queueDir (.fixed (clock.getD s.clock)) watches cancel s.site with
    | (.ok report, site) => (.report report, { s with site := site })
    | (.error e, site) => (.failed (.flush e), { s with site := site })
  | .periodic intervalMs runMs =>
    if intervalMs == 0 then (.failed (.badInput "interval_ms must be positive"), s)
    else if runMs < intervalMs then (.stopped, s)
    else
      let (_, site) := Queue.flush s.queueDir .host [] false s.site
      (.stopped, { s with site := site })
  | .describe => (.described s.queueDir s.queueDir s.databasePath, s)
  | .http req =>
    let (r, site) := s.service.handle req s.site
    (.response r, { s with site := site })
  | .cli inv => s.runProgram (Program.Ledger.run inv (join s.dir "home"))
  | .server inv => s.runProgram (Program.Server.run inv (join s.dir "home"))

end TurnLedger.Session
