import TurnLedger.Activity.Ingest
import TurnLedger.Store.Host
import TurnLedger.Queue.Failure
import TurnLedger.Queue.Document

/-!
# Replaying the queue into a store

A replay pass takes the queue files in order and stops before the next file once it has been
cancelled. In each file, malformed entries are kept as they are; every other entry gets the
ingestion defaults (the clock gives a missing creation time) and one attempt to be stored, and
only a stored entry leaves the queue. A file with nothing left is deleted (one already gone is
fine); otherwise it is rewritten with the kept entries under a fresh title, through a temporary
sibling `…md.tmp` that is then renamed over it, unless that text is what the file already holds.
A file-system failure ends the pass and says how many entries were already stored. The queue
files are the regular files directly in the queue directory with the extension `md`, in order of
name; a missing directory holds none.

The pass is written over a world: the volume holding the queue, the clock, the store and the
cancellation token, each read through the world's state. In a session the world is the site
with watches, a means of fault injection: when the store receives a record of a watched
session, the pass is cancelled, or a file is removed, or replaced by an empty directory.
-/

namespace TurnLedger.Queue

open Files Activity Store

def queueFiles (v : Volume) (dir : Path) : Except QueueFault (List Path) :=
  match v.listDir dir with
  | .error .notFound => .ok []
  | .error e => .error (.listDir dir e)
  | .ok names =>
    .ok ((names.map (join dir)).filter fun p => v.isFile p && extension p == some "md")

structure FileStatus where
  path : Path
  entries : Nat
  malformed : Nat

def FileStatus.toValue (s : FileStatus) : Json.Value :=
  .object [("path", .string s.path), ("entries", count s.entries),
    ("malformed", count s.malformed)]

def fileStatus (v : Volume) (path : Path) : Except QueueFault FileStatus := do
  let body ← (v.readText path).mapError (QueueFault.read path)
  let entries := entriesOf body
  return ⟨path, entries.length, (entries.filter (!·.isValid)).length⟩

def inspect (v : Volume) (dir : Path) : Except QueueFault (List FileStatus) := do
  (← queueFiles v dir).mapM (fileStatus v)

/-- What a replay pass sees around it, in states of type `σ`: the volume holding the queue,
the clock, the store and the cancellation token. Reading the clock, asking the store to create
a record and asking the token whether it has fired may each change the state. -/
structure World (σ : Type) where
  volume : σ → Volume
  withVolume : σ → Volume → σ
  now : σ → Time.Instant × σ
  create : σ → Record → Except StoreFault Record × σ
  cancelled : σ → Bool × σ

structure Pass (σ : Type) where
  world : σ
  report : Report := {}

section Replay

variable {σ : Type} (W : World σ)

def Pass.replayEntries : Pass σ → List Entry → List String → Pass σ × List String
  | p, [], kept => (p, kept.reverse)
  | p, e :: rest, kept =>
    match e.record with
    | none =>
      let p := { p with report := { p.report with malformed := p.report.malformed + 1 } }
      Pass.replayEntries p rest (e.raw :: kept)
    | some r =>
      let (now, w) := W.now p.world
      match W.create w (r.withDefaults now) with
      | (.ok _, w) =>
        let p := { world := w, report := { p.report with flushed := p.report.flushed + 1 } }
        Pass.replayEntries p rest kept
      | (.error _, w) => Pass.replayEntries { p with world := w } rest (e.raw :: kept)

def removeDrained (v : Volume) (path : Path) : Except QueueFault Volume :=
  match v.removeFile path with
  | .ok v => .ok v
  | .error .notFound => .ok v
  | .error e => .error (.delete path e)

/-- Replaces a file's text through a temporary sibling renamed over it; the sibling is removed
when the rename fails. -/
def replaceText (v : Volume) (path : Path) (text : String) : Except QueueFault Volume := do
  let temp := path ++ ".tmp"
  let v ← (v.writeText temp text).mapError (QueueFault.write path)
  match v.rename temp path with
  | .ok v => return v
  | .error e => throw (.write path e)

/-- Settles a file whose entries are replayed: the report counts the kept texts, and the file is
deleted when none is kept, left alone when their text is what it holds, and rewritten with them
otherwise. -/
def settleFile (v : Volume) (path body : String) (kept : List String) (rep : Report) :
    Except QueueFault (Volume × Report) :=
  let rep := { rep with retained := rep.retained + kept.length }
  if kept.isEmpty then
    (removeDrained v path).map fun v => (v, { rep with filesDeleted := rep.filesDeleted + 1 })
  else
    let text := pendingFile ((fileStem path).getD "") kept
    if text == body then .ok (v, rep)
    else
      (replaceText v path text).map fun v =>
        (v, { rep with filesRewritten := rep.filesRewritten + 1 })

/-- Replays one queue file: the pass afterwards, and the failure that ended it if one did. -/
def Pass.drainFile (p : Pass σ) (path : Path) : Pass σ × Option QueueFault :=
  match (W.volume p.world).readText path with
  | .error e => (p, some (.read path e))
  | .ok body =>
    let (p, kept) := p.replayEntries W (entriesOf body) []
    match settleFile (W.volume p.world) path body kept p.report with
    | .error e => (p, some e)
    | .ok (v, rep) => ({ world := W.withVolume p.world v, report := rep }, none)

/-- Replays the files in order until one fails or the token has fired before the next one. -/
def Pass.replayFiles : Pass σ → List Path → Except PassAbort (Pass σ) × Pass σ
  | p, [] => (.ok p, p)
  | p, path :: rest =>
    let (stop, w) := W.cancelled p.world
    let p := { p with world := w }
    if stop then
      let p := { p with report := { p.report with cancelled := true } }
      (.ok p, p)
    else
      match p.drainFile W path with
      | (p, none) => Pass.replayFiles p rest
      | (p, some e) => (.error ⟨p.report.flushed, e⟩, p)

/-- One replay pass over the queue in `dir`: its report, or the failure that stopped it, and
the world's state afterwards. -/
def flushIn (dir : Path) (w : σ) : Except PassAbort Report × σ :=
  match queueFiles (W.volume w) dir with
  | .error e => (.error ⟨0, e⟩, w)
  | .ok files =>
    let (out, p) := Pass.replayFiles W { world := w } files
    (out.map (·.report), p.world)

end Replay

inductive Clock where
  | fixed (t : Time.Instant)
  | host

inductive Reaction where
  | cancel
  | remove (path : Path)
  | replaceWithDirectory (path : Path)

structure Watch where
  session : String
  reaction : Reaction

/-- The world of a pass in a session: the site, and whether the pass has been cancelled. -/
structure Surroundings where
  site : Site
  cancelled : Bool

def Surroundings.withVolume (s : Surroundings) (v : Volume) : Surroundings :=
  { s with site := { s.site with host := { s.site.host with volume := v } } }

def Surroundings.react (s : Surroundings) : Reaction → Surroundings
  | .cancel => { s with cancelled := true }
  | .remove path =>
    let v := s.site.host.volume
    s.withVolume ((v.removeAll path).toOption.getD v)
  | .replaceWithDirectory path =>
    let v := (s.site.host.volume.removeAll path).toOption.getD s.site.host.volume
    s.withVolume ((v.createDir path).toOption.getD v)

/-- The world of a session's pass: its clock, and a store that first carries out the reactions
its record's session is watched for. -/
def sessionWorld (clock : Clock) (watches : List Watch) : World Surroundings where
  volume s := s.site.host.volume
  withVolume := Surroundings.withVolume
  now s := match clock with
    | .fixed t => (t, s)
    | .host =>
      let (t, st) := s.site.host.stamps.now
      (t, { s with site := { s.site with host := { s.site.host with stamps := st } } })
  create s r :=
    let s := (watches.filter (·.session == r.sessionKey)).foldl (fun s w => s.react w.reaction) s
    let (out, site) := s.site.create r
    (out, { s with site := site })
  cancelled s := (s.cancelled, s)

/-- One replay pass of a session over the queue in `dir`: its report, or the failure that
stopped it, and the site afterwards. -/
def flush (dir : Path) (clock : Clock) (watches : List Watch) (cancelled : Bool) (site : Site) :
    Except PassAbort Report × Site :=
  let (out, s) := flushIn (sessionWorld clock watches) dir ⟨site, cancelled⟩
  (out, s.site)

end TurnLedger.Queue
