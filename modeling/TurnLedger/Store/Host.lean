import TurnLedger.Files.Volume
import TurnLedger.Store.Database
import TurnLedger.Store.Memory

/-!
# Stores on a host

A host is what programs share: its file system, the database files on it, and the source of
identifiers and clock readings. A store is kept in memory, in a private database, or in a
database file on the host; a database file is shared by every program that opens its path.

Opening a database file first creates the directories above it, then needs a file at the path:
a missing one is created empty, a directory cannot be opened, and an existing file must be a
database or empty. While a session holds the file open its write-ahead log and shared-memory
files stand beside it.
-/

namespace TurnLedger.Store

open Activity Files

abbrev Catalog := List (List String × Database)

structure Host where
  volume : Volume := {}
  databases : Catalog := []
  stamps : Stamps

def Host.database? (h : Host) (ks : List String) : Option Database :=
  (h.databases.find? (·.1 == ks)).map (·.2)

def Host.setDatabase (h : Host) (ks : List String) (d : Database) : Host :=
  if h.databases.any (·.1 == ks) then
    { h with databases := h.databases.map fun e => if e.1 == ks then (ks, d) else e }
  else { h with databases := h.databases ++ [(ks, d)] }

/-- The failure of a path that cannot be opened as a database, named as it was given. -/
def cannotOpen (path : Path) : StoreFault :=
  .database ("unable to open database file: " ++ path) (engineCause 14 "Unable to open the database file")

def notDatabase : StoreFault :=
  .database "file is not a database" (engineCause 26 "File opened that is not a database file")

/-- Opens the database file at `path` (already resolved), creating it and its directories as
needed; `held` leaves the log files of an open connection beside it. -/
def Host.openDatabase (h : Host) (path : Path) (held : Bool) : Except StoreFault Host := do
  let volume ← match parent path with
    | some dir =>
      if dir.isEmpty then pure h.volume
      else match h.volume.createDirAll dir with
        | .ok v => pure v
        | .error e => throw (.unavailable ("cannot create " ++ dir ++ ": " ++ e.message))
    | none => pure h.volume
  let ks := h.volume.locate path
  let h := { h with volume := volume }
  let h ← match volume.node? path with
    | some .directory => throw (cannotOpen path)
    | some (.file bytes) =>
      match h.database? ks with
      | some _ => pure h
      | none =>
        if bytes.isEmpty then pure (h.setDatabase ks {})
        else throw notDatabase
    | none =>
      match volume.writeBytes path ByteArray.empty with
      | .ok v => pure ({ h with volume := v }.setDatabase ks {})
      | .error _ => throw (cannotOpen path)
  if held then
    let side := fun (v : Volume) (suffix : String) =>
      if (v.node? (path ++ suffix)).isSome then v
      else (v.writeBytes (path ++ suffix) ByteArray.empty).toOption.getD v
    return { h with volume := side (side h.volume "-wal") "-shm" }
  else return h

inductive Backend where
  | memory (store : MemoryStore)
  | database (db : Database)
  | file (path : Path)

structure Site where
  host : Host
  backend : Backend

def Site.now (s : Site) : Time.Instant × Site :=
  let (t, st) := s.host.stamps.now
  (t, { s with host := { s.host with stamps := st } })

def Site.withVolume (s : Site) (v : Volume) : Site := { s with host := { s.host with volume := v } }

def Site.table? (s : Site) : Option Database :=
  match s.backend with
  | .memory _ => none
  | .database d => some d
  | .file path => some ((s.host.database? (s.host.volume.locate path)).getD {})

def Site.withTable (s : Site) (d : Database) : Site :=
  match s.backend with
  | .memory _ => s
  | .database _ => { s with backend := .database d }
  | .file path => { s with host := s.host.setDatabase (s.host.volume.locate path) d }

def Site.create (s : Site) (r : Record) : Except StoreFault Record × Site :=
  match s.backend with
  | .memory m =>
    let (out, st) := m.create r s.host.stamps
    let s := { s with host := { s.host with stamps := st } }
    match out with
    | .ok (r, m) => (.ok r, { s with backend := .memory m })
    | .error e => (.error e, s)
  | _ =>
    let d := s.table?.getD {}
    let (out, st) := d.insert r s.host.stamps
    let s := { s with host := { s.host with stamps := st } }
    match out with
    | .ok (r, d) => (.ok r, s.withTable d)
    | .error e => (.error e, s)

def Site.list (s : Site) (f : Filters) : Except StoreFault (List Record) :=
  match s.backend with
  | .memory m => m.list f
  | _ => (s.table?.getD {}).list f

def Site.summarize (s : Site) (f : Filters) : Except StoreFault Summary :=
  match s.backend with
  | .memory m => m.summarize f
  | _ => (s.table?.getD {}).summarize f

def Site.health (s : Site) : Health :=
  match s.backend with
  | .memory m => m.health
  | _ => (s.table?.getD {}).health

end TurnLedger.Store
