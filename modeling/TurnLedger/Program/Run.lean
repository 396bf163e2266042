import TurnLedger.Program.Process
import TurnLedger.Store.Host

/-!
# Programs on a host

A program runs against a host: it reads and changes the host's files and database files and
takes clock readings from it. What it changed stays changed when it ends in failure, as the
effects of a process outlive it. A run is therefore a computation over the host that may stop
early with its outcome.
-/

namespace TurnLedger.Program

open Store

/-- A computation of a program on a host, which may end early with its outcome. -/
abbrev Run := ExceptT Outcome (StateM Host)

def fail {α : Type} (chain : List String) : Run α := throw (Outcome.failed chain)

/-- Runs a program on a host: its outcome, and the host as the program left it. -/
def Run.exec (r : Run Outcome) (h : Host) : Outcome × Host :=
  let (result, h) := (ExceptT.run r).run h
  match result with
  | .ok o => (o, h)
  | .error o => (o, h)

def readClock : Run Time.Instant := do
  let h ← get
  let (t, stamps) := h.stamps.now
  set { h with stamps := stamps }
  return t

/-- Opens the database file at a path as a store; a failure is reported under `context`. -/
def openStore (path : Files.Path) (context : String) : Run Site := do
  match (← get).openDatabase path false with
  | .ok h =>
    set h
    return ⟨h, .file path⟩
  | .error e => fail ([context, e.message] ++ e.causes)

def keepSite (s : Site) : Run Unit := set s.host

end TurnLedger.Program
