import TurnLedger.Http.Api
import TurnLedger.Program.Ledger
import TurnLedger.Program.Server

/-!
# Steps of a session and their answers

A session drives one store and one queue directory through a list of steps: store operations,
operations on the memory store's fault injection, file operations inside the queue directory
(by names relative to it), queue operations, HTTP requests to the API, and runs of the two
programs. Each step has an answer; a failing step answers its failure, and the session goes
on.
-/

namespace TurnLedger.Session

open Activity Store Files

/-- What a flush step asks a file to turn into when a session's record arrives. -/
inductive Tamper where
  | delete
  | toDirectory

inductive Step where
  | create (r : Record)
  | list (f : Filters)
  | summarize (f : Filters)
  | health
  | records
  | size
  | setUnavailable (value : Bool)
  | failSessions (keys : List String)
  | clearFailures
  | writeFile (name : String) (bytes : ByteArray)
  | makeDir (name : String)
  | remove (name : String)
  | showFile (name : String)
  | listing
  | queueFiles
  | inspect
  | dayFile (now : Time.Instant)
  | enqueue (r : Record) (now : Time.Instant)
  | flush (clock : Option Time.Instant) (cancel : Bool) (cancelOn : Option String)
      (tamper : Option (String × String × Tamper))
  | periodic (intervalMs runMs : Nat)
  | describe
  | http (req : Http.Request)
  | cli (run : Program.Invocation)
  | server (run : Program.Invocation)

inductive Fault where
  | store (e : StoreFault)
  | queue (e : Queue.QueueFault)
  | flush (e : Queue.PassAbort)
  | badInput (message : String)

inductive Answer where
  | record (r : Record)
  | records (rs : List Record)
  | summary (s : Summary)
  | health (h : Health)
  | size (n : Nat)
  | ok
  | removed (existed : Bool)
  | fileContent (bytes : Option ByteArray)
  | entries (names : List String)
  | files (names : List String)
  | statuses (files : List Queue.FileStatus)
  | path (p : String)
  | report (r : Queue.Report)
  | stopped
  | described (replayerDir writerDir : Path) (databasePath : Option Path)
  | response (r : Http.Response)
  | outcome (o : Program.Outcome)
  | failed (f : Fault)

end TurnLedger.Session
