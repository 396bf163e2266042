import TurnLedger.Files.Volume
import TurnLedger.Json.Value

/-!
# Failures of the queue

Every failure of the queue is a file-system failure at one path, while listing the queue
directory, reading a queue file, writing one or deleting one. A replay pass that fails says how
many entries it had already stored. A pass reports what it did: entries stored, entries kept
on disk (refused by the store or malformed), how many of those are malformed, files deleted,
files rewritten, and whether it stopped early.
-/

namespace TurnLedger.Queue

open Files

inductive QueueFault where
  | listDir (dir : Path) (cause : IoFailure)
  | read (path : Path) (cause : IoFailure)
  | write (path : Path) (cause : IoFailure)
  | delete (path : Path) (cause : IoFailure)
  deriving DecidableEq, Repr

def QueueFault.cause : QueueFault → IoFailure
  | .listDir _ c | .read _ c | .write _ c | .delete _ c => c

def QueueFault.message : QueueFault → String
  | .listDir dir c => "failed to list queue directory " ++ dir ++ ": " ++ c.message
  | .read p c => "failed to read queue file " ++ p ++ ": " ++ c.message
  | .write p c => "failed to write queue file " ++ p ++ ": " ++ c.message
  | .delete p c => "failed to delete queue file " ++ p ++ ": " ++ c.message

def QueueFault.causes (e : QueueFault) : List String := [e.cause.message]

/-- A replay pass stopped by a file-system failure, after storing `flushed` entries. -/
structure PassAbort where
  flushed : Nat
  source : QueueFault

def PassAbort.message (e : PassAbort) : String :=
  "queue replay aborted after flushing " ++ toString e.flushed ++ " entries: " ++ e.source.message

/-- The causes beneath a stopped pass: the queue failure and what lies beneath it. -/
def PassAbort.causes (e : PassAbort) : List String := e.source.message :: e.source.causes

structure Report where
  flushed : Nat := 0
  retained : Nat := 0
  malformed : Nat := 0
  filesDeleted : Nat := 0
  filesRewritten : Nat := 0
  cancelled : Bool := false
  deriving DecidableEq, Repr

def count (n : Nat) : Json.Value := .number (.unsigned n)

def Report.toValue (r : Report) : Json.Value :=
  .object [("flushed", count r.flushed), ("retained", count r.retained),
    ("malformed", count r.malformed), ("files_deleted", count r.filesDeleted),
    ("files_rewritten", count r.filesRewritten), ("cancelled", .bool r.cancelled)]

end TurnLedger.Queue
