import Mathlib.Logic.Function.Basic
import TurnLedger.Proofs.RecordText
import TurnLedger.Proofs.QueueDocument
import TurnLedger.Queue.Document
import TurnLedger.Queue.Pass
import TurnLedger.Proofs.ReplayPass

/-!
# Requests and replay passes, interleaved

The server takes records in through requests that run concurrently, and replays its queue
through passes. One lock orders the queue's writers: a request queues its record under it, and
a pass holds it from listing the queue files to its end. A pass that has begun keeps the lock
until it ends, even when whoever started it stops waiting, so it is never cut short.

The server is a transition system of atomic steps (`Step`). A request makes its record, and the
store either takes it (the request is answered 201) or refuses it; a refused record is queued
once the lock is free (answered 202). A pass lists the queue files, and then for each file
either stops, because it was cancelled, or reads the file, replays its entries one call to the
store at a time, and settles it with `settleFile`, as `Pass.drainFile` does; a file that a
serialized pass drains is drained the same way in steps (`exists_steps_of_drainFile`). Requests
run between any two of these steps. The store answers every call either way, a taken record is one the store holds, no file
operation fails (a step that needs one that fails is not taken), and nothing else writes to the
queue directory.

Two pieces of bookkeeping say where records came from: each record in the store carries its
origin, and each entry of a queue file the request it was queued for, if any (`Server.owners`).
Neither is read by any step of the server itself.
-/

namespace TurnLedger.Interleaving

open Files Activity Queue

/-- A record a request can carry: one the store can hold, with a finite cost, as JSON has no
infinite or undefined number. -/
structure Receivable (r : Record) : Prop where
  storable : r.Storable
  finite : r.costEstimate.isFinite = true

/-- Where a record in the store came from: the call of request `i`, the replay of the entry
queued for request `i`, or the replay of an entry queued by no request of this run. -/
inductive Origin where
  | direct (i : Nat)
  | replayed (i : Nat)
  | earlier
  deriving DecidableEq

inductive Phase where
  | received
  | refused
  | created
  | queued (file : Path)
  deriving DecidableEq

structure Request where
  record : Record
  phase : Phase

/-- The file a pass is replaying: its path and text, the entries it has not reached, and the
texts of those it keeps, in order. -/
structure Draining where
  path : Path
  body : String
  todo : List Entry
  kept : List String

/-- A pass holding the lock: the files it has not reached, the one it is replaying if any, and
its report. -/
structure Passing where
  files : List Path
  draining : Option Draining
  report : Report

structure Server where
  volume : Volume
  stored : List (Origin × Record)
  requests : List Request
  pass : Option Passing
  /-- For each path, the request each entry of the file there was queued for, in order. -/
  owners : Path → List (Option Nat)

/-- The entries of the file at a path, as its bytes read: none where no file is, or where its
bytes are not text. -/
def entriesAt (v : Volume) (p : Path) : List Entry :=
  match v.nodeAt (v.locate p) with
  | some (.file b) => ((String.fromUTF8? b).map entriesOf).getD []
  | _ => []

/-- A server that has taken no request yet, over a volume whose entries no request queued. -/
def Server.start (v : Volume) : Server where
  volume := v
  stored := []
  requests := []
  pass := none
  owners p := (entriesAt v p).map fun _ => none

def Server.draining (s : Server) : Option Draining := s.pass.bind (·.draining)

/-- The entries of a file still to be stored: for the file a pass is replaying, the entries it
keeps and then those it has not reached; for any other, the entries of its text. -/
def Server.pending (s : Server) (p : Path) : List Entry :=
  match s.draining with
  | some d => if d.path = p then d.kept.map entryOf ++ d.todo else entriesAt s.volume p
  | none => entriesAt s.volume p

def Server.count (s : Server) (o : Origin) : Nat := s.stored.countP fun x => x.1 = o

def originOf : Option (Option Nat) → Origin
  | some (some i) => .replayed i
  | _ => .earlier

section Steps

variable (dir : Path) (rules : Classify.RuleSet)

inductive Step : Server → Server → Prop
  | receive {s : Server} (q : Submission) (now : Time.Instant)
      (hr : Receivable (q.toRecord rules now)) :
      Step s { s with requests := s.requests ++ [⟨q.toRecord rules now, .received⟩] }
  | create {s : Server} {i : Nat} {r : Request} (hi : s.requests[i]? = some r)
      (hr : r.phase = .received) :
      Step s { s with stored := s.stored ++ [(.direct i, r.record)],
                      requests := s.requests.set i { r with phase := .created } }
  | refuse {s : Server} {i : Nat} {r : Request} (hi : s.requests[i]? = some r)
      (hr : r.phase = .received) :
      Step s { s with requests := s.requests.set i { r with phase := .refused } }
  | enqueue {s : Server} {i : Nat} {r : Request} (now : Time.Instant) {v : Volume} {path : Path}
      (hfree : s.pass = none) (hi : s.requests[i]? = some r) (hr : r.phase = .refused)
      (he : Queue.enqueue s.volume dir r.record now = .ok (v, path)) :
      Step s { s with volume := v,
                      requests := s.requests.set i { r with phase := .queued path },
                      owners := Function.update s.owners path (s.owners path ++ [some i]) }
  | begin {s : Server} {files : List Path} (hfree : s.pass = none)
      (hq : queueFiles s.volume dir = .ok files) :
      Step s { s with pass := some ⟨files, none, {}⟩ }
  | cancel {s : Server} {path : Path} {rest : List Path} {rep : Report}
      (hp : s.pass = some ⟨path :: rest, none, rep⟩) :
      Step s { s with pass := none }
  | take {s : Server} {path : Path} {rest : List Path} {rep : Report} {body : String}
      (hp : s.pass = some ⟨path :: rest, none, rep⟩) (hb : s.volume.readText path = .ok body) :
      Step s { s with pass := some ⟨rest, some ⟨path, body, entriesOf body, []⟩, rep⟩ }
  | keepMalformed {s : Server} {files : List Path} {d : Draining} {rep : Report} {e : Entry}
      {todo : List Entry} (hp : s.pass = some ⟨files, some d, rep⟩) (ht : d.todo = e :: todo)
      (he : e.record = none) :
      Step s { s with pass := some ⟨files, some { d with todo := todo, kept := d.kept ++ [e.raw] },
                                      { rep with malformed := rep.malformed + 1 }⟩ }
  /-- The store takes a valid entry's record, with the defaults of the clock's reading `now`:
  the entry leaves the file. -/
  | replay {s : Server} {files : List Path} {d : Draining} {rep : Report} {e : Entry}
      {todo : List Entry} {r : Record} (now : Time.Instant)
      (hp : s.pass = some ⟨files, some d, rep⟩) (ht : d.todo = e :: todo) (he : e.record = some r) :
      Step s { s with
        stored := s.stored ++ [(originOf (s.owners d.path)[d.kept.length]?, r.withDefaults now)],
        owners := Function.update s.owners d.path ((s.owners d.path).eraseIdx d.kept.length),
        pass := some ⟨files, some { d with todo := todo }, { rep with flushed := rep.flushed + 1 }⟩ }
  | keepRefused {s : Server} {files : List Path} {d : Draining} {rep : Report} {e : Entry}
      {todo : List Entry} {r : Record} (hp : s.pass = some ⟨files, some d, rep⟩)
      (ht : d.todo = e :: todo) (he : e.record = some r) :
      Step s { s with pass := some ⟨files, some { d with todo := todo, kept := d.kept ++ [e.raw] },
                                      rep⟩ }
  | settle {s : Server} {files : List Path} {d : Draining} {rep rep' : Report} {v : Volume}
      (hp : s.pass = some ⟨files, some d, rep⟩) (ht : d.todo = [])
      (hs : settleFile s.volume d.path d.body d.kept rep = .ok (v, rep')) :
      Step s { s with volume := v, pass := some ⟨files, none, rep'⟩ }
  | finish {s : Server} {rep : Report} (hp : s.pass = some ⟨[], none, rep⟩) :
      Step s { s with pass := none }

inductive Reachable (s₀ : Server) : Server → Prop
  | start : Reachable s₀ s₀
  | step {s s' : Server} : Reachable s₀ s → Step dir rules s s' → Reachable s₀ s'

end Steps

section Drains

variable {dir : Path} {rules : Classify.RuleSet}

theorem Reachable.trans {s₀ s₁ s₂ : Server} (h₁ : Reachable dir rules s₀ s₁)
    (h₂ : Reachable dir rules s₁ s₂) : Reachable dir rules s₀ s₂ := by
  induction h₂ with
  | start => exact h₁
  | step _ hs ih => exact .step ih hs

theorem Reachable.head {s₀ s₁ s₂ : Server} (h₁ : Step dir rules s₀ s₁)
    (h₂ : Reachable dir rules s₁ s₂) : Reachable dir rules s₀ s₂ :=
  (Reachable.step .start h₁).trans h₂

theorem Reachable.replayEntries {files : List Path} {path body : String} :
    ∀ (todo : List Entry) {s : Server} {kept : List String} {rep : Report}
      (ts : List Time.Instant) (answers : List Bool),
      s.pass = some ⟨files, some ⟨path, body, todo, kept⟩, rep⟩ →
      ts.length = (recordsOf todo).length → answers.length = (recordsOf todo).length →
      ∃ s', Reachable dir rules s s' ∧ s'.volume = s.volume ∧ s'.requests = s.requests ∧
        s'.pass = some ⟨files, some ⟨path, body, [], kept ++ keptOf todo answers⟩,
          { rep with flushed := rep.flushed + answers.count true
                     malformed := rep.malformed + todo.countP (!·.isValid) }⟩ ∧
        s'.stored.map (·.2) = s.stored.map (·.2) ++
          ((callsOf (recordsOf todo) ts answers).filter (·.2)).map (·.1)
  | [], s, kept, rep, ts, answers, hp, hts, hans => by
    have hts' : ts = [] := List.eq_nil_of_length_eq_zero (by simpa [recordsOf] using hts)
    have hans' : answers = [] := List.eq_nil_of_length_eq_zero (by simpa [recordsOf] using hans)
    subst hts' hans'
    exact ⟨s, .start, rfl, rfl, by simp [hp, keptOf], by simp [recordsOf, callsOf]⟩
  | e :: todo, s, kept, rep, ts, answers, hp, hts, hans => by
    cases hr : e.record with
    | none =>
      -- a malformed entry is kept
      have hstep : Step dir rules s _ := Step.keepMalformed hp rfl hr
      obtain ⟨s', h', hv', hq', hp', hst'⟩ := Reachable.replayEntries todo
        (s := { s with pass := some ⟨files, some ⟨path, body, todo, kept ++ [e.raw]⟩,
          { rep with malformed := rep.malformed + 1 }⟩ }) ts answers rfl
        (by simpa [recordsOf, hr] using hts) (by simpa [recordsOf, hr] using hans)
      refine ⟨s', Reachable.head hstep h', hv', hq', ?_, by simpa [recordsOf, hr] using hst'⟩
      rw [hp']
      simp [keptOf, hr, Entry.isValid]
      omega
    | some r =>
      obtain ⟨t, ts, rfl⟩ := List.exists_cons_of_length_eq_add_one (by simpa [recordsOf, hr] using hts)
      rcases answers with _ | ⟨_ | _, answers⟩
      · simp [recordsOf, hr] at hans
      · -- the store refuses the record: the entry is kept
        have hstep : Step dir rules s _ := Step.keepRefused hp rfl hr
        obtain ⟨s', h', hv', hq', hp', hst'⟩ := Reachable.replayEntries todo
          (s := { s with pass := some ⟨files, some ⟨path, body, todo, kept ++ [e.raw]⟩, rep⟩ })
          ts answers rfl (by simpa [recordsOf, hr] using hts) (by simpa [recordsOf, hr] using hans)
        refine ⟨s', Reachable.head hstep h', hv', hq', ?_, ?_⟩
        · rw [hp']
          simp [keptOf, hr, Entry.isValid]
        · rw [hst']
          simp [recordsOf, callsOf, hr]
      · -- the store takes the record with the defaults of its reading
        have hstep : Step dir rules s _ := Step.replay t hp rfl hr
        obtain ⟨s', h', hv', hq', hp', hst'⟩ := Reachable.replayEntries todo
          (s := { s with
            stored := s.stored ++ [(originOf (s.owners path)[kept.length]?, r.withDefaults t)],
            owners := Function.update s.owners path ((s.owners path).eraseIdx kept.length),
            pass := some ⟨files, some ⟨path, body, todo, kept⟩,
              { rep with flushed := rep.flushed + 1 }⟩ })
          ts answers rfl (by simpa [recordsOf, hr] using hts) (by simpa [recordsOf, hr] using hans)
        refine ⟨s', Reachable.head hstep h', hv', hq', ?_, ?_⟩
        · rw [hp']
          simp [keptOf, hr, Entry.isValid]
          omega
        · rw [hst']
          simp [recordsOf, callsOf, hr]

theorem Reachable.drain {s : Server} {rest : List Path} {rep rep' : Report} {f : FileRun}
    {v : Volume} (hf : f.Complete) (hp : s.pass = some ⟨f.path :: rest, none, rep⟩)
    (hb : s.volume.readText f.path = .ok f.body)
    (hs : settleFile s.volume f.path f.body f.kept (rep.replayed f) = .ok (v, rep')) :
    ∃ s', Reachable dir rules s s' ∧ s'.volume = v ∧ s'.requests = s.requests ∧
      s'.pass = some ⟨rest, none, rep'⟩ ∧
      s'.stored.map (·.2) = s.stored.map (·.2) ++ (f.calls.filter (·.2)).map (·.1) := by
  have htake : Step dir rules s _ := Step.take hp hb
  obtain ⟨s₂, h₂, hv₂, hq₂, hp₂, hst₂⟩ := Reachable.replayEntries (entriesOf f.body)
    (s := { s with pass := some ⟨rest, some ⟨f.path, f.body, entriesOf f.body, []⟩, rep⟩ })
    f.readings f.answers rfl hf.1 hf.2
  have hsettle : Step dir rules s₂ _ := Step.settle hp₂ rfl (by rw [hv₂]; exact hs)
  exact ⟨_, (Reachable.head htake h₂).step hsettle, rfl, hq₂, rfl, hst₂⟩

/-- A file that a serialized pass drains without failure, in a world whose clock and store
leave the volume alone, is drained the same way by a pass of the server over the same volume:
the same volume and report afterwards, and the same records stored, in order. -/
theorem exists_steps_of_drainFile {σ : Type} (W : World σ) (hW : W.Isolated) {w : σ}
    {tr : Transcript} {rep : Report} {path : Path} {rest : List Path}
    {p' : Pass (σ × Transcript)} (h : Pass.drainFile W.transcribed ⟨(w, tr), rep⟩ path = (p', none))
    {s : Server} (hv : s.volume = W.volume w) (hp : s.pass = some ⟨path :: rest, none, rep⟩) :
    ∃ s', Reachable dir rules s s' ∧ s'.volume = W.volume p'.world.1 ∧ s'.requests = s.requests ∧
      s'.pass = some ⟨rest, none, p'.report⟩ ∧
      s'.stored.map (·.2) = s.stored.map (·.2) ++
        ((p'.world.2.calls.drop tr.calls.length).filter (·.2)).map (·.1) := by
  obtain ⟨f, rfl, hcomp, hread, htr, -, -, -, hsettle⟩ := drainFile_eq_none W hW h
  rw [← hv] at hread hsettle
  obtain ⟨s', hs', hv', hq', hp', hst'⟩ := Reachable.drain hcomp hp hread hsettle
  refine ⟨s', hs', hv', hq', hp', ?_⟩
  rw [hst', htr, List.drop_left]

end Drains

end TurnLedger.Interleaving
