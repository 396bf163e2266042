import TurnLedger.Store.Failure
import TurnLedger.Store.Stamps

/-!
# A store held in memory

The memory store keeps records in the order they arrived. Writes can be made to fail on
purpose: the whole store can be marked unavailable, and writes of records from chosen sessions
can be rejected. A write is refused while the store is unavailable, then for a rejected
session; otherwise the record is completed (id and creation time) and refused if its id is
already stored.

Listing gives the records that match the filters, newest first; records of equal creation time
keep their order of arrival, and records without a time come last. A summary adds the matching
records in order of arrival.
-/

namespace TurnLedger.Store

open Activity

structure MemoryStore where
  records : List Record := []
  unavailable : Bool := false
  rejected : Option (List String) := none

def MemoryStore.rejects (m : MemoryStore) (r : Record) : Bool :=
  match m.rejected with
  | some keys => keys.contains r.sessionKey
  | none => false

def MemoryStore.create (m : MemoryStore) (r : Record) (st : Stamps) :
    Except StoreFault (Record × MemoryStore) × Stamps :=
  if m.unavailable then (.error (.unavailable "in-memory store marked unavailable"), st)
  else if m.rejects r then
    (.error (.unavailable ("write rejected for session " ++ r.sessionKey)), st)
  else
    let (r, st) := st.complete r
    if m.records.any (·.id == r.id) then (.error (.unavailable ("duplicate id " ++ r.id)), st)
    else (.ok (r, { m with records := m.records ++ [r] }), st)

def MemoryStore.matching (m : MemoryStore) (f : Filters) : Except StoreFault (List Record) := do
  let span ← daySpan f
  return m.records.filter fun r => f.admits r && inDay span r

/-- Whether `a` was created no earlier than `b`; a record without a time is the oldest. -/
def newerOrSame (a b : Record) : Bool :=
  match a.createdAt, b.createdAt with
  | _, none => true
  | none, some _ => false
  | some s, some t => compare s t != .lt

def MemoryStore.list (m : MemoryStore) (f : Filters) : Except StoreFault (List Record) := do
  return (← m.matching f).mergeSort newerOrSame

def MemoryStore.summarize (m : MemoryStore) (f : Filters) : Except StoreFault Summary := do
  match Summary.ofRecords (← m.matching f) with
  | some s => return s
  | none => throw (.halted addOverflowMessage)

def MemoryStore.health (m : MemoryStore) : Health :=
  { reachable := !m.unavailable, backend := "memory", recordCount := some m.records.length,
    error := if m.unavailable then some "marked unavailable" else none }

end TurnLedger.Store
