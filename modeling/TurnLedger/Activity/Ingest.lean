import TurnLedger.Activity.Decode
import TurnLedger.Classify.Classifier
import TurnLedger.Json.Decode

/-!
# Taking a record in

Before a record is stored, blank text fields get defaults (`unknown-project`, `unknown-channel`,
`unknown-user`, `unknown-model`, thinking `medium`, status `success`) and a missing creation
time becomes the current time. Then it is classified: a category given with the record is kept,
trimmed and lowercased, with the reason `provided:category` unless a reason is given; a blank
category or `general` is classified afresh from the turn's signals.

An ingest request is a JSON object holding a record's fields and the signals `prompt_text`,
`assistant_text` and `tools_used`. The signals are read in place (a repeated one is refused at
once); every other member is kept in order and read as the record once the object is complete,
so its failures are placed after the closing brace. The record's id is cleared: the store
assigns ids.
-/

namespace TurnLedger.Activity

open Json

def orDefault (s dflt : String) : String := if Text.isBlankText s then dflt else s

def Record.withDefaults (r : Record) (now : Time.Instant) : Record :=
  { r with
    projectTag := orDefault r.projectTag "unknown-project"
    channel := orDefault r.channel "unknown-channel"
    userId := orDefault r.userId "unknown-user"
    model := orDefault r.model "unknown-model"
    thinking := orDefault r.thinking "medium"
    status := orDefault r.status "success"
    createdAt := r.createdAt.getD now }

def unsetCategory : String := "general"

def providedReason : String := "provided:category"

def Record.classified (r : Record) (signals : Classify.Signals) (rules : Classify.RuleSet) :
    Record :=
  let category := Classify.normalize r.category
  if !category.isEmpty && category != unsetCategory then
    { r with
      category := category
      categoryReason :=
        if Text.isBlankText r.categoryReason then providedReason else r.categoryReason }
  else
    let c := Classify.classify signals rules
    { r with category := c.category, categoryReason := c.reason.text }

structure Submission where
  record : Record
  signals : Classify.Signals

/-- Reads the members of an ingest request: signals in place, the rest kept for the record. -/
def readIngestMembers (room : Nat) : Nat → Bool → List String → Classify.Signals →
    List (String × Value) → Scan Submission
  | 0, _, _, signals, rest => do
    match Record.fromMembers rest.reverse with
    | .ok r => pure ⟨r, signals⟩
    | .error msg => Scan.refuse msg
  | fuel + 1, first, seen, signals, rest => do
    match ← Scan.nextKey first with
    | none =>
      match Record.fromMembers rest.reverse with
      | .ok r => pure ⟨r, signals⟩
      | .error msg => Scan.refuse msg
    | some k =>
      let isSignal := k == "prompt_text" || k == "assistant_text" || k == "tools_used"
      if isSignal && seen.contains k then Scan.refuse (Schema.duplicateField k)
      if k == "prompt_text" then
        let t ← Scan.inside (.key k) do Scan.colon; Scan.text "a string"
        readIngestMembers room fuel false (k :: seen) { signals with promptText := t } rest
      else if k == "assistant_text" then
        let t ← Scan.inside (.key k) do Scan.colon; Scan.text "a string"
        readIngestMembers room fuel false (k :: seen) { signals with assistantText := t } rest
      else if k == "tools_used" then
        let ts ← Scan.inside (.key k) do
          Scan.colon; Scan.listOf room "a sequence" fun _ => Scan.text "a string"
        readIngestMembers room fuel false (k :: seen) { signals with toolsUsed := ts } rest
      else
        let v ← Scan.inside (.key k) do Scan.colon; Scan.value room
        readIngestMembers room fuel false seen signals ((k, v) :: rest)

def Submission.reader : Scan Submission :=
  Scan.objectOf nestingRoom "struct IngestRequest" fun room => do
    readIngestMembers room (← Scan.budget) true [] {} []

def Submission.ofJsonText (text : String) : Except Json.Error Submission :=
  Scan.readAll Submission.reader text

/-- The record to store for a request: id cleared, defaults filled, classified. -/
def Submission.toRecord (q : Submission) (rules : Classify.RuleSet) (now : Time.Instant) :
    Record :=
  ({ q.record with id := "" }.withDefaults now).classified q.signals rules

end TurnLedger.Activity
