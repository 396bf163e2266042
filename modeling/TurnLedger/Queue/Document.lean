import TurnLedger.Activity.Decode
import TurnLedger.Queue.Failure

/-!
# Queue files

A queue file is Markdown: a title line naming the file's label, then one block per queued
record, headed by the time it was queued and holding the record's JSON in a fenced `json` code
block.

Reading finds fenced blocks from left to right: the fence text three backticks and `json`, a
line end (`\n` or `\r\n`), and the block's text up to the first line end followed by three
backticks; reading goes on after those backticks. A block's text is trimmed, and a blank block
is no entry. An entry is valid when its text is a JSON object that reads as a record.

Queueing a record appends its block, stamped to the whole second, to the file of the day (UTC)
it is queued, `YYYY-MM-DD.md` in the queue directory; the directory is created as needed and a
new file starts with its title. Every failure is a failure to write that day's file.
-/

namespace TurnLedger.Queue

structure Entry where
  raw : String
  record : Option Activity.Record

def Entry.isValid (e : Entry) : Bool := e.record.isSome

def waitingMark : String := "replay_pending"

def fence : List Char := ['`', '`', '`']

def openFence : List Char := fence ++ "json".toList

/-- The text of a block whose opening line is taken, and what follows its closing fence. -/
def blockBody : List Char → List Char → Option (List Char × List Char)
  | acc, rest =>
    if ('\n' :: fence).isPrefixOf rest then some (acc.reverse, rest.drop 4)
    else if ('\r' :: '\n' :: fence).isPrefixOf rest then some (acc.reverse, rest.drop 5)
    else match rest with
      | [] => none
      | c :: more => blockBody (c :: acc) more

/-- The block at the start of `s`, if one starts there: its text and what follows it. -/
def blockAt (s : List Char) : Option (List Char × List Char) :=
  if openFence.isPrefixOf s then
    match s.drop openFence.length with
    | '\n' :: rest => blockBody [] rest
    | '\r' :: '\n' :: rest => blockBody [] rest
    | _ => none
  else none

/-- The texts of the blocks in `s`, left to right, for at most `fuel` characters. -/
def blockTextsLoop : Nat → List Char → List (List Char)
  | 0, _ => []
  | _ + 1, [] => []
  | fuel + 1, c :: rest =>
    match blockAt (c :: rest) with
    | some (body, after) => body :: blockTextsLoop fuel after
    | none => blockTextsLoop fuel rest

def blockTexts (s : List Char) : List (List Char) := blockTextsLoop (s.length + 1) s

def entriesOf (document : String) : List Entry :=
  (blockTexts document.toList).filterMap fun body =>
    let raw := Text.trim (String.ofList body)
    if raw.isEmpty then none
    else some ⟨raw, (Activity.Record.ofJsonText raw).toOption⟩

def titleBlock (label : String) : String :=
  "# Agent Activity Fallback Queue (" ++ label ++ ")\n\n"

def entryBlock (queuedAt raw : String) : String :=
  "## queued_at: " ++ queuedAt ++ "\n```json\n" ++ Text.trim raw ++ "\n```\n\n"

def pendingFile (label : String) (raws : List String) : String :=
  titleBlock label ++ String.join (raws.map (entryBlock waitingMark))

open Files Activity

def dayFile (dir : Path) (now : Time.Instant) : Path := join dir (now.dateText ++ ".md")

def enqueue (v : Volume) (dir : Path) (r : Record) (now : Time.Instant) :
    Except QueueFault (Volume × Path) := do
  let path := dayFile dir now
  let fail := fun (e : IoFailure) => QueueFault.write path e
  let v ← (v.createDirAll dir).mapError fail
  let block := entryBlock now.wholeSecondsText r.toJson
  match v.node? path with
  | none =>
    let v ← (v.writeText path (titleBlock now.dateText ++ block)).mapError fail
    return (v, path)
  | some (.file _) =>
    let v ← (v.appendText path block).mapError fail
    return (v, path)
  | some .directory => throw (fail .isDirectory)

end TurnLedger.Queue
