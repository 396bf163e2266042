import TurnLedger.Http.Form
import TurnLedger.Http.MediaType
import TurnLedger.Http.Message
import TurnLedger.Queue.Pass
import TurnLedger.Queue.Document
import TurnLedger.Classify.Classifier
import TurnLedger.Classify.JsonSpec

/-!
# The HTTP API

Routes, by exact path:

* `GET /health`: the store's health, 200 when it is reachable and 503 when not;
* `POST /api/activity`: takes an ingest request, classifies it and stores it (201 with the
  stored record); when the store refuses it, the record goes to the queue (202 with the queue
  file), and when that fails too the answer is 500;
* `GET /api/activity` and `GET /api/activity/summary`: records newest first, and their
  summary, filtered by the query's `project`, `model` and `date`;
* `POST /api/classify`: the category of the given signals;
* `GET /api/queue`: the pending entries per queue file;
* `POST /api/queue/flush`: one replay pass, with the host's clock.

A `GET` route also answers `HEAD`, with an empty body. Another method on a known path is 405
with an empty body; an unknown path is 404. Any `OPTIONS` request is a cross-origin preflight,
answered 200 with an empty body whatever its path. A JSON body needs a JSON content type (else 415);
its value is read from the start of the body, and what follows the value is ignored. Text that
is not JSON is 400, and JSON that does not fit is 422, both as plain text naming the
part of the body that failed. A query that cannot be read is 400. A day filter that cannot be
read is 400; other store failures are 500. Signals are an object with `prompt_text`,
`assistant_text` and `tools_used`, each optional, or an array of up to three such items.
-/

namespace TurnLedger.Classify

open Json

def Signals.reader : Scan Signals :=
  Scan.recordOf nestingRoom "struct Signals"
    (fun inner => do
      let p ← Scan.positional true (Scan.inside (.index 0) (Scan.text "a string"))
      let a ← Scan.positional p.isNone (Scan.inside (.index 1) (Scan.text "a string"))
      let t ← Scan.positional a.isNone (Scan.inside (.index 2) (readStrings inner))
      pure { promptText := p.getD "", assistantText := a.getD "", toolsUsed := t.getD [] })
    (fun inner => Scan.fields [
      ⟨"prompt_text", fun _ acc => do pure { acc with promptText := ← Scan.text "a string" }⟩,
      ⟨"assistant_text", fun _ acc => do
        pure { acc with assistantText := ← Scan.text "a string" }⟩,
      ⟨"tools_used", fun r acc => do pure { acc with toolsUsed := ← readStrings r }⟩] inner {})

def Signals.ofJsonText (text : String) : Except Json.Error Signals := Scan.readAll Signals.reader text

end TurnLedger.Classify

namespace TurnLedger.Http

open Activity Store Files

structure Service where
  queueDir : Path
  rules : Classify.RuleSet

def apiVersion : String := "0.1.0"

def expectedJson : String := "Expected request with `Content-Type: application/json`"

def bodyRejection (e : Json.Error) : Response :=
  let place := match e.path with
    | [] => ""
    | p => Json.pathText p ++ ": "
  match e.category with
  | .data => .text 422 ("Failed to deserialize the JSON body into the target type: " ++ place ++ e.message)
  | _ => .text 400 ("Failed to parse the request body as JSON: " ++ place ++ e.message)

/-- The body of a request read as a JSON value of some type. The value is read from the start
of the body; what follows it is not looked at. -/
def Request.jsonBody (r : Request) (reader : Json.Scan α) : Except Response α :=
  match r.contentType with
  | some ct =>
    if isJsonContentType ct then (Json.Scan.readPrefix reader (Text.decodeLossy r.body)).mapError bodyRejection
    else .error (.text 415 expectedJson)
  | none => .error (.text 415 expectedJson)

def Request.filters (r : Request) : Except Response Filters :=
  (filtersOfQuery r.query).mapError fun msg =>
    .text 400 ("Failed to deserialize query string: " ++ msg)

def storeFailure : StoreFault → Response
  | .invalidDate raw => .error 400 (invalidDateMessage raw)
  | .halted msg => .error 500 ("worker task failed: task 1 panicked with message " ++ Text.quote msg)
  | e => .error 500 e.message

def health (svc : Service) (site : Site) : Response :=
  let h := site.health
  .json (if h.reachable then 200 else 503) (.object [
    ("status", .string (if h.reachable then "healthy" else "degraded")),
    ("version", .string apiVersion),
    ("uptime_seconds", .number (.unsigned 0)),
    ("storage", h.toValue),
    ("queue_dir", .string svc.queueDir)])

def postActivity (svc : Service) (req : Request) (site : Site) : Response × Site :=
  match req.jsonBody Submission.reader with
  | .error r => (r, site)
  | .ok q =>
    let (now, site) := site.now
    let record := q.toRecord svc.rules now
    match site.create record with
    | (.ok stored, site) => (.json 201 stored.toValue, site)
    | (.error _, site) =>
      let (now, site) := site.now
      match Queue.enqueue site.host.volume svc.queueDir record now with
      | .ok (v, path) =>
        (.json 202 (.object [("queued", .bool true), ("queue_file", .string path)]),
          { site with host := { site.host with volume := v } })
      | .error _ => (.error 500 "failed to create activity", site)

def getActivities (req : Request) (site : Site) : Response :=
  match req.filters with
  | .error r => r
  | .ok f =>
    match site.list f with
    | .ok rs => .json 200 (.array (rs.map Record.toValue))
    | .error e => storeFailure e

def getSummary (req : Request) (site : Site) : Response :=
  match req.filters with
  | .error r => r
  | .ok f =>
    match site.summarize f with
    | .ok s => .json 200 s.toValue
    | .error e => storeFailure e

def postClassify (svc : Service) (req : Request) : Response :=
  match req.jsonBody Classify.Signals.reader with
  | .error r => r
  | .ok signals =>
    let c := Classify.classify signals svc.rules
    .json 200 (.object [("category", .string c.category), ("reason", .string c.reason.text)])

def getQueue (svc : Service) (site : Site) : Response :=
  match Queue.inspect site.host.volume svc.queueDir with
  | .error e => .error 500 e.message
  | .ok files =>
    .json 200 (.object [("dir", .string svc.queueDir),
      ("files", .array (files.map Queue.FileStatus.toValue)),
      ("pending", Queue.count (files.foldl (fun n f => n + f.entries) 0))])

def postFlush (svc : Service) (site : Site) : Response × Site :=
  match Queue.flush svc.queueDir .host [] false site with
  | (.ok report, site) => (.json 200 report.toValue, site)
  | (.error e, site) => (.error 500 e.message, site)

def routeMethods (path : String) : Option (List String) :=
  if path == "/health" then some ["GET"]
  else if path == "/api/activity" then some ["POST", "GET"]
  else if path == "/api/activity/summary" then some ["GET"]
  else if path == "/api/classify" then some ["POST"]
  else if path == "/api/queue" then some ["GET"]
  else if path == "/api/queue/flush" then some ["POST"]
  else none

def dispatch (svc : Service) (req : Request) (method : String) (site : Site) : Response × Site :=
  let path := req.path
  if method == "GET" then
    if path == "/health" then (health svc site, site)
    else if path == "/api/activity" then (getActivities req site, site)
    else if path == "/api/activity/summary" then (getSummary req site, site)
    else (getQueue svc site, site)
  else if path == "/api/activity" then postActivity svc req site
  else if path == "/api/classify" then (postClassify svc req, site)
  else postFlush svc site

/-- The response to a request. The cross-origin layer in front of every route, the fallback
included, answers any `OPTIONS` request itself, with an empty success. -/
def Service.handle (svc : Service) (req : Request) (site : Site) : Response × Site :=
  if req.method == "OPTIONS" then (⟨200, .empty⟩, site) else
  match routeMethods req.path with
  | none => (.error 404 "no such route", site)
  | some methods =>
    if methods.contains req.method then dispatch svc req req.method site
    else if req.method == "HEAD" && methods.contains "GET" then
      let (r, site) := dispatch svc req "GET" site
      (⟨r.status, .empty⟩, site)
    else (⟨405, .empty⟩, site)

end TurnLedger.Http
