import TurnLedger.Json.Value

/-!
# Requests and responses

A request has a method, a target (path, optional query and optional fragment, which is not
looked at), an optional content type and a body. A response has a status and a body that is empty, a JSON value or plain text.
-/

namespace TurnLedger.Http

structure Request where
  method : String := "GET"
  target : String
  contentType : Option String := none
  body : ByteArray := ByteArray.empty

inductive Body where
  | empty
  | json (value : Json.Value)
  | text (content : String)

structure Response where
  status : Nat
  body : Body

def Response.json (status : Nat) (v : Json.Value) : Response := ⟨status, .json v⟩

def Response.text (status : Nat) (s : String) : Response := ⟨status, .text s⟩

def Response.error (status : Nat) (message : String) : Response :=
  .json status (.object [("error", .string message)])

/-- The target without its fragment: everything before the first `#`, which a client keeps to
itself. -/
def Request.resource (r : Request) : String := (r.target.splitOn "#").headD ""

def Request.path (r : Request) : String := (r.resource.splitOn "?").headD ""

/-- The query of a target: everything after the first `?`, empty when there is none. -/
def Request.query (r : Request) : String :=
  match r.resource.splitOn "?" with
  | _ :: rest => "?".intercalate rest
  | [] => ""

end TurnLedger.Http
