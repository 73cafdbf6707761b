import Fanout.Http.Target
import Fanout.Http.EventStream
import Fanout.Http.Documents
import Fanout.Text.Percent

/-!
The endpoints of the service: a health check, the event stream, and the documents about them. Each
answers GET, and HEAD without a body.
-/

namespace Fanout.Http

open Text

structure Response where
  status : Nat
  headers : List (String × String)
  /-- The body, unless it is an event stream. -/
  body : Bytes
  deriving DecidableEq, Repr

/-- What a request comes to: a response with a body of its own, one whose body is an event stream
unless only its headers are wanted, or a queue that cannot be made. -/
inductive Answer where
  | plain (response : Response)
  | streaming (response : Response) (stream : Option EventStream)
  | queueTooLong
  deriving DecidableEq, Repr

inductive Endpoint where
  | health
  | events
  | description
  | page
  deriving DecidableEq, Repr

def endpoints : List (String × Endpoint) :=
  [("/health", .health), ("/events", .events), (descriptionPath, .description), ("/rapidoc", .page)]

def Endpoint.find? (path : Bytes) : Option Endpoint :=
  (endpoints.find? fun entry => Utf8.encode entry.1 = path).map (·.2)

def plainText : String := "text/plain; charset=utf-8"

def Response.document (status : Nat) (contentType : String) (body : Bytes) : Response :=
  ⟨status, [("content-length", toString body.length), ("content-type", contentType)], body⟩

def Response.notFound : Response := ⟨404, [], []⟩

/-- The answer to a target whose path does not start with a slash. -/
def Response.noPath : Response := ⟨404, [("content-length", "0")], []⟩

def Response.methodNotAllowed : Response :=
  ⟨405, [("allow", "GET,HEAD"), ("content-length", "0")], []⟩

def Response.eventStream : Response :=
  ⟨200, [("cache-control", "no-cache"), ("content-type", "text/event-stream")], []⟩

def Response.repeatedScope : Response :=
  .document 400 plainText
    (Utf8.encode "Failed to deserialize query string: duplicate field `scope`")

/-- The scope that a query asks for: nothing unless it is named, and none if it is named twice. -/
def scopeOf? (query : Bytes) : Option String :=
  match (formPairs query).filter (·.1 = "scope") with
  | [] => some ""
  | [(_, scope)] => some scope
  | _ => none

/-- Answers a GET request to an endpoint. -/
def get (network : Network) (broker : Nat) (endpoint : Endpoint) (query : Bytes) :
    Logged (Network × Answer) :=
  match endpoint with
  | .health => do
    if !(network.brokers[broker]?).any (·.listening) then .note .notReceiving
    return (network, .plain (.document 200 plainText (Utf8.encode "healthy")))
  | .description => return (network, .plain (.document 200 "application/json" description))
  | .page => return (network, .plain (.document 200 "text/html; charset=utf-8" page))
  | .events =>
    match scopeOf? query with
    | none => return (network, .plain .repeatedScope)
    | some scope => do
      .note (.streamOpening scope)
      match EventStream.start? network broker scope with
      | none => return (network, .queueTooLong)
      | some started => do
        let (network, stream) ← started
        return (network, .streaming .eventStream (some stream))

/-- Leaves out the body of an answer, as HEAD asks for. -/
def withoutBody (network : Network) : Answer → Logged (Network × Answer)
  | .plain response => pure (network, .plain { response with body := [] })
  | .streaming response none => pure (network, .streaming response none)
  | .streaming response (some stream) => do
    return (← stream.drop network, .streaming response none)
  | .queueTooLong => pure (network, .queueTooLong)

/-- Answers a request to a broker. -/
def respond (network : Network) (broker : Nat) (method : String) (target : Target) :
    Logged (Network × Answer) :=
  match target.path with
  | 0x2F :: _ =>
    match Endpoint.find? target.path with
    | none => pure (network, .plain .notFound)
    | some endpoint =>
      if method = "GET" then get network broker endpoint target.query
      else if method = "HEAD" then do
        let (network, answer) ← get network broker endpoint target.query
        withoutBody network answer
      else pure (network, .plain .methodNotAllowed)
  | _ => pure (network, .plain .noPath)

/-- Reads a request's method and target and answers it. -/
def handle (network : Network) (broker : Nat) (method target : String) :
    Except RequestFault (Logged (Network × Answer)) := do
  checkMethod method
  return respond network broker method (← Target.ofBytes (Utf8.encode target))

end Fanout.Http
