import Playground.Handle
import Playground.Share.Http
import Playground.Share.Storage
import Playground.Url.Form

/-!
The share service. A body is published by posting it as a form field, and fetched by its handle; the
service counts what it answered and reports on itself.
-/

namespace Playground.Share

structure Counters where
  publishes : Nat
  created : Nat
  fetches : Nat
  notFound : Nat
  rejected : Nat
  bytes : Nat
deriving Repr, DecidableEq

inductive Counter where
  | publishes
  | created
  | fetches
  | notFound
  | rejected
  | bytes
deriving Repr, DecidableEq

namespace Counters

def zero : Counters := ⟨0, 0, 0, 0, 0, 0⟩

def wrapped (n : Nat) : Nat := n % UInt64.size

def add (c : Counters) (counter : Counter) (amount : Nat) : Counters :=
  match counter with
  | .publishes => { c with publishes := wrapped (c.publishes + amount) }
  | .created => { c with created := wrapped (c.created + amount) }
  | .fetches => { c with fetches := wrapped (c.fetches + amount) }
  | .notFound => { c with notFound := wrapped (c.notFound + amount) }
  | .rejected => { c with rejected := wrapped (c.rejected + amount) }
  | .bytes => { c with bytes := wrapped (c.bytes + amount) }

end Counters

structure Service (σ : Type) where
  maxPayload : Nat
  storage : σ
  counters : Counters

inductive ApiFault where
  | badRequest (reason : String)
  | payloadTooLarge (limit : Nat)
  | notFound (handle : String)
  | storage (e : StorageFault)
deriving Repr, DecidableEq

namespace ApiFault

def status : ApiFault → Nat
  | badRequest _ => 400
  | payloadTooLarge _ => 413
  | notFound _ => 404
  | storage (.collision _) => 409
  | storage _ => 500

def message : ApiFault → String
  | badRequest reason => s!"bad request: {reason}"
  | payloadTooLarge limit => s!"payload too large (limit: {limit} bytes)"
  | notFound handle => s!"share not found: {handle}"
  | storage e => e.message

def response (e : ApiFault) : HttpResponse :=
  if 500 ≤ e.status then .text e.status "internal error" else .text e.status e.message

def isRejection : ApiFault → Bool
  | badRequest _ | payloadTooLarge _ => true
  | _ => false

end ApiFault

/-- What is wrong with a body that is no envelope. -/
inductive ShapeFault where
  | notJson
  | notObject
  | noFiles
deriving Repr, DecidableEq

def ShapeFault.message : ShapeFault → String
  | notJson => "data is not JSON: the text cannot be read"
  | notObject => "data is not a JSON object"
  | noFiles => "data has no files array"

def checkEnvelope (body : String) : Except ShapeFault Unit :=
  match Json.read? body with
  | none => .error .notJson
  | some value =>
    match value.get? "files" with
    | some (.array _) => .ok ()
    | _ => if value.isObject then .error .noFiles else .error .notObject

def formFactor : Nat := 3

def formSlack : Nat := 1024

def maxSize : Nat := 0xffffffffffffffff

def formLimit (maxPayload : Nat) : Nat :=
  min maxSize (min maxSize (maxPayload * formFactor) + formSlack)

def dataField : String := "data"

def formData (body : List UInt8) : Except String String :=
  match (Url.Form.read body).filter fun pair => pair.1 = dataField with
  | [] => .error "missing field \x60data\x60"
  | [pair] => .ok pair.2
  | _ => .error "duplicate field \x60data\x60"

def wrongType : String :=
  "Form requests must have \x60Content-Type: " ++ HttpRequest.formType ++ "\x60"

def postedBody (maxPayload : Nat) (r : HttpRequest) : Except ApiFault String :=
  if !(r.contentType.getD "").startsWith HttpRequest.formType then
    .error (.badRequest wrongType)
  else if formLimit maxPayload < r.body.length then .error (.payloadTooLarge maxPayload)
  else
    match formData r.body with
    | .error reason => .error (.badRequest s!"Failed to deserialize form body: {reason}")
    | .ok data => .ok data

def acceptedBody (maxPayload : Nat) (r : HttpRequest) : Except ApiFault String := do
  let data ← postedBody maxPayload r
  if maxPayload < data.utf8ByteSize then .error (.payloadTooLarge maxPayload)
  else
    match checkEnvelope data with
    | .error e => .error (.badRequest e.message)
    | .ok () => return data

namespace Service

variable {σ : Type} [Storage σ]

def start (maxPayload : Nat) (storage : σ) : Service σ := ⟨maxPayload, storage, .zero⟩

def count (s : Service σ) (counter : Counter) (amount : Nat) : Service σ :=
  { s with counters := s.counters.add counter amount }

def reject (s : Service σ) (e : ApiFault) : Service σ :=
  if e.isRejection then s.count .rejected 1 else s

def countPublish (s : Service σ) (created : Bool) (body : String) : Service σ :=
  let c := (s.counters.add .publishes 1).add .bytes body.utf8ByteSize
  { s with counters := if created then c.add .created 1 else c }

def publish (s : Service σ) (r : HttpRequest) : HttpResponse × Service σ :=
  match acceptedBody s.maxPayload r with
  | .error e => (e.response, s.reject e)
  | .ok body =>
    let handle := contentHandle body
    match Storage.put s.storage handle body with
    | (.ok created, storage) => (.text 200 handle, { s with storage }.countPublish created body)
    | (.error e, storage) => ((ApiFault.storage e).response, { s with storage })

def jsonType : String := "application/json"

def fetch (s : Service σ) (token : String) : HttpResponse × Service σ :=
  match Handle.parse token with
  | .error e => ((ApiFault.badRequest e.message).response, s)
  | .ok handle =>
    match Storage.body? s.storage handle.token with
    | .error e => ((ApiFault.storage e).response, s)
    | .ok (some body) => (⟨200, some jsonType, none, body⟩, s.count .fetches 1)
    | .ok none => ((ApiFault.notFound handle.token).response, s.count .notFound 1)

def version : String := "0.1.0"

def health (s : Service σ) (uptime : Nat) : HttpResponse :=
  let (status, shares) := match Storage.count s.storage with
    | .ok n => ("ok", Json.number (.int n))
    | .error _ => ("degraded", Json.null)
  let report := Json.object [("status", .text status), ("version", .text version),
    ("shares", shares), ("uptime_seconds", .number (.int uptime))]
  ⟨200, some jsonType, none, report.print⟩

def metric (name kind help labels : String) (value : Nat) : String :=
  s!"# HELP sandbox_share_{name} {help}\n# TYPE sandbox_share_{name} {kind}\n" ++
    s!"sandbox_share_{name}{labels} {value}\n"

def metricsType : String := "text/plain; version=0.0.4; charset=utf-8"

def metrics (s : Service σ) (uptime : Nat) : HttpResponse :=
  let stored := match Storage.count s.storage with
    | .ok n => n
    | .error _ => 0
  let label := "\x7bversion=\"" ++ version ++ "\"\x7d"
  let c := s.counters
  let parts := [
    metric "info" "gauge" "Server information" label 1,
    metric "uptime_seconds" "gauge" "Seconds since startup" "" uptime,
    metric "publishes_total" "counter" "Publish requests accepted" "" c.publishes,
    metric "created_total" "counter" "Publishes that stored a new share" "" c.created,
    metric "fetches_total" "counter" "Fetches answered with a share" "" c.fetches,
    metric "not_found_total" "counter" "Fetches for unknown handles" "" c.notFound,
    metric "rejected_total" "counter" "Publishes rejected as malformed or too large" "" c.rejected,
    metric "bytes_received_total" "counter" "Envelope bytes received" "" c.bytes,
    metric "stored" "gauge" "Shares currently in the database" "" stored]
  ⟨200, some metricsType, none, String.intercalate "\n" parts⟩

inductive Route where
  | publish
  | fetch (segment : String)
  | health
  | metrics
  | nowhere
deriving Repr, DecidableEq

def route (path : String) : Route :=
  match path.toList with
  | '/' :: 's' :: 'h' :: 'a' :: 'r' :: 'e' :: rest =>
    match rest with
    | [] => .publish
    | '/' :: segment =>
      if segment.isEmpty || segment.contains '/' then .nowhere
      else .fetch (String.ofList segment)
    | _ => .nowhere
  | _ =>
    if path = "/health" then .health
    else if path = "/metrics" then .metrics
    else .nowhere

def segmentToken (segment : String) : Option String :=
  match Text.Utf8.decode ⟨(Url.Percent.decodeText segment).toArray⟩ with
  | .ok token => some token
  | .error _ => none

def fetchSegment (s : Service σ) (segment : String) : HttpResponse × Service σ :=
  match segmentToken segment with
  | some token => s.fetch token
  | none => (.text 400 "Invalid URL: Invalid UTF-8 in \x60handle\x60", s)

def reading (method : String) (answer : HttpResponse × Service σ) (s : Service σ) :
    HttpResponse × Service σ :=
  if method = "GET" then answer
  else if method = "HEAD" then (answer.1.withoutBody, answer.2)
  else (.notAllowed "GET,HEAD", s)

def answer (s : Service σ) (uptime : Nat) (r : HttpRequest) : HttpResponse × Service σ :=
  match route r.path with
  | .publish => if r.method = "POST" then s.publish r else (.notAllowed "POST", s)
  | .fetch segment => reading r.method (s.fetchSegment segment) s
  | .health => reading r.method (s.health uptime, s) s
  | .metrics => reading r.method (s.metrics uptime, s) s
  | .nowhere => (.unknownPath, s)

end Service

end Playground.Share
