import Playground.Envelope
import Playground.Handle
import Playground.Text.Blank

/-!
The exchange with the share service. A project is published by posting its envelope, which is
answered with a handle, and fetched by its handle, which is answered with an envelope. Neither
answer is trusted.
-/

namespace Playground.Exchange

inductive Request where
  | post (path field value : String)
  | get (path : String)
deriving Repr, DecidableEq

structure Response where
  status : Nat
  body : String
deriving Repr, DecidableEq

def Response.isSuccess (r : Response) : Bool := 200 ≤ r.status && r.status < 300

inductive TransportFault where
  | connectionFailed (reason : String)
  | timeout
  | invalidRequest (reason : String)
deriving Repr, DecidableEq

def TransportFault.kind : TransportFault → String
  | connectionFailed _ => "ConnectionFailed"
  | timeout => "Timeout"
  | invalidRequest _ => "InvalidRequest"

def TransportFault.message : TransportFault → String
  | connectionFailed reason => s!"connection failed: {reason}"
  | timeout => "request timeout"
  | invalidRequest reason => s!"invalid request: {reason}"

abbrev Answer := Except TransportFault Response

inductive Fault where
  | transport (e : TransportFault)
  | status (n : Nat)
  | handle (token : String)
  | envelope (e : Envelope.Fault)
deriving Repr, DecidableEq

def Fault.message : Fault → String
  | transport e => s!"transport error: {e.message}"
  | status n => s!"share service error: status {n}"
  | handle token => Handle.Invalid.message ⟨token⟩
  | envelope e => s!"malformed envelope: {e.message}"

def Fault.summary : Fault → String
  | status n => s!"{n}"
  | e => e.message

def sharePath : String := "/share"
def dataField : String := "data"

def publishRequest (body : String) : Request := .post sharePath dataField body

def fetchRequest (h : Handle) : Request := .get (sharePath ++ "/" ++ h.token)

def body : Answer → Except Fault String
  | .error e => .error (.transport e)
  | .ok r => if r.isSuccess then .ok r.body else .error (.status r.status)

def publishedHandle (answer : Answer) : Except Fault Handle := do
  let token := Text.trim (← body answer)
  match Handle.parse token with
  | .ok h => return h
  | .error e => .error (.handle e.token)

def fetchedSnapshot (answer : Answer) : Except Fault Snapshot := do
  match Snapshot.ofText (← body answer) with
  | .ok s => return s
  | .error e => .error (.envelope e)

class Transport (τ : Type) where
  send : τ → Request → Answer × τ

end Playground.Exchange
