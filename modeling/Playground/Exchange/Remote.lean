import Playground.Exchange.Basic
import Playground.Url.Reader

/-!
A share service at a URL. Requests go to paths below the URL's own path, which is taken for a
directory.
-/

namespace Playground.Exchange

structure Remote where
  base : Url
deriving Repr, DecidableEq

namespace Remote

open Text.Quoted

def create (url : String) : Except TransportFault Remote :=
  match Url.parse url with
  | .ok u => .ok ⟨u.asDirectory⟩
  | .error e => .error (.invalidRequest s!"base url {quoted url}: {e.message}")

def target (r : Remote) (path : String) : Except TransportFault Url :=
  match r.base.child (String.ofList (path.toList.dropWhile (· == '/'))) with
  | .ok u => .ok u
  | .error e => .error (.invalidRequest s!"path {quoted path}: {e.message}")

def requestPath : Request → String
  | .post path _ _ => path
  | .get path => path

/-- The URL to which a request goes; it is requested without its credentials, and only of two
schemes. -/
def address (r : Remote) (request : Request) : Except TransportFault Url := do
  let u ← r.target (requestPath request)
  let u := u.withoutCredentials
  if u.scheme = "http" || u.scheme = "https" then return u
  else .error (.connectionFailed s!"builder error for url ({u.text})")

def answer (r : Remote) (network : Url → Request → Answer) (request : Request) : Answer := do
  network (← r.address request) request

end Remote

def unreachable (u : Url) (_ : Request) : Answer :=
  .error (.connectionFailed s!"error sending request for url ({u.text})")

end Playground.Exchange
