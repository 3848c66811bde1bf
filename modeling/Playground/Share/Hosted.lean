import Playground.Exchange.Gated
import Playground.Exchange.Remote
import Playground.Share.Service

/-!
A remote share service that is at hand: requests that would go through a network are answered by
the service itself.
-/

namespace Playground.Share

open Exchange

def received (u : Url) : Request → HttpRequest
  | .post _ field value => .form u.path.text field value
  | .get _ => .get u.path.text

structure Hosted (σ : Type) where
  remote : Remote
  service : Service σ

namespace Hosted

variable {σ : Type} [Storage σ]

def send (h : Hosted σ) (request : Request) : Answer × Hosted σ :=
  match h.remote.address request with
  | .error e => (.error e, h)
  | .ok u =>
    let (response, service) := h.service.answer 0 (received u request)
    (.ok ⟨response.status, response.body⟩, { h with service })

instance : Gates (Hosted σ) where
  take h request :=
    let (answer, h) := h.send request
    (answer, none, h)
  isOpen _ _ := true

end Hosted

end Playground.Share
