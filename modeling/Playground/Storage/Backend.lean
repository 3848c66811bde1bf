import Playground.Handle

/-!
Storage backends. A backend keeps texts under keys; either access may fail, and says why.
-/

namespace Playground.Storage

structure Unavailable where
  reason : String
deriving Repr, DecidableEq

def Unavailable.message (e : Unavailable) : String :=
  s!"storage backend unavailable: {e.reason}"

class Backend (β : Type) where
  /-- The text under a key, if there is one. -/
  load : β → String → Except Unavailable (Option String)
  /-- Puts a text under a key in place of the one that is there. -/
  save : β → String → String → Except Unavailable Unit × β

end Playground.Storage
