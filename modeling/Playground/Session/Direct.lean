import Playground.Session.Basic

/-!
Sessions whose requests are answered at once, with nothing in between.
-/

namespace Playground.Session

open Storage Exchange

variable {β τ : Type} [Backend β] [Transport τ]

def publish (s : Session β) (t : τ) : Except Fault Handle × Session β × τ :=
  let (answer, t) := Transport.send t s.publishRequest
  let (s, result) := s.completePublish answer
  (result, s, t)

def navigate (s : Session β) (t : τ) (path : String) : Except Fault Navigation × Session β × τ :=
  let (generation, s) := s.announce
  match s.depart path with
  | (none, s) => (.ok .cleared, s, t)
  | (some h, s) =>
    let (answer, t) := Transport.send t (fetchRequest h)
    let (s, result) := s.arrive generation h answer
    (result, s, t)

def visit (s : Session β) (t : τ) (path : String) : Except Fault Navigation × Session β × τ :=
  (s.push path).navigate t path

/-- Opens a session at a location, with the share that the location names. A share that cannot be
loaded leaves the session as it was seeded. -/
def start (config : Config) (t : τ) (b : β) (n : Navigator) (l : Location) : Session β × τ :=
  let s := seed config b n l
  if l.handle.isSome then
    let (_, s, t) := s.navigate t l.path
    (s, t)
  else (s, t)

end Playground.Session
