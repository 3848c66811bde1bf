import Playground.Exchange.Gated
import Playground.Session.Basic

/-!
Calls of a session that are under way. A call sends its request at once; while a gate holds the
answer it waits, and other steps go on. Once its gate is open it runs to its end, and its outcome
is kept until somebody asks for it. A call whose name is given to another one runs to its end all
the same, but nobody asks for it any more.
-/

namespace Playground.Session

open Storage Exchange

inductive Flight where
  | publish (answer : Answer)
  | navigate (generation : Nat) (handle : Handle) (answer : Answer)

inductive Outcome where
  | published (result : Except Fault Handle)
  | navigated (result : Except Fault Navigation)

inductive Call where
  | held (gate : Nat) (flight : Flight)
  | done (outcome : Outcome)

/-- A session, the service it talks to, its calls by name, and the gates of those that have lost
their names. -/
structure Calls (β τ : Type) where
  session : Session β
  service : τ
  calls : List (String × Call)
  nameless : List (Nat × Flight)

variable {β τ : Type} [Backend β] [Gates τ]

def land (s : Session β) : Flight → Session β × Outcome
  | .publish answer =>
    let (s, result) := s.completePublish answer
    (s, .published result)
  | .navigate generation h answer =>
    let (s, result) := s.arrive generation h answer
    (s, .navigated result)

namespace Calls

def start (session : Session β) (service : τ) : Calls β τ := ⟨session, service, [], []⟩

def hold (c : Calls β τ) (name : String) (gate : Nat) (flight : Flight) : Calls β τ :=
  let before := match c.calls.lookup name with
    | some (.held gate flight) => [(gate, flight)]
    | _ => []
  { c with
    calls := Keyed.put name (.held gate flight) c.calls
    nameless := c.nameless ++ before }

def send (c : Calls β τ) (name : String) (request : Request) (flight : Answer → Flight) :
    Calls β τ × Option Outcome :=
  let (answer, gate, service) := Gates.take c.service request
  match gate.filter fun n => !Gates.isOpen service n with
  | some n => ({ c with service }.hold name n (flight answer), none)
  | none =>
    let (session, outcome) := c.session.land (flight answer)
    ({ c with session, service }, some outcome)

def publish (c : Calls β τ) (name : String) : Calls β τ × Option Outcome :=
  c.send name c.session.publishRequest .publish

def navigate (c : Calls β τ) (name path : String) : Calls β τ × Option Outcome :=
  let (generation, session) := c.session.announce
  match session.depart path with
  | (none, session) => ({ c with session }, some (.navigated (.ok .cleared)))
  | (some h, session) =>
    { c with session }.send name (fetchRequest h) (.navigate generation h)

def visit (c : Calls β τ) (name path : String) : Calls β τ × Option Outcome :=
  { c with session := c.session.push path }.navigate name path

def landOpen (c : Calls β τ) (entry : String × Call) : Calls β τ :=
  match entry.2 with
  | .held n flight =>
    if Gates.isOpen c.service n then
      let (session, outcome) := c.session.land flight
      { c with session, calls := Keyed.put entry.1 (.done outcome) c.calls }
    else c
  | .done _ => c

def landNameless (c : Calls β τ) (entry : Nat × Flight) : Calls β τ :=
  { c with session := (c.session.land entry.2).1 }

def settle (c : Calls β τ) : Calls β τ :=
  let (ready, waiting) := c.nameless.partition fun entry => Gates.isOpen c.service entry.1
  let c := ready.foldl landNameless { c with nameless := waiting }
  c.calls.foldl landOpen c

/-- The outcome of a call: `none` if there is no such call, and no outcome while it is held. -/
def join (c : Calls β τ) (name : String) : Option (Option Outcome) × Calls β τ :=
  match c.calls.lookup name with
  | some (.held _ _) => (some none, c)
  | some (.done outcome) =>
    (some (some outcome), { c with calls := c.calls.filter fun entry => entry.1 ≠ name })
  | none => (none, c)

end Calls

end Playground.Session
