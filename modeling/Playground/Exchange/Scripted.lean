import Playground.Exchange.Basic
import Playground.Keyed

/-!
A scripted share service. Answers can be queued for a path and failures forced; where nothing is
queued it keeps the bodies that are posted and serves them under numbered handles. An answer can be
held back by a gate, which is named by a number.
-/

namespace Playground.Exchange

structure Scripted where
  posted : List (String × String × String)
  requested : List String
  responses : List (String × Response)
  gates : List (String × Nat)
  shares : List (String × String)
  failPost : Option String
  failGet : Option String
deriving Repr

namespace Scripted

def empty : Scripted := ⟨[], [], [], [], [], none, none⟩

def queue (s : Scripted) (path : String) (r : Response) : Scripted :=
  { s with responses := s.responses ++ [(path, r)] }

def gate (s : Scripted) (path : String) (name : Nat) : Scripted :=
  { s with gates := s.gates ++ [(path, name)] }

def insertShare (s : Scripted) (token body : String) : Scripted :=
  { s with shares := Keyed.put token body s.shares }

def takeFirst {α : Type} (path : String) : List (String × α) → Option (α × List (String × α))
  | [] => none
  | entry :: rest =>
    if entry.1 = path then some (entry.2, rest)
    else (takeFirst path rest).map fun (value, rest) => (value, entry :: rest)

def takeGate (s : Scripted) (path : String) : Option Nat × Scripted :=
  match takeFirst path s.gates with
  | some (name, gates) => (some name, { s with gates })
  | none => (none, s)

def numberedToken (n : Nat) : String :=
  let digits := Text.Hex.ofNat n
  String.ofList (List.replicate (8 - digits.length) '0' ++ digits)

def storeShare (s : Scripted) (body : String) : Response × Scripted :=
  let token := numberedToken (s.shares.length + 1)
  (⟨200, token⟩, s.insertShare token body)

def notFound : Response := ⟨404, "not found"⟩

def loadShare (s : Scripted) (path : String) : Response :=
  match path.toList with
  | '/' :: 's' :: 'h' :: 'a' :: 'r' :: 'e' :: '/' :: token =>
    match s.shares.lookup (String.ofList token) with
    | some body => ⟨200, body⟩
    | none => notFound
  | _ => notFound

def answerPost (s : Scripted) (path value : String) : Response × Scripted :=
  match takeFirst path s.responses with
  | some (r, responses) => (r, { s with responses })
  | none => if path = sharePath then s.storeShare value else (notFound, s)

def answerGet (s : Scripted) (path : String) : Response × Scripted :=
  match takeFirst path s.responses with
  | some (r, responses) => (r, { s with responses })
  | none => (s.loadShare path, s)

def take (s : Scripted) : Request → Answer × Option Nat × Scripted
  | .post path field value =>
    match s.failPost with
    | some reason => (.error (.connectionFailed reason), none, { s with failPost := none })
    | none =>
      let (r, s) := { s with posted := s.posted ++ [(path, field, value)] }.answerPost path value
      let (gate, s) := s.takeGate path
      (.ok r, gate, s)
  | .get path =>
    match s.failGet with
    | some reason => (.error (.connectionFailed reason), none, { s with failGet := none })
    | none =>
      let (r, s) := { s with requested := s.requested ++ [path] }.answerGet path
      let (gate, s) := s.takeGate path
      (.ok r, gate, s)

def send (s : Scripted) (request : Request) : Answer × Scripted :=
  let (answer, _, s) := s.take request
  (answer, s)

instance : Transport Scripted := ⟨send⟩

end Scripted

end Playground.Exchange
