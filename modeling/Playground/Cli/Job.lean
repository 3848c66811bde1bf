import Playground.Disk

/-!
Jobs: what a command does to the world it runs in. A job that fails keeps what it did so far, and
says why with a message and the causes behind it.
-/

namespace Playground.Cli

/-- The files a command works on, what it is given to read, and what it printed. -/
structure World where
  disk : Disk
  input : String
  out : String
  err : String

/-- A failure: what could not be done, and the causes, the nearest first. -/
structure Failure where
  message : String
  causes : List String
deriving Repr, DecidableEq

namespace Failure

def behind (e : Failure) (message : String) : Failure := ⟨message, e.message :: e.causes⟩

def causeText (number : Option Nat) (cause : String) : String :=
  let (first, next) := match number with
    | some n =>
      let digits := toString n
      (String.ofList (List.replicate (5 - digits.length) ' ') ++ digits ++ ": ", "\n       ")
    | none => ("    ", "\n    ")
  first ++ next.intercalate (cause.splitOn "\n")

def causeTexts (n : Nat) : List String → List String
  | [] => []
  | cause :: rest => causeText (some n) cause :: causeTexts (n + 1) rest

def report (e : Failure) : String :=
  let causes := match e.causes with
    | [] => []
    | [cause] => [causeText none cause]
    | causes => causeTexts 0 causes
  let list := String.join (causes.map ("\n" ++ ·))
  "Error: " ++ e.message ++ (if causes.isEmpty then "" else "\n\nCaused by:" ++ list) ++ "\n"

end Failure

abbrev Job (α : Type) := ExceptT Failure (StateM World) α

namespace Job

def fail {α : Type} (message : String) : Job α := throw ⟨message, []⟩

def failWith {α : Type} (message cause : String) : Job α := throw ⟨message, [cause]⟩

def write (text : String) : Job Unit := modify fun w => { w with out := w.out ++ text }

def printLine (text : String) : Job Unit := write (text ++ "\n")

def warn (text : String) : Job Unit := modify fun w => { w with err := w.err ++ text ++ "\n" }

def onDisk (f : Disk → Except Disk.Fault Disk) (message : String) : Job Unit := do
  match f (← get).disk with
  | .ok disk => modify fun w => { w with disk }
  | .error e => failWith message e.message

def readFile (path message : String) : Job String := do
  match (← get).disk.readText path with
  | .ok text => return text
  | .error e => failWith message e.message

def runIn {α : Type} (job : Job α) (w : World) : Except Failure α × World := job.run.run w

end Job

def below (directory name : String) : String :=
  if Disk.asksDirectory directory then directory ++ name else directory ++ "/" ++ name

end Playground.Cli
