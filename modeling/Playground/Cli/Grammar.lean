/-!
Grammars of command lines. A command has options, which are named, slots, which are filled in order,
and commands of its own. Global options can be given at each command on the way.
-/

namespace Playground.Cli

inductive Takes where
  | nothing
  | text
  | path
  | number
  | help
  | version
deriving Repr, DecidableEq

structure Opt where
  name : String
  short : Option Char
  takes : Takes
  about : String
deriving Repr, DecidableEq

structure Slot where
  name : String
  required : Bool
  about : String
deriving Repr, DecidableEq

structure Grammar where
  name : String
  about : String
  options : List Opt
  slots : List Slot
  conflicts : List (String × String)
  commands : List Grammar

namespace Opt

def takesValue (o : Opt) : Bool :=
  match o.takes with
  | .text | .path | .number => true
  | _ => false

def maxNumber : Nat := 0xffffffffffffffff

def number? (value : String) : Option Nat :=
  let digits := match value.toList with
    | '+' :: rest => rest
    | rest => rest
  let n := digits.foldl (fun n c => n * 10 + (c.toNat - 48)) 0
  if !digits.isEmpty && digits.all Char.isDigit && n ≤ maxNumber then some n else none

def accepts (o : Opt) (value : String) : Bool :=
  match o.takes with
  | .path => value ≠ ""
  | .number => (number? value).isSome
  | _ => true

end Opt

inductive Stop where
  | usage
  | help (path : List String)
  | version
deriving Repr, DecidableEq

namespace Grammar

def helpOption : Opt := ⟨"help", some 'h', .help, "Print help"⟩
def versionOption : Opt := ⟨"version", some 'V', .version, "Print version"⟩

def helpCommand : Grammar where
  name := "help"
  about := "Print this message or the help of the given subcommand(s)"
  options := []
  slots := [⟨"COMMAND", false, "Print help for the subcommand(s)"⟩]
  conflicts := []
  commands := []

def allCommands (g : Grammar) : List Grammar :=
  if g.commands.isEmpty then [] else g.commands ++ [helpCommand]

def command? (g : Grammar) (name : String) : Option Grammar :=
  g.allCommands.find? fun c => c.name = name

def leads (g : Grammar) : List String → Bool
  | [] => true
  | name :: rest =>
    match g.command? name with
    | some c => leads c rest
    | none => false

end Grammar

/-- What a command was given so far. An option that was named last is pending: its value is to come,
or is not looked at yet. -/
structure Level where
  grammar : Grammar
  options : List Opt
  given : List (String × String)
  pending : Option (Opt × Option String)
  slots : List String
  escaped : Bool

namespace Level

def start (g : Grammar) (options : List Opt) : Level := ⟨g, options, [], none, [], false⟩

def give (l : Level) (o : Opt) (value : String) : Except Stop Level :=
  if l.given.any (fun entry => entry.1 = o.name) || !o.accepts value then .error .usage
  else .ok { l with given := l.given ++ [(o.name, value)] }

def settle (l : Level) : Except Stop Level :=
  match l.pending with
  | none => .ok l
  | some (_, none) => .error .usage
  | some (o, some value) => { l with pending := none }.give o value

def raise (l : Level) (path : List String) (o : Opt) : Except Stop Level := do
  let l ← l.settle
  match o.takes with
  | .help => .error (.help path)
  | .version => .error .version
  | _ => l.give o ""

def attach (l : Level) (o : Opt) (value : String) : Except Stop Level := do
  let l ← l.settle
  l.give o value

def await (l : Level) (o : Opt) : Except Stop Level := do
  let l ← l.settle
  return { l with pending := some (o, none) }

def takeLong (l : Level) (path : List String) (cs : List Char) : Except Stop Level :=
  let name := String.ofList (cs.takeWhile (· ≠ '='))
  match l.options.find? fun o => o.name = name with
  | none => .error .usage
  | some o =>
    match cs.dropWhile (· ≠ '='), o.takesValue with
    | [], true => l.await o
    | [], false => l.raise path o
    | _ :: value, true => l.attach o (String.ofList value)
    | _ :: _, false => .error .usage

/-- Takes options by their letters; behind one that takes a value, the value follows. -/
def takeShort (l : Level) (path : List String) : List Char → Except Stop Level
  | [] => .ok l
  | c :: rest =>
    match l.options.find? fun o => o.short = some c with
    | none => .error .usage
    | some o =>
      if o.takesValue then
        match rest with
        | [] => l.await o
        | '=' :: value => l.attach o (String.ofList value)
        | value => l.attach o (String.ofList value)
      else do takeShort (← l.raise path o) path rest

def fill (l : Level) (arg : String) : Except Stop Level := do
  if l.slots.length < l.grammar.slots.length then
    let l ← l.settle
    return { l with slots := l.slots ++ [arg] }
  else .error .usage

def isAwaiting (l : Level) : Bool :=
  match l.pending with
  | some (_, none) => true
  | _ => false

/-- Takes an argument that names no command. After two dashes alone, everything fills slots. -/
def take (l : Level) (path : List String) (arg : String) : Except Stop Level :=
  if l.escaped then l.fill arg
  else
    match arg.toList with
    | ['-', '-'] => .ok { l with escaped := true }
    | '-' :: '-' :: rest => l.takeLong path rest
    | '-' :: c :: rest => l.takeShort path (c :: rest)
    | _ =>
      match l.pending with
      | some (o, none) => .ok { l with pending := some (o, some arg) }
      | _ => l.fill arg

def command? (l : Level) (arg : String) : Option Grammar :=
  if l.escaped || l.isAwaiting then none else l.grammar.command? arg

def isGiven (l : Level) (name : String) : Bool := l.given.any fun entry => entry.1 = name

/-- Whether everything is there that has to be, and nothing beside what it excludes. -/
def isComplete (l : Level) : Bool :=
  let required := (l.grammar.slots.filter Slot.required).length
  required ≤ l.slots.length && l.grammar.conflicts.all fun (a, b) => !(l.isGiven a && l.isGiven b)

end Level

/-- What a command line says: the names of the command, the options that were given, of which the
first counts, and what fills the slots. -/
structure Matches where
  path : List String
  given : List (String × String)
  slots : List String
deriving Repr, DecidableEq

namespace Matches

def value? (m : Matches) (name : String) : Option String := m.given.lookup name

def isSet (m : Matches) (name : String) : Bool := (m.value? name).isSome

end Matches

namespace Grammar

def descend (globals : List Opt) (outer : List Level) (l : Level) :
    List String → Except Stop (List Level)
  | [] => .ok (l :: outer)
  | arg :: rest =>
    let path := (l :: outer).reverse.map fun l => l.grammar.name
    match l.command? arg with
    | some g =>
      if g.name = helpCommand.name then
        if l.grammar.leads rest then .error (.help (path ++ rest)) else .error .usage
      else descend globals (l :: outer) (.start g (g.options ++ globals ++ [helpOption])) rest
    | none => do descend globals outer (← l.take path arg) rest

/-- Brings together what the commands on the way were given; the last one has no commands left. -/
def gather (levels : List Level) : Except Stop Matches := do
  let levels ← levels.mapM Level.settle
  match levels with
  | [] => .error .usage
  | l :: _ =>
    if levels.all Level.isComplete && l.grammar.commands.isEmpty then
      return ⟨levels.reverse.map fun l => l.grammar.name, levels.flatMap Level.given, l.slots⟩
    else .error .usage

/-- Reads the arguments of a command line. The options of the grammar itself are global. -/
def read (g : Grammar) (args : List String) : Except Stop Matches := do
  let options := g.options ++ [helpOption, versionOption]
  gather (← descend g.options [] (.start g options) args)

end Grammar

end Playground.Cli
