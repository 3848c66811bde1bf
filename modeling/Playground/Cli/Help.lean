import Playground.Cli.Grammar

/-!
Help on commands: what a command does, how it is used, and lists of its commands, slots and options.
-/

namespace Playground.Cli

def upper (name : String) : String :=
  String.ofList (name.toList.map fun c => if c = '-' then '_' else c.toUpper)

namespace Opt

def label (o : Opt) : String :=
  if o.takesValue then s!"--{o.name} <{upper o.name}>" else s!"--{o.name}"

def letter (o : Opt) : String :=
  match o.short with
  | some c => String.ofList ['-', c, ',', ' ']
  | none => "    "

def sortKey (o : Opt) : String :=
  match o.short with
  | some c => String.ofList [c.toLower, if c.isLower then '0' else '1']
  | none => o.name

end Opt

namespace Slot

def label (s : Slot) : String := if s.required then s!"<{s.name}>" else s!"[{s.name}]"

end Slot

namespace Grammar

def find? (g : Grammar) : List String → Option Grammar
  | [] => some g
  | name :: rest => (g.command? name).bind fun c => find? c rest

def width : Nat := 100

/-- Whether texts go on lines of their own, since labels are wide and some text is too long to stand
beside its label. -/
def breaks (taken : Nat) (texts : List String) : Bool :=
  40 < taken && texts.any fun text => width - taken < text.length

def pad (n : Nat) (s : String) : String := s ++ String.ofList (List.replicate (n - s.length) ' ')

def listing (title : String) (entries : List (String × String × String)) : String :=
  let longest := (entries.map fun (_, label, _) => label.length).foldl max 0
  let leads := (entries.map fun (lead, _, _) => lead.length).foldl max 0
  let apart := breaks (2 + leads + longest + 2) (entries.map fun (_, _, text) => text)
  let line := fun (lead, label, text) =>
    if apart then s!"  {lead}{label}\n          {text}\n"
    else s!"  {lead}{pad longest label}  {text}\n"
  if entries.isEmpty then "" else s!"\n{title}:\n" ++ String.join (entries.map line)

/-- Options with their ranks. Global ones have ranks of their own beside the command's. -/
def ranked (own globals last : List Opt) : List Opt :=
  let entries := own.zipIdx ++ globals.zipIdx ++ last.map fun o => (o, own.length + globals.length)
  (entries.mergeSort fun (a, i) (b, j) =>
    i < j || (i == j && decide (a.sortKey ≤ b.sortKey))).map Prod.fst

def help (g : Grammar) (path : List String) (globals : List Opt) : String :=
  let isRoot := path.length == 1
  let isHelp := g.name == helpCommand.name
  let last := if isRoot then [helpOption, versionOption] else [helpOption]
  let options := if isHelp then [] else ranked g.options (if isRoot then [] else globals) last
  let usage := String.join (g.slots.map fun s => " " ++ s.label)
  let more := if isHelp then "..." else if g.commands.isEmpty then "" else " <COMMAND>"
  let words := String.intercalate " " path ++ (if isHelp then "" else " [OPTIONS]")
  let each := if isHelp then "..." else ""
  s!"{g.about}\n\nUsage: {words}{usage}{more}\n" ++
    listing "Commands" (g.allCommands.map fun c => ("", c.name, c.about)) ++
    listing "Arguments" (g.slots.map fun s => ("", s.label ++ each, s.about)) ++
    listing "Options" (options.map fun o => (o.letter, o.label, o.about))

/-- The help on the command to which a path leads; the path begins with the grammar's own name. -/
def helpAt (g : Grammar) (path : List String) : String :=
  match g.find? (path.drop 1) with
  | some c => c.help path g.options
  | none => ""

end Grammar

end Playground.Cli
