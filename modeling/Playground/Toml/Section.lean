import Playground.Keyed
import Playground.Toml.Basic

/-!
How the tables of a configuration file come about. A header names a table or the next item of an
array of tables and opens it; assignments fill the table that is open. A table that was only passed
through by a header can be opened later, one that was made by a dotted name can be added to by
dotted names in the same table, and any other is complete.
-/

namespace Playground.Toml

inductive Mark where
  | opened
  | passed
  | dotted
deriving Repr, DecidableEq

/-- What a name stands for while the file is read. -/
inductive Entry where
  | value (v : Toml)
  | table (mark : Mark) (entries : List (String × Entry))
  | tables (earlier : List (List (String × Entry))) (last : List (String × Entry))

abbrev Section := List (String × Entry)

namespace Entry

mutual

def toml : Entry → Toml
  | value v => v
  | table _ entries => .table (members entries)
  | tables earlier last => .array (items earlier ++ [.table (members last)])

def members : Section → List (String × Toml)
  | [] => []
  | (name, entry) :: rest => (name, entry.toml) :: members rest

def items : List Section → List Toml
  | [] => []
  | entries :: rest => .table (members entries) :: items rest

end

end Entry

namespace Section

/-- Changes the table at a path. Tables that are missing are made with a mark; a dotted name passes
through no table that was opened. -/
def within (mark : Mark) (f : Option Mark → Section → Option Section) :
    List String → Option Mark → Section → Option Section
  | [], own, s => f own s
  | name :: rest, _, s =>
    match s.lookup name with
    | none => do
      let sub ← within mark f rest (some mark) []
      return Keyed.put name (.table mark sub) s
    | some (.value _) => none
    | some (.table own sub) => do
      if mark = .dotted ∧ own = .opened then none
      else
        let sub ← within mark f rest (some own) sub
        return Keyed.put name (.table own sub) s
    | some (.tables earlier last) => do
      let last ← within mark f rest (some .opened) last
      return Keyed.put name (.tables earlier last) s

def define (name : String) (v : Toml) (s : Section) : Option Section :=
  if (s.lookup name).isSome then none else some (s ++ [(name, .value v)])

/-- Gives a name a value; all but its last part lead through tables that dotted names made. -/
def assign (path : List String) (v : Toml) (s : Section) : Option Section :=
  match path.getLast? with
  | none => none
  | some name =>
    within .dotted (fun own s =>
      if own = none ∨ own = some .dotted then define name v s else none) path.dropLast none s

def toml (s : Section) : Toml := .table (Entry.members s)

end Section

inductive Header where
  | root
  | table (path : List String)
  | item (path : List String)
deriving Repr, DecidableEq

/-- A file that is being read: the tables that are complete, and the one that is open. -/
structure Draft where
  tables : Section
  header : Header
  current : Section

namespace Draft

def empty : Draft := ⟨[], .root, []⟩

def atParent (s : Section) (path : List String) (f : String → Section → Option Section) :
    Option Section :=
  match path.getLast? with
  | none => none
  | some name => Section.within .passed (fun _ s => f name s) path.dropLast none s

def close (d : Draft) : Option Section :=
  match d.header with
  | .root => some d.current
  | .table path =>
    atParent d.tables path fun name s => some (Keyed.put name (.table .opened d.current) s)
  | .item path =>
    atParent d.tables path fun name s =>
      match s.lookup name with
      | none => some (s ++ [(name, .tables [] d.current)])
      | some (.tables earlier last) =>
        some (Keyed.put name (.tables (earlier ++ [last]) d.current) s)
      | some _ => none

def openable (name : String) (s : Section) : Option Section :=
  match s.lookup name with
  | none => some []
  | some (.table .passed sub) => some sub
  | some _ => none

def entriesAt (s : Section) : List String → Option Section
  | [] => none
  | [name] => openable name s
  | name :: rest =>
    match s.lookup name with
    | none => some []
    | some (.value _) => none
    | some (.table _ sub) => entriesAt sub rest
    | some (.tables _ last) => entriesAt last rest

def openTable (d : Draft) (path : List String) : Option Draft := do
  let tables ← d.close
  return ⟨tables, .table path, ← entriesAt tables path⟩

def canExtend (s : Section) : List String → Bool
  | [] => false
  | [name] =>
    match s.lookup name with
    | none => true
    | some (.tables _ _) => true
    | some _ => false
  | name :: rest =>
    match s.lookup name with
    | none => true
    | some (.value _) => false
    | some (.table _ sub) => canExtend sub rest
    | some (.tables _ last) => canExtend last rest

def openItem (d : Draft) (path : List String) : Option Draft := do
  let tables ← d.close
  if canExtend tables path then return ⟨tables, .item path, []⟩ else none

def assign (d : Draft) (path : List String) (v : Toml) : Option Draft := do
  return { d with current := ← d.current.assign path v }

def toml? (d : Draft) : Option Toml := d.close.map Section.toml

end Draft

end Playground.Toml
