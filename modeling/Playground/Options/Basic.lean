import Playground.Linker

/-!
Options records. Each linker has one flat record of flags, texts and choices. The fields of a record
are listed as data, and its JSON, its typed form and its reconciliation all follow the list.
-/

namespace Playground

/-- How the primary linker names what it moves between modules. -/
inductive Mangler where
  | escape
  | hash
  | none
deriving Repr, DecidableEq

def Mangler.name : Mangler → String
  | escape => "escape"
  | hash => "hash"
  | none => "none"

def Mangler.ofName? : String → Option Mangler
  | "escape" => some escape
  | "hash" => some hash
  | "none" => some none
  | _ => Option.none

/-- How the alternate linker names what it moves between modules. -/
inductive AlternateMangler where
  | underscore
  | none
deriving Repr, DecidableEq

def AlternateMangler.name : AlternateMangler → String
  | underscore => "underscore"
  | none => "none"

def AlternateMangler.ofName? : String → Option AlternateMangler
  | "underscore" => some underscore
  | "none" => some none
  | _ => Option.none

structure PrimaryOptions where
  root : String
  mangler : Mangler
  imports : Bool
  condcomp : Bool
  strip : Bool
  lower : Bool
  validate : Bool
  eval : String
deriving Repr, DecidableEq

structure AlternateOptions where
  root : String
  mangler : AlternateMangler
  conditions : Bool
  validate : Bool
deriving Repr, DecidableEq

namespace Options

/-- How a field is read from a record and put into it. -/
inductive Slot (α : Type) where
  | flag (get : α → Bool) (set : Bool → α → α)
  | text (get : α → String) (set : String → α → α)
  | choice (get : α → String) (set? : String → α → Option α)

namespace Slot

variable {α : Type}

def get (slot : Slot α) (c : α) : Json :=
  match slot with
  | flag get _ => .bool (get c)
  | text get _ => .text (get c)
  | choice get _ => .text (get c)

def set? (slot : Slot α) (value : Json) (c : α) : Option α :=
  match slot, value with
  | flag _ set, .bool b => some (set b c)
  | text _ set, .text s => some (set s c)
  | choice _ set?, .text s => set? s c
  | _, _ => none

def read? (slot : Slot α) (levels : Nat) (w : Json.Written) (c : α) : Option α :=
  match slot with
  | flag _ set => (Json.Form.flag levels w).map fun b => set b c
  | text _ set => (Json.Form.text levels w).map fun s => set s c
  | choice _ set? => (Json.Form.choice some levels w).bind fun s => set? s c

end Slot

structure Field (α : Type) where
  key : String
  slot : Slot α

/-- A linker's record: its defaults and its fields in order. -/
class Record (α : Type) where
  linker : Linker
  default : α
  fields : List (Field α)

variable {α : Type} [Record α]

def members (c : α) : List (String × Json) :=
  (Record.fields (α := α)).map fun f => (f.key, f.slot.get c)

def toJson (c : α) : Json := .object (members c)

def sortedJson (c : α) : Json := .ofMembers (members c)

def readFields? (levels : Nat) : List (Field α) → List (Option Json.Written) → α → Option α
  | f :: fields, some w :: rest, c =>
    (f.slot.read? levels w c).bind (readFields? levels fields rest)
  | _ :: fields, none :: rest, c => readFields? levels fields rest c
  | _, _, c => some c

def form : Json.Form α :=
  Json.Form.record ((Record.fields (α := α)).map Field.key) fun levels values =>
    readFields? levels Record.fields values Record.default

def withMembers? (c : α) (changes : List (String × Json)) : Option α :=
  form.ofJson? (Json.ofMembers (members c ++ changes))

end Options

namespace PrimaryOptions

open Options

def fields : List (Options.Field PrimaryOptions) := [
  ⟨"root", .text root fun s c => { c with root := s }⟩,
  ⟨"mangler", .choice (fun c => c.mangler.name) fun s c =>
    (Mangler.ofName? s).map fun m => { c with mangler := m }⟩,
  ⟨"imports", .flag imports fun b c => { c with imports := b }⟩,
  ⟨"condcomp", .flag condcomp fun b c => { c with condcomp := b }⟩,
  ⟨"strip", .flag strip fun b c => { c with strip := b }⟩,
  ⟨"lower", .flag lower fun b c => { c with lower := b }⟩,
  ⟨"validate", .flag validate fun b c => { c with validate := b }⟩,
  ⟨"eval", .text eval fun s c => { c with eval := s }⟩]

instance : Record PrimaryOptions where
  linker := .primary
  default := ⟨"main.wgsl", .escape, true, true, false, false, true, ""⟩
  fields := fields

end PrimaryOptions

namespace AlternateOptions

open Options

def fields : List (Options.Field AlternateOptions) := [
  ⟨"root", .text root fun s c => { c with root := s }⟩,
  ⟨"mangler", .choice (fun c => c.mangler.name) fun s c =>
    (AlternateMangler.ofName? s).map fun m => { c with mangler := m }⟩,
  ⟨"conditions", .flag conditions fun b c => { c with conditions := b }⟩,
  ⟨"validate", .flag validate fun b c => { c with validate := b }⟩]

instance : Record AlternateOptions where
  linker := .alternate
  default := ⟨"main.wgsl", .underscore, true, true⟩
  fields := fields

end AlternateOptions

end Playground
