import Playground.Json.Form

/-!
Linkers. A project is compiled with one of two linkers, and each has options of its own.
-/

namespace Playground

inductive Linker where
  | primary
  | alternate
deriving Repr, DecidableEq, Inhabited

namespace Linker

def all : List Linker := [primary, alternate]

def name : Linker → String
  | primary => "primary"
  | alternate => "alternate"

def ofName? : String → Option Linker
  | "primary" => some primary
  | "alternate" => some alternate
  | _ => none

def optionsKey : Linker → String
  | primary => "options-primary"
  | alternate => "options-alternate"

structure Unknown where
  name : String

def Unknown.message (e : Unknown) : String :=
  s!"unknown linker: {e.name} (expected primary or alternate)"

def named (name : String) : Except Unknown Linker :=
  match ofName? name with
  | some linker => .ok linker
  | none => .error ⟨name⟩

def form : Json.Form Linker := Json.Form.choice ofName?

def toJson (linker : Linker) : Json := .text linker.name

def ofJson? (value : Json) : Option Linker := value.text?.bind ofName?

@[simp] theorem ofName?_name (linker : Linker) : ofName? linker.name = some linker := by
  cases linker <;> rfl

theorem ofName?_eq_some_iff {name : String} {linker : Linker} :
    ofName? name = some linker ↔ name = linker.name := by
  constructor
  · intro h
    unfold ofName? at h
    split at h <;> simp_all [Linker.name] <;> subst h <;> rfl
  · rintro rfl
    exact ofName?_name linker

@[simp] theorem ofJson?_toJson (linker : Linker) : ofJson? linker.toJson = some linker :=
  ofName?_name linker

end Linker

end Playground
