import Mathlib.Tactic.FinCases
import Playground.Proofs.Options

/-!
What the fields of a record may hold. A schema lists it by key as data, and its laws say that the
slots of the record keep to it: a field takes exactly the values of its content, putting one in
changes no other field, and a record is put together again from the values of its fields.
-/

namespace Playground.Options

inductive Content where
  | flag
  | text
  | oneOf (names : List String)

def Content.admits : Content → Json → Bool
  | flag, .bool _ => true
  | text, .text _ => true
  | oneOf names, .text s => names.contains s
  | _, _ => false

class Schema (α : Type) [Record α] where
  contents : List (String × Content)
  nodup_keys : ((Record.fields (α := α)).map Field.key).Nodup
  map_fst_contents : contents.map Prod.fst = (Record.fields (α := α)).map Field.key
  isSome_set? : ∀ f ∈ Record.fields (α := α), ∀ (value : Json) (c : α),
    (f.slot.set? value c).isSome = (contents.lookup f.key).any fun content => content.admits value
  get_of_set? : ∀ f ∈ Record.fields (α := α), ∀ g ∈ Record.fields (α := α),
    ∀ (value : Json) (c d : α), f.slot.set? value c = some d →
      g.slot.get d = if g.key = f.key then value else g.slot.get c
  rebuild : ∀ c d : α,
    (Record.fields (α := α)).foldlM (fun c f => f.slot.set? (f.slot.get d) c) c = some d

/-- Whether a record has a field of this key that may hold this value. -/
def admits (α : Type) [Record α] [Schema α] (key : String) (value : Json) : Bool :=
  ((Schema.contents α).lookup key).any fun content => content.admits value

end Playground.Options

namespace Playground

open Options

theorem Mangler.isSome_ofName? (s : String) :
    (Mangler.ofName? s).isSome = ["escape", "hash", "none"].contains s := by
  unfold Mangler.ofName?
  split <;> simp_all

theorem Mangler.name_of_ofName? {s : String} {m : Mangler} (h : Mangler.ofName? s = some m) :
    m.name = s := by
  unfold Mangler.ofName? at h
  split at h <;> cases h <;> rfl

theorem AlternateMangler.isSome_ofName? (s : String) :
    (AlternateMangler.ofName? s).isSome = ["underscore", "none"].contains s := by
  unfold AlternateMangler.ofName?
  split <;> simp_all

theorem AlternateMangler.name_of_ofName? {s : String} {m : AlternateMangler}
    (h : AlternateMangler.ofName? s = some m) : m.name = s := by
  unfold AlternateMangler.ofName? at h
  split at h <;> cases h <;> rfl

instance : Schema PrimaryOptions where
  contents := [("root", .text), ("mangler", .oneOf ["escape", "hash", "none"]), ("imports", .flag),
    ("condcomp", .flag), ("strip", .flag), ("lower", .flag), ("validate", .flag), ("eval", .text)]
  nodup_keys := PrimaryOptions.nodup_keys
  map_fst_contents := rfl
  isSome_set? := by
    intro f member value c
    fin_cases member <;> cases value
    all_goals first
      | rfl
      | exact Option.isSome_map.trans (Mangler.isSome_ofName? _)
  get_of_set? := by
    intro f member g other value c d h
    fin_cases member
    any_goals
      cases value <;> cases h
      fin_cases other <;> rfl
    -- The mangler is the one field that refuses some values of its kind.
    cases value <;> simp only [Slot.set?, Option.map_eq_some_iff, reduceCtorEq] at h
    obtain ⟨m, named, rfl⟩ := h
    have name := Mangler.name_of_ofName? named
    fin_cases other <;> simp [Slot.get, name]
  rebuild := by
    intro c ⟨root, mangler, imports, condcomp, strip, lower, validate, eval⟩
    cases mangler <;> rfl

instance : Schema AlternateOptions where
  contents := [("root", .text), ("mangler", .oneOf ["underscore", "none"]), ("conditions", .flag),
    ("validate", .flag)]
  nodup_keys := AlternateOptions.nodup_keys
  map_fst_contents := rfl
  isSome_set? := by
    intro f member value c
    fin_cases member <;> cases value
    all_goals first
      | rfl
      | exact Option.isSome_map.trans (AlternateMangler.isSome_ofName? _)
  get_of_set? := by
    intro f member g other value c d h
    fin_cases member
    any_goals
      cases value <;> cases h
      fin_cases other <;> rfl
    cases value <;> simp only [Slot.set?, Option.map_eq_some_iff, reduceCtorEq] at h
    obtain ⟨m, named, rfl⟩ := h
    have name := AlternateMangler.name_of_ofName? named
    fin_cases other <;> simp [Slot.get, name]
  rebuild := by
    intro c ⟨root, mangler, conditions, validate⟩
    cases mangler <;> rfl

end Playground
