import Playground.Options.Reconcile
import Playground.Proofs.Json.RoundTrip

/-!
The JSON of a record. It has every field of the record under its key, and reconciling a record with
it puts in the values of its fields, one after the other.
-/

namespace Playground.Options

section Slots

variable {α : Type}

theorem readable_get (slot : Slot α) (c : α) (levels : Nat) :
    Json.Readable levels (slot.get c) := by
  cases slot with
  | flag get set => exact .bool levels (get c)
  | text get set => exact .text levels (get c)
  | choice get set? => exact .text levels (get c)

end Slots

variable {α : Type} [Record α]

theorem map_fst_members (c : α) :
    (members c).map Prod.fst = (Record.fields (α := α)).map Field.key := by
  simp [members, Function.comp_def]

theorem readable_sortedJson (c : α) (levels : Nat) : Json.Readable (levels + 1) (sortedJson c) := by
  refine .object (Keyed.ascending_sorted (members c)) ?_
  intro m member
  obtain ⟨f, -, rfl⟩ := List.mem_map.mp (Keyed.mem_of_mem_sorted member)
  exact readable_get f.slot c levels

theorem get?_sortedJson (distinct : ((Record.fields (α := α)).map Field.key).Nodup) (c : α)
    {f : Field α} (member : f ∈ Record.fields) :
    (sortedJson c).get? f.key = some (f.slot.get c) := by
  rw [← map_fst_members c] at distinct
  rw [sortedJson, Json.ofMembers, Json.get?_object, Keyed.lookup_sorted distinct,
    Keyed.lookup_eq_some_iff distinct]
  exact List.mem_map.mpr ⟨f, member, rfl⟩

/-- Reconciliation with a record's JSON puts the values of its fields in, one after the other. -/
theorem reconcile_sortedJson (distinct : ((Record.fields (α := α)).map Field.key).Nodup) (c d : α) :
    reconcile c (sortedJson d) =
      (Record.fields (α := α)).foldl (fun c f => (f.slot.set? (f.slot.get d) c).getD c) c := by
  have step (fields : List (Field α)) (known : ∀ f ∈ fields, f ∈ Record.fields) (c : α) :
      fields.foldl (reconcileField (sortedJson d)) c =
        fields.foldl (fun c f => (f.slot.set? (f.slot.get d) c).getD c) c := by
    induction fields generalizing c with
    | nil => rfl
    | cons f fields ih =>
      have own := get?_sortedJson distinct d (known f List.mem_cons_self)
      have later := ih fun g member => known g (List.mem_cons_of_mem f member)
      rw [List.foldl_cons, List.foldl_cons, later]
      simp [reconcileField, own]
  exact step Record.fields (fun f member => member) c

end Playground.Options

namespace Playground

open Options

theorem PrimaryOptions.nodup_keys : (PrimaryOptions.fields.map Field.key).Nodup := by decide

theorem AlternateOptions.nodup_keys : (AlternateOptions.fields.map Field.key).Nodup := by decide

end Playground
