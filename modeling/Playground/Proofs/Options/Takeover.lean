import Playground.Proofs.Options.Schema

/-!
What reconciliation takes over. Each field depends on the value under its own key alone: it takes that
value if its content admits it, and keeps its own otherwise.
-/

namespace Playground.Options

variable {α : Type} [Record α] [Schema α]

theorem ext_get {c d : α} (same : ∀ f ∈ Record.fields (α := α), f.slot.get c = f.slot.get d) :
    c = d := by
  have congr (fields : List (Field α)) (known : ∀ f ∈ fields, f.slot.get c = f.slot.get d) (e : α) :
      fields.foldlM (fun e f => f.slot.set? (f.slot.get c) e) e =
        fields.foldlM (fun e f => f.slot.set? (f.slot.get d) e) e := by
    induction fields generalizing e with
    | nil => rfl
    | cons f fields ih =>
      have later := ih fun g member => known g (List.mem_cons_of_mem f member)
      simp only [List.foldlM_cons, known f List.mem_cons_self, later]
  have own := Schema.rebuild c c
  rw [congr Record.fields same c, Schema.rebuild c d] at own
  exact (Option.some.inj own).symm

theorem set?_eq_none {f : Field α} (member : f ∈ Record.fields) {value : Json}
    (refused : admits α f.key value = false) (c : α) : f.slot.set? value c = none := by
  have answer := Schema.isSome_set? f member value c
  rw [← admits, refused] at answer
  simpa using answer

theorem exists_set? {f : Field α} (member : f ∈ Record.fields) {value : Json}
    (admitted : admits α f.key value = true) (c : α) : ∃ d, f.slot.set? value c = some d := by
  have answer := Schema.isSome_set? f member value c
  rw [← admits, admitted] at answer
  exact Option.isSome_iff_exists.mp answer

theorem eq_of_set?_get {f : Field α} (member : f ∈ Record.fields) {c d : α}
    (put : f.slot.set? (f.slot.get c) c = some d) : d = c := by
  apply ext_get
  intro g other
  rw [Schema.get_of_set? f member g other _ c d put]
  split
  case isTrue same =>
    obtain rfl : g = f := List.inj_on_of_nodup_map Schema.nodup_keys other member same
    rfl
  case isFalse => rfl

theorem get_set?_getD {f g : Field α} (member : f ∈ Record.fields) (other : g ∈ Record.fields)
    (value : Json) (c : α) :
    g.slot.get ((f.slot.set? value c).getD c) =
      if g.key = f.key ∧ admits α f.key value then value else g.slot.get c := by
  cases answer : admits α f.key value with
  | false => simp [set?_eq_none member answer]
  | true =>
    obtain ⟨d, put⟩ := exists_set? member answer c
    simp [put, Schema.get_of_set? f member g other value c d put]

def taken (α : Type) [Record α] [Schema α] (foreign : Json) (key : String) : Option Json :=
  (foreign.get? key).filter (admits α key)

theorem get_reconcileField (foreign : Json) {f g : Field α} (member : f ∈ Record.fields)
    (other : g ∈ Record.fields) (c : α) :
    g.slot.get (reconcileField foreign c f) =
      if g.key = f.key then (taken α foreign g.key).getD (g.slot.get c) else g.slot.get c := by
  unfold reconcileField taken
  cases own : foreign.get? f.key with
  | none =>
    by_cases same : g.key = f.key
    · simp [same, own]
    · simp [same]
  | some value =>
    simp only [get_set?_getD member other]
    by_cases same : g.key = f.key
    · cases admitted : admits α f.key value <;>
        simp [same, own, admitted, Option.filter]
    · simp [same]

theorem get_reconcile (c : α) (foreign : Json) {g : Field α} (member : g ∈ Record.fields) :
    g.slot.get (reconcile c foreign) = (taken α foreign g.key).getD (g.slot.get c) := by
  have fold (fields : List (Field α)) (known : ∀ f ∈ fields, f ∈ Record.fields) (c : α) :
      g.slot.get (fields.foldl (reconcileField foreign) c) =
        if g.key ∈ fields.map Field.key then (taken α foreign g.key).getD (g.slot.get c)
        else g.slot.get c := by
    induction fields generalizing c with
    | nil => simp
    | cons f fields ih =>
      have first := get_reconcileField foreign (known f List.mem_cons_self) member c
      rw [List.foldl_cons, ih (fun h later => known h (List.mem_cons_of_mem f later)), first]
      by_cases same : g.key = f.key
      · cases taken α foreign g.key <;> simp [same]
      · simp [same]
  rw [reconcile, fold Record.fields (fun f member => member), if_pos (List.mem_map_of_mem member)]

theorem reconcile_reconcile (c : α) (foreign : Json) :
    reconcile (reconcile c foreign) foreign = reconcile c foreign := by
  apply ext_get
  intro f member
  rw [get_reconcile (reconcile c foreign) foreign member, get_reconcile c foreign member]
  cases taken α foreign f.key <;> rfl

theorem reconcile_congr (c : α) {foreign other : Json}
    (same : ∀ key, taken α foreign key = taken α other key) :
    reconcile c foreign = reconcile c other := by
  apply ext_get
  intro f member
  rw [get_reconcile c foreign member, get_reconcile c other member, same]

theorem reconcile_own (c d : α) : reconcile c (sortedJson d) = d := by
  have fold (fields : List (Field α)) (c : α)
      (whole : fields.foldlM (fun c f => f.slot.set? (f.slot.get d) c) c = some d) :
      fields.foldl (fun c f => (f.slot.set? (f.slot.get d) c).getD c) c = d := by
    induction fields generalizing c with
    | nil => exact Option.some.inj whole
    | cons f fields ih =>
      rw [List.foldlM_cons] at whole
      obtain ⟨e, first, rest⟩ := Option.bind_eq_some_iff.mp whole
      simpa [first] using ih e rest
  rw [reconcile_sortedJson Schema.nodup_keys]
  exact fold Record.fields c (Schema.rebuild c d)

theorem taken_eq_none {key : String} (unknown : key ∉ (Record.fields (α := α)).map Field.key)
    (foreign : Json) : taken α foreign key = none := by
  have missing : (Schema.contents α).lookup key = none := by
    apply Keyed.lookup_eq_none
    rw [Schema.map_fst_contents]
    exact unknown
  simp [taken, admits, missing]

theorem get?_sortedJson_of_not_mem {key : String}
    (unknown : key ∉ (Record.fields (α := α)).map Field.key) (c : α) :
    (sortedJson c).get? key = none := by
  have distinct : ((members c).map Prod.fst).Nodup := map_fst_members c ▸ Schema.nodup_keys
  rw [sortedJson, Json.ofMembers, Json.get?_object, Keyed.lookup_sorted distinct]
  apply Keyed.lookup_eq_none
  rw [map_fst_members]
  exact unknown

end Playground.Options
