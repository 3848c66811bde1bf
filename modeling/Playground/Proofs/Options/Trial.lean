import Playground.Options.Trial
import Playground.Proofs.Options.Takeover

/-!
Reconciliation by trial. Between two trials the members are those of some record, and a trial changes
one field of it or nothing, so that trials in any order come to what the fields take over one by one.
-/

namespace Playground.Options

variable {α : Type} [Record α]

section Reading

theorem kind_eq_of_admits [Schema α] {f : Field α} (member : f ∈ Record.fields) {value : Json}
    (admitted : admits α f.key value = true) (c : α) : value.kind = (f.slot.get c).kind := by
  obtain ⟨d, put⟩ := exists_set? member admitted c
  unfold Slot.set? at put
  split at put <;> simp_all [Slot.get, Json.kind]

omit [Record α] in
theorem read?_written {slot : Slot α} {value : Json} {d : α} (kind : value.kind = (slot.get d).kind)
    (levels : Nat) (c : α) : slot.read? levels value.written c = slot.set? value c := by
  cases slot <;> cases value <;> cases kind <;> rfl

theorem mapM_writtenMembers (entries : List (String × Json)) :
    (Json.writtenMembers entries).mapM (fun m => m.1.map fun key => (key, m.2)) =
      some (entries.map fun m => (m.1, m.2.written)) := by
  induction entries with
  | nil => rfl
  | cons m entries ih => simp [Json.writtenMembers, ih]

theorem member?_eq_lookup {entries : List (String × Json)}
    (distinct : (entries.map Prod.fst).Nodup) (key : String) :
    Json.Form.member? key (entries.map fun m => (m.1, m.2.written)) =
      some ((entries.lookup key).map Json.written) := by
  induction entries with
  | nil => rfl
  | cons m entries ih =>
    obtain ⟨k, value⟩ := m
    rw [List.map_cons, List.nodup_cons] at distinct
    have later := ih distinct.2
    by_cases same : k = key
    · subst same
      have alone : (entries.map fun m => (m.1, m.2.written)).filter (fun m => m.1 = k) = [] := by
        rw [List.filter_eq_nil_iff]
        intro entry member
        obtain ⟨n, known, rfl⟩ := List.mem_map.mp member
        have repeated : n.1 ∈ entries.map Prod.fst := List.mem_map_of_mem known
        have other : n.1 ≠ k := fun same => distinct.1 (same ▸ repeated)
        simpa using other
      simp [Json.Form.member?, alone]
    · have miss : (key == k) = false := by simpa using Ne.symm same
      simpa [Json.Form.member?, same, List.lookup_cons, miss] using later

theorem ofJson?_object {entries : List (String × Json)} (distinct : (entries.map Prod.fst).Nodup) :
    (form (α := α)).ofJson? (.object entries) =
      readFields? (Json.Written.maxLevels - 1) Record.fields
        ((Record.fields (α := α)).map fun f => (entries.lookup f.key).map Json.written)
        Record.default := by
  have fields : Json.Form.fields? ((Record.fields (α := α)).map Field.key)
      (.object (Json.writtenMembers entries)) =
        some ((Record.fields (α := α)).map fun f => (entries.lookup f.key).map Json.written) := by
    have each : (fun key => Json.Form.member? key (entries.map fun m => (m.1, m.2.written))) =
        fun key => pure ((entries.lookup key).map Json.written) :=
      funext (member?_eq_lookup distinct)
    simp only [Json.Form.fields?, mapM_writtenMembers, Option.bind_eq_bind, Option.bind_some, each]
    rw [List.mapM_pure]
    simp [Function.comp_def]
  simp only [Json.Form.ofJson?, form, Json.Form.record, Json.written, fields]
  rfl

omit [Record α] in
theorem readFields?_eq_foldlM {fields : List (Field α)} {entries : List (String × Json)}
    {value : Field α → Json} {d : α}
    (found : ∀ f ∈ fields, entries.lookup f.key = some (value f))
    (kind : ∀ f ∈ fields, (value f).kind = (f.slot.get d).kind) (levels : Nat) (c : α) :
    readFields? levels fields
        (fields.map fun f => (entries.lookup f.key).map Json.written) c =
      fields.foldlM (fun c f => f.slot.set? (value f) c) c := by
  induction fields generalizing c with
  | nil => rfl
  | cons f fields ih =>
    have first := read?_written (kind f List.mem_cons_self) levels c
    have later := ih (fun g member => found g (List.mem_cons_of_mem f member))
      fun g member => kind g (List.mem_cons_of_mem f member)
    simp only [List.map_cons, found f List.mem_cons_self, Option.map_some, readFields?, first,
      List.foldlM_cons, Option.bind_eq_bind]
    congr 1
    funext c
    exact later c

omit [Record α] in
theorem foldlM_eq_none {fields : List (Field α)} {value : Field α → Json} {f : Field α}
    (member : f ∈ fields) (refused : ∀ c, f.slot.set? (value f) c = none) (c : α) :
    fields.foldlM (fun c f => f.slot.set? (value f) c) c = none := by
  induction fields generalizing c with
  | nil => cases member
  | cons g fields ih =>
    rw [List.foldlM_cons]
    obtain rfl | later := List.mem_cons.mp member
    · simp [refused]
    · cases g.slot.set? (value g) c with
      | none => rfl
      | some d => exact ih later d

variable [Schema α] {entries : List (String × Json)}

/-- An object with the values of a record under the keys of its fields is read as that record. -/
theorem ofJson?_eq_some (distinct : (entries.map Prod.fst).Nodup) {d : α}
    (found : ∀ f ∈ Record.fields (α := α), entries.lookup f.key = some (f.slot.get d)) :
    (form (α := α)).ofJson? (.object entries) = some d := by
  rw [ofJson?_object distinct, readFields?_eq_foldlM found (d := d) fun f member => rfl]
  exact Schema.rebuild Record.default d

theorem ofJson?_eq_none (distinct : (entries.map Prod.fst).Nodup) {value : Field α → Json} {d : α}
    (found : ∀ f ∈ Record.fields (α := α), entries.lookup f.key = some (value f))
    (kind : ∀ f ∈ Record.fields (α := α), (value f).kind = (f.slot.get d).kind)
    {f : Field α} (member : f ∈ Record.fields) (refused : admits α f.key (value f) = false) :
    (form (α := α)).ofJson? (.object entries) = none := by
  rw [ofJson?_object distinct, readFields?_eq_foldlM found kind]
  exact foldlM_eq_none member (set?_eq_none member refused) Record.default

end Reading

section Trial

variable [Schema α]

/-- A member list that has the values of a record's fields under their keys, and nothing else. -/
structure Mirrors (merged : List (String × Json)) (c : α) : Prop where
  distinct : (merged.map Prod.fst).Nodup
  lookup : ∀ f ∈ Record.fields (α := α), merged.lookup f.key = some (f.slot.get c)
  known : ∀ key value, merged.lookup key = some value →
    ∃ f ∈ Record.fields (α := α), f.key = key

theorem mirrors_sorted (c : α) : Mirrors (Keyed.sorted (members c)) c := by
  have distinct : ((members c).map Prod.fst).Nodup := map_fst_members c ▸ Schema.nodup_keys
  refine ⟨((Keyed.perm_sorted distinct).map Prod.fst).nodup_iff.mpr distinct, ?_, ?_⟩
  · intro f member
    exact get?_sortedJson Schema.nodup_keys c member
  · intro key value found
    rw [Keyed.lookup_sorted distinct, Keyed.lookup_eq_some_iff distinct] at found
    obtain ⟨f, member, entry⟩ := List.mem_map.mp found
    exact ⟨f, member, congrArg Prod.fst entry⟩

namespace Mirrors

variable {merged : List (String × Json)} {c : α}

theorem put (h : Mirrors merged c) {f : Field α} (member : f ∈ Record.fields) {value : Json} {d : α}
    (changed : f.slot.set? value c = some d) : Mirrors (Keyed.put f.key value merged) d := by
  have present : f.key ∈ merged.map Prod.fst := Keyed.mem_of_lookup (h.lookup f member)
  refine ⟨by rw [Keyed.map_fst_put present]; exact h.distinct, ?_, ?_⟩
  · intro g other
    rw [Schema.get_of_set? f member g other value c d changed]
    split
    case isTrue same => rw [same, Keyed.lookup_put_self]
    case isFalse apart => rw [Keyed.lookup_put_of_ne apart, h.lookup g other]
  · intro key own found
    by_cases same : key = f.key
    · exact ⟨f, member, same.symm⟩
    · exact h.known key own (Keyed.lookup_put_of_ne same value merged ▸ found)

theorem ofJson?_self (h : Mirrors merged c) :
    (form (α := α)).ofJson? (.object merged) = some c :=
  ofJson?_eq_some h.distinct h.lookup

theorem ofJson?_put_eq_none (h : Mirrors merged c) {f : Field α} (member : f ∈ Record.fields)
    {value : Json} (kind : value.kind = (f.slot.get c).kind)
    (refused : admits α f.key value = false) :
    (form (α := α)).ofJson? (.object (Keyed.put f.key value merged)) = none := by
  have present : f.key ∈ merged.map Prod.fst := Keyed.mem_of_lookup (h.lookup f member)
  have distinct : ((Keyed.put f.key value merged).map Prod.fst).Nodup := by
    rw [Keyed.map_fst_put present]
    exact h.distinct
  let values (g : Field α) : Json := if g.key = f.key then value else g.slot.get c
  have found (g : Field α) (other : g ∈ Record.fields) :
      (Keyed.put f.key value merged).lookup g.key = some (values g) := by
    by_cases same : g.key = f.key
    · simp only [values, same, if_true, Keyed.lookup_put_self]
    · simp only [values, same, if_false, Keyed.lookup_put_of_ne same, h.lookup g other]
  have kinds (g : Field α) (other : g ∈ Record.fields) :
      (values g).kind = (g.slot.get c).kind := by
    by_cases same : g.key = f.key
    · obtain rfl : g = f := List.inj_on_of_nodup_map Schema.nodup_keys other member same
      simp only [values, if_true, kind]
    · simp only [values, same, if_false]
  exact ofJson?_eq_none distinct found kinds member (by simpa [values] using refused)

/-- What one trial leaves: the member is taken if a field admits it, and nothing else changes. -/
theorem tryMember (h : Mirrors merged c) (m : String × Json) :
    ∃ d, Mirrors (Options.tryMember α merged m) d ∧ ∀ g ∈ Record.fields (α := α),
      g.slot.get d = if g.key = m.1 ∧ admits α m.1 m.2 then m.2 else g.slot.get c := by
  obtain ⟨key, value⟩ := m
  unfold Options.tryMember
  cases found : merged.lookup key with
  | none =>
    refine ⟨c, h, ?_⟩
    intro g other
    have apart : g.key ≠ key := by
      rintro rfl
      simp [h.lookup g other] at found
    simp [apart]
  | some existing =>
    obtain ⟨f, member, rfl⟩ := h.known key existing found
    obtain rfl : f.slot.get c = existing := Option.some.inj ((h.lookup f member).symm.trans found)
    cases admitted : admits α f.key value with
    | true =>
      obtain ⟨d, changed⟩ := exists_set? member admitted c
      have kind := kind_eq_of_admits member admitted c
      refine ⟨d, ?_, fun g other => by simp [Schema.get_of_set? f member g other value c d changed]⟩
      by_cases same : f.slot.get c = value
      · -- The field's own value is not tried, which comes to the same as putting it in.
        subst same
        obtain rfl := eq_of_set?_get member changed
        simpa only [ne_eq, not_true_eq_false, and_false, if_false] using h
      · have read := (h.put member changed).ofJson?_self
        simpa only [if_pos (And.intro kind same), read] using h.put member changed
    | false =>
      refine ⟨c, ?_, by simp⟩
      by_cases tried : value.kind = (f.slot.get c).kind ∧ f.slot.get c ≠ value
      · have unread := h.ofJson?_put_eq_none member tried.1 admitted
        have restored := Keyed.put_put_of_lookup found value
        simpa only [if_pos tried, unread, restored] using h
      · dsimp only
        rw [if_neg tried]
        exact h

/-- What trials in turn leave, whatever their order: each field depends on its own key alone. -/
theorem foldl_tryMember (h : Mirrors merged c) {tried : List (String × Json)}
    (distinct : (tried.map Prod.fst).Nodup) :
    ∃ d, Mirrors (tried.foldl (Options.tryMember α) merged) d ∧
      ∀ g ∈ Record.fields (α := α),
        g.slot.get d = (taken α (.object tried) g.key).getD (g.slot.get c) := by
  -- Each trial leads from the members of one record to those of the next.
  induction tried generalizing merged c with
  | nil => exact ⟨c, h, fun g other => by simp [taken]⟩
  | cons m tried ih =>
    obtain ⟨key, value⟩ := m
    rw [List.map_cons, List.nodup_cons] at distinct
    obtain ⟨e, first, head⟩ := h.tryMember (key, value)
    obtain ⟨d, last, tail⟩ := ih first distinct.2
    refine ⟨d, last, ?_⟩
    intro g other
    rw [tail g other, head g other]
    by_cases same : g.key = key
    · have missing : tried.lookup key = none := Keyed.lookup_eq_none distinct.1
      cases admitted : admits α key value <;>
        simp [taken, same, missing, admitted, Option.filter]
    · have miss : (g.key == key) = false := by simpa using same
      simp [taken, List.lookup_cons, miss, same]

end Mirrors

/-- Trials of the members of an object in any order come to what reconciliation takes over. -/
theorem reconcileByTrial_eq (c : α) {members tried : List (String × Json)}
    (distinct : (members.map Prod.fst).Nodup) (order : tried.Perm members) :
    reconcileByTrial c (.object tried) = reconcile c (.object members) := by
  have distinct' : (tried.map Prod.fst).Nodup := (order.map Prod.fst).nodup_iff.mpr distinct
  obtain ⟨d, mirrors, values⟩ := (mirrors_sorted c).foldl_tryMember distinct'
  have read : reconcileByTrial c (.object tried) = d := by
    simp [reconcileByTrial, mirrors.ofJson?_self]
  have result : d = reconcile c (.object tried) := by
    apply ext_get
    intro g member
    rw [values g member, get_reconcile c (.object tried) member]
  rw [read, result]
  apply reconcile_congr
  intro key
  have same : tried.lookup key = members.lookup key := by
    apply Option.ext
    intro value
    rw [Keyed.lookup_eq_some_iff distinct', Keyed.lookup_eq_some_iff distinct, order.mem_iff]
  simp only [taken, Json.get?_object, same]

end Trial

/-- A record takes over a foreign value field by field. -/
structure TakesOver [Schema α] (c : α) (foreign : Json) : Prop where
  field : ∀ key, (sortedJson (reconcile c foreign)).get? key =
    ((foreign.get? key).filter (admits α key)).or ((sortedJson c).get? key)
  congr : ∀ other, (∀ key, (other.get? key).filter (admits α key) =
    (foreign.get? key).filter (admits α key)) → reconcile c other = reconcile c foreign
  order : ∀ members, foreign = .object members → (members.map Prod.fst).Nodup →
    ∀ tried, tried.Perm members → reconcileByTrial c (.object tried) = reconcile c foreign
  noObject : foreign.isObject = false → reconcileByTrial c foreign = reconcile c foreign
  readBack : reconcile c (sortedJson (reconcile c foreign)) = reconcile c foreign
  again : reconcile (reconcile c foreign) foreign = reconcile c foreign

theorem takesOver [Schema α] (c : α) (foreign : Json) : TakesOver c foreign where
  field key := by
    by_cases known : key ∈ (Record.fields (α := α)).map Field.key
    · obtain ⟨f, member, rfl⟩ := List.mem_map.mp known
      rw [get?_sortedJson Schema.nodup_keys _ member, get?_sortedJson Schema.nodup_keys _ member,
        get_reconcile c foreign member, taken]
      cases (foreign.get? f.key).filter (admits α f.key) <;> rfl
    · have nothing := taken_eq_none known foreign
      rw [taken] at nothing
      rw [get?_sortedJson_of_not_mem known, get?_sortedJson_of_not_mem known, nothing]
      rfl
  congr other same := reconcile_congr c same
  order := by
    rintro members rfl distinct tried order
    exact reconcileByTrial_eq c distinct order
  noObject different := by
    rw [reconcile_of_not_object different]
    cases foreign <;> first | rfl | cases different
  readBack := reconcile_own c (reconcile c foreign)
  again := by
    apply ext_get
    intro f member
    rw [get_reconcile (reconcile c foreign) foreign member, get_reconcile c foreign member]
    cases taken α foreign f.key <;> rfl

/-- Both records take over any JSON value, of any kind and nesting, field by field. -/
theorem reconcile_takesOver (c : PrimaryOptions) (d : AlternateOptions) (foreign : Json) :
    TakesOver c foreign ∧ TakesOver d foreign :=
  ⟨takesOver c foreign, takesOver d foreign⟩

/-- A name that only the other record knows is left out, and the flag beside it is taken over. -/
example (c : PrimaryOptions) :
    reconcile c (.object [("mangler", .text "underscore"), ("strip", .bool true), ("x", .null)]) =
      { c with strip := true } := rfl

end Playground.Options
