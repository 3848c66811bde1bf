import Playground.Proofs.Options.Trial

/-!
What a field is set to by what a user typed. The text is taken as JSON where its JSON value fits, and
else as it stands. Main statements: a field takes exactly the values that the text means for its
content, and trying the values on the whole record comes to the same.
-/

namespace Playground.Options

/-- Which values a text means for a field. A flag is typed as JSON, a text as a JSON text or as it
stands, and a name in either way. -/
inductive Content.Means : Content → String → Json → Prop
  | flag {raw : String} {b : Bool} (read : Json.read? raw = some (.bool b)) : Means .flag raw (.bool b)
  | quoted {raw s : String} (read : Json.read? raw = some (.text s)) : Means .text raw (.text s)
  | verbatim {raw : String} (other : ∀ s, Json.read? raw ≠ some (.text s)) :
      Means .text raw (.text raw)
  | bareName {names : List String} {raw : String} (known : raw ∈ names) :
      Means (.oneOf names) raw (.text raw)
  | quotedName {names : List String} {raw name : String} (read : Json.read? raw = some (.text name))
      (known : name ∈ names) : Means (.oneOf names) raw (.text name)

def Content.Bare : Content → Prop
  | oneOf names => ∀ name ∈ names, Json.read? name = none
  | _ => True

section Readings

variable {raw : String} {value : Json}

theorem literal_of_read (read : Json.read? raw = some value) : literal raw = value := by
  rw [literal, read, Option.getD_some]

theorem literal_of_unread (unread : Json.read? raw = none) : literal raw = .text raw := by
  rw [literal, unread, Option.getD_none]

theorem find?_readings_of_means {content : Content} (bare : content.Bare)
    (means : content.Means raw value) :
    [literal raw, .text raw].find? content.admits = some value := by
  cases means with
  | flag read => simp [literal_of_read read, Content.admits]
  | quoted read => simp [literal_of_read read, Content.admits]
  | verbatim other =>
    cases read : Json.read? raw with
    | none => simp [literal_of_unread read, Content.admits]
    | some value =>
      rw [literal_of_read read]
      cases value with
      | text s => exact absurd read (other s)
      | _ => simp [Content.admits]
  | bareName known => simp [literal_of_unread (bare raw known), Content.admits, known]
  | quotedName read known => simp [literal_of_read read, Content.admits, known]

theorem means_of_find?_readings {content : Content}
    (found : [literal raw, .text raw].find? content.admits = some value) :
    content.Means raw value := by
  have fits : content.admits value = true := List.find?_some found
  have reading : value = literal raw ∨ value = .text raw := by
    simpa using List.mem_of_find?_eq_some found
  cases read : Json.read? raw with
  | none =>
    -- Without a JSON reading both readings are the text as it stands.
    rw [literal_of_unread read, or_self] at reading
    subst reading
    cases content with
    | flag => cases fits
    | text => exact .verbatim (by simp [read])
    | oneOf names => exact .bareName (by simpa [Content.admits] using fits)
  | some own =>
    rw [literal_of_read read] at found reading
    cases content with
    | flag =>
      obtain rfl | rfl := reading
      · cases value with
        | bool b => exact .flag read
        | _ => cases fits
      · cases fits
    | text =>
      cases own with
      | text s =>
        obtain rfl : Json.text s = value := by simpa [Content.admits] using found
        exact .quoted read
      | _ =>
        obtain rfl : Json.text raw = value := by simpa [Content.admits] using found
        exact .verbatim (by simp [read])
    | oneOf names =>
      obtain rfl | rfl := reading
      · cases value with
        | text s => exact .quotedName read (by simpa [Content.admits] using fits)
        | _ => cases fits
      · exact .bareName (by simpa [Content.admits] using fits)

end Readings

section Assign

variable {α : Type} [Record α]

theorem find?_field {key : String} {f : Field α}
    (found : (Record.fields (α := α)).find? (fun f => f.key = key) = some f) :
    f ∈ Record.fields ∧ f.key = key :=
  ⟨List.mem_of_find?_eq_some found, by simpa using List.find?_some found⟩

theorem assign_of_not_mem {key : String}
    (unknown : key ∉ (Record.fields (α := α)).map Field.key) (c : α) (raw : String) :
    assign c key raw = .error .unknownKey := by
  have nothing : (Record.fields (α := α)).find? (fun f => f.key = key) = none := by
    rw [List.find?_eq_none]
    intro f member same
    exact unknown (List.mem_map.mpr ⟨f, member, by simpa using same⟩)
  simp only [assign, nothing]

variable [Schema α]

theorem mem_keys_of_lookup {key : String} {content : Content}
    (known : (Schema.contents α).lookup key = some content) :
    key ∈ (Record.fields (α := α)).map Field.key :=
  Schema.map_fst_contents (α := α) ▸ Keyed.mem_of_lookup known

theorem lookup_contents_eq_none_iff {key : String} :
    (Schema.contents α).lookup key = none ↔ key ∉ (Record.fields (α := α)).map Field.key := by
  constructor
  · intro missing member
    rw [← Schema.map_fst_contents (α := α)] at member
    obtain ⟨entry, present, rfl⟩ := List.mem_map.mp member
    have distinct : ((Schema.contents α).map Prod.fst).Nodup :=
      Schema.map_fst_contents (α := α) ▸ Schema.nodup_keys
    have found := (Keyed.lookup_eq_some_iff distinct _ _).mpr present
    rw [missing] at found
    cases found
  · intro unknown
    apply Keyed.lookup_eq_none
    rwa [Schema.map_fst_contents]

theorem admits_of_lookup {key : String} {content : Content}
    (known : (Schema.contents α).lookup key = some content) (value : Json) :
    admits α key value = content.admits value := by
  simp [admits, known]

theorem findSome?_set? {f : Field α} (member : f ∈ Record.fields) (values : List Json) (c : α) :
    values.findSome? (fun value => f.slot.set? value c) =
      (values.find? (admits α f.key)).bind fun value => f.slot.set? value c := by
  induction values with
  | nil => rfl
  | cons value values ih =>
    cases admitted : admits α f.key value with
    | false => simp [set?_eq_none member admitted, admitted, ih]
    | true =>
      obtain ⟨d, put⟩ := exists_set? member admitted c
      simp [put, admitted]

def orRejected : Option α → Except Refusal α
  | some d => .ok d
  | none => .error .rejected

section Known

variable {key : String} {content : Content}

theorem assign_of_lookup (known : (Schema.contents α).lookup key = some content) (c : α)
    (raw : String) :
    ∃ f ∈ Record.fields (α := α), f.key = key ∧ assign c key raw = orRejected
      (([literal raw, .text raw].find? content.admits).bind fun value => f.slot.set? value c) := by
  obtain ⟨f, found⟩ : ∃ f, (Record.fields (α := α)).find? (fun f => f.key = key) = some f := by
    rw [← Option.isSome_iff_exists, List.find?_isSome]
    obtain ⟨f, member, same⟩ := List.mem_map.mp (mem_keys_of_lookup known)
    exact ⟨f, member, by simpa using same⟩
  obtain ⟨member, rfl⟩ := find?_field found
  have same : admits α f.key = content.admits := funext (admits_of_lookup known)
  refine ⟨f, member, rfl, ?_⟩
  rw [assign, found, ← same, ← findSome?_set? member]
  rfl

theorem assign_of_means (known : (Schema.contents α).lookup key = some content)
    (bare : content.Bare) {raw : String} {value : Json} (means : content.Means raw value) (c : α) :
    ∃ d, assign c key raw = .ok d ∧ ∀ g ∈ Record.fields (α := α),
      g.slot.get d = if g.key = key then value else g.slot.get c := by
  obtain ⟨f, member, rfl, result⟩ := assign_of_lookup known c raw
  have found := find?_readings_of_means bare means
  have admitted : admits α f.key value = true := by
    rw [admits_of_lookup known]
    exact List.find?_some found
  obtain ⟨d, put⟩ := exists_set? member admitted c
  refine ⟨d, ?_, fun g other => Schema.get_of_set? f member g other value c d put⟩
  rw [result, found, Option.bind_some, put, orRejected]

theorem assign_of_not_means (known : (Schema.contents α).lookup key = some content) {raw : String}
    (meaningless : ∀ value, ¬ content.Means raw value) (c : α) :
    assign c key raw = .error .rejected := by
  obtain ⟨f, -, -, result⟩ := assign_of_lookup known c raw
  have nothing : [literal raw, .text raw].find? content.admits = none := by
    rw [Option.eq_none_iff_forall_ne_some]
    exact fun value found => meaningless value (means_of_find?_readings found)
  rw [result, nothing, Option.bind_none, orRejected]

end Known

theorem admits_get {f : Field α} (member : f ∈ Record.fields) (c : α) :
    admits α f.key (f.slot.get c) = true := by
  by_contra refused
  rw [Bool.not_eq_true] at refused
  have whole := Schema.rebuild c c
  have nothing : Record.fields.foldlM (fun d f => f.slot.set? (f.slot.get c) d) c = none :=
    foldlM_eq_none member (set?_eq_none member refused) c
  rw [nothing] at whole
  cases whole

/-- A value that is tried for a field is taken if the field may hold it, and is not found there
otherwise. -/
theorem tryValue_eq_set? {f : Field α} (member : f ∈ Record.fields) (c : α) (value : Json) :
    tryValue c f.key value = f.slot.set? value c := by
  have single : (([(f.key, value)] : List (String × Json)).map Prod.fst).Nodup := by simp
  have trial := reconcileByTrial_eq c single (.refl _)
  have own (d : α) : (sortedJson d).get? f.key = some (f.slot.get d) :=
    get?_sortedJson Schema.nodup_keys d member
  unfold tryValue
  simp only [trial, own, Option.some.injEq]
  have step (g : Field α) (other : g ∈ Record.fields) :
      g.slot.get (reconcile c (.object [(f.key, value)])) =
        if g.key = f.key ∧ admits α f.key value then value else g.slot.get c := by
    rw [get_reconcile c _ other]
    by_cases same : g.key = f.key
    · cases admitted : admits α f.key value <;> simp [taken, same, admitted, Option.filter]
    · have miss : (g.key == f.key) = false := by simpa using same
      simp [taken, List.lookup_cons, miss, same]
  cases admitted : admits α f.key value with
  | true =>
    obtain ⟨d, put⟩ := exists_set? member admitted c
    have next : reconcile c (.object [(f.key, value)]) = d := by
      apply ext_get
      intro g other
      rw [step g other, Schema.get_of_set? f member g other value c d put]
      simp [admitted]
    have arrived : f.slot.get d = value := by
      simpa using Schema.get_of_set? f member f member value c d put
    rw [next, put, if_pos arrived]
  | false =>
    have kept : f.slot.get (reconcile c (.object [(f.key, value)])) = f.slot.get c := by
      simpa [admitted] using step f member
    have missed : f.slot.get c ≠ value := by
      rintro rfl
      rw [admits_get member c] at admitted
      cases admitted
    rw [kept, if_neg missed, set?_eq_none member admitted]

theorem assignByTrial_eq (c : α) (key raw : String) : assignByTrial c key raw = assign c key raw := by
  unfold assignByTrial assign
  cases found : (Record.fields (α := α)).find? (fun f => f.key = key) with
  | none =>
    have unknown : key ∉ (Record.fields (α := α)).map Field.key := by
      rw [List.find?_eq_none] at found
      intro known
      obtain ⟨f, member, same⟩ := List.mem_map.mp known
      exact found f member (by simpa using same)
    simp only [get?_sortedJson_of_not_mem unknown]
  | some f =>
    obtain ⟨member, rfl⟩ := find?_field found
    have same : tryValue c f.key = fun value => f.slot.set? value c :=
      funext (tryValue_eq_set? member c)
    rw [get?_sortedJson Schema.nodup_keys c member]
    exact congrArg (fun attempt => orRejected ([literal raw, .text raw].findSome? attempt)) same

end Assign

end Playground.Options
