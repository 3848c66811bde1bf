import Playground.Proofs.Options.Assign

/-!
Merging by kind. A merge keeps the keys that it finds, and under each of them the own value gives
way to a foreign one of its kind. Main statement: merging in place comes to the same, what was
merged is merged again without change, and the JSON of a record is merged as the record is
reconciled unless a choice is given a name that it does not have.
-/

namespace Playground

namespace Options

def mergedValue (foreign : Json) (key : String) (own : Json) : Json :=
  ((foreign.get? key).filter fun value => value.kind = own.kind).getD own

section Value

variable {foreign own value : Json} {key : String}

theorem mergedValue_of_same (found : foreign.get? key = some value)
    (same : value.kind = own.kind) : mergedValue foreign key own = value := by
  simp [mergedValue, found, same, Option.filter]

theorem mergedValue_of_other
    (other : ∀ value, foreign.get? key = some value → value.kind ≠ own.kind) :
    mergedValue foreign key own = own := by
  unfold mergedValue
  cases found : foreign.get? key with
  | none => rfl
  | some value => simp [other value found, Option.filter]

theorem mergedValue_cases (foreign : Json) (key : String) (own : Json) :
    (∃ value, foreign.get? key = some value ∧ value.kind = own.kind ∧
        mergedValue foreign key own = value) ∨
      ((∀ value, foreign.get? key = some value → value.kind ≠ own.kind) ∧
        mergedValue foreign key own = own) := by
  by_cases taken : ∃ value, foreign.get? key = some value ∧ value.kind = own.kind
  · obtain ⟨value, found, same⟩ := taken
    exact .inl ⟨value, found, same, mergedValue_of_same found same⟩
  · have other : ∀ value, foreign.get? key = some value → value.kind ≠ own.kind :=
      fun value found same => taken ⟨value, found, same⟩
    exact .inr ⟨other, mergedValue_of_other other⟩

theorem kind_mergedValue (foreign : Json) (key : String) (own : Json) :
    (mergedValue foreign key own).kind = own.kind := by
  obtain ⟨value, -, same, merged⟩ | ⟨-, merged⟩ := mergedValue_cases foreign key own
  · rw [merged, same]
  · rw [merged]

theorem mergedValue_mergedValue (foreign : Json) (key : String) (own : Json) :
    mergedValue foreign key (mergedValue foreign key own) = mergedValue foreign key own := by
  obtain ⟨value, found, same, merged⟩ | ⟨-, merged⟩ := mergedValue_cases foreign key own
  · rw [merged, mergedValue_of_same found rfl]
  · rw [merged, merged]

end Value

section Merge

theorem mergeByKind_eq (c : List (String × Json)) (foreign : Json) :
    mergeByKind c foreign = c.map fun m => (m.1, mergedValue foreign m.1 m.2) := by
  unfold mergeByKind
  apply List.map_congr_left
  rintro ⟨key, own⟩ -
  dsimp only
  cases found : foreign.get? key with
  | none => simp [mergedValue, found]
  | some value =>
    by_cases same : value.kind = own.kind
    · simp [mergedValue_of_same found same, same]
    · simp [mergedValue, found, same, Option.filter]

variable {c : List (String × Json)}

theorem map_fst_mergeByKind (c : List (String × Json)) (foreign : Json) :
    (mergeByKind c foreign).map Prod.fst = c.map Prod.fst := by
  rw [mergeByKind_eq, List.map_map]
  rfl

theorem lookup_mergeByKind (c : List (String × Json)) (foreign : Json) (key : String) :
    (mergeByKind c foreign).lookup key = (c.lookup key).map (mergedValue foreign key) := by
  rw [mergeByKind_eq, Keyed.lookup_map_value]

theorem mergeByKind_eq_self {foreign : Json} (same : ∀ m ∈ c, mergedValue foreign m.1 m.2 = m.2) :
    mergeByKind c foreign = c := by
  rw [mergeByKind_eq]
  refine (List.map_congr_left fun m member => ?_).trans (List.map_id c)
  rw [same m member]
  rfl

theorem mergeByKind_mergeByKind (c : List (String × Json)) (foreign : Json) :
    mergeByKind (mergeByKind c foreign) foreign = mergeByKind c foreign := by
  apply mergeByKind_eq_self
  intro m member
  rw [mergeByKind_eq] at member
  obtain ⟨n, -, rfl⟩ := List.mem_map.mp member
  exact mergedValue_mergedValue foreign n.1 n.2

theorem mergeByKind_object (distinct : (c.map Prod.fst).Nodup) (foreign : Json) :
    mergeByKind c (.object (mergeByKind c foreign)) = mergeByKind c foreign := by
  rw [mergeByKind_eq, mergeByKind_eq c foreign]
  apply List.map_congr_left
  rintro ⟨key, own⟩ member
  have found : (Json.object (mergeByKind c foreign)).get? key =
      some (mergedValue foreign key own) := by
    rw [Json.get?_object, lookup_mergeByKind,
      (Keyed.lookup_eq_some_iff distinct key own).mpr member, Option.map_some]
  rw [← mergeByKind_eq]
  dsimp only
  rw [mergedValue_of_same found (kind_mergedValue foreign key own)]

end Merge

section InPlace

variable {c : List (String × Json)} {foreign : Json}

def Unrepeated (foreign : Json) : Prop :=
  ∀ members, foreign = .object members → (members.map Prod.fst).Nodup

theorem mergedValue_single (key other : String) (value own : Json) :
    mergedValue (.object [(key, value)]) other own =
      if other = key ∧ value.kind = own.kind then value else own := by
  by_cases same : other = key
  · by_cases kind : value.kind = own.kind <;> simp [mergedValue, same, kind, Option.filter]
  · have miss : (other == key) = false := by simpa using same
    simp [mergedValue, List.lookup_cons, miss, same]

theorem overwriteMember_eq (distinct : (c.map Prod.fst).Nodup) (m : String × Json) :
    overwriteMember c m = mergeByKind c (.object [m]) := by
  obtain ⟨key, value⟩ := m
  have own (n : String × Json) (member : n ∈ c) : c.lookup n.1 = some n.2 :=
    (Keyed.lookup_eq_some_iff distinct n.1 n.2).mpr member
  simp only [overwriteMember]
  cases found : c.lookup key with
  | none =>
    refine (mergeByKind_eq_self fun n member => ?_).symm
    have apart : n.1 ≠ key := by
      rintro rfl
      rw [own n member] at found
      cases found
    rw [mergedValue_single, if_neg fun both => apart both.1]
  | some existing =>
    have single : ∀ n ∈ c, n.1 = key → n.2 = existing := by
      rintro n member rfl
      rw [own n member] at found
      exact Option.some.inj found
    by_cases kind : value.kind = existing.kind
    · simp only [if_pos kind]
      rw [Keyed.put_eq_map distinct (Keyed.mem_of_lookup found), mergeByKind_eq]
      apply List.map_congr_left
      intro n member
      rw [mergedValue_single]
      by_cases same : n.1 = key
      · simp [same, single n member same, kind]
      · simp [same]
    · simp only [if_neg kind]
      refine (mergeByKind_eq_self fun n member => ?_).symm
      rw [mergedValue_single, if_neg]
      rintro ⟨same, both⟩
      rw [single n member same] at both
      exact kind both

/-- Members that are merged one after the other are merged at once, unless a key comes twice. -/
theorem mergedValue_cons {key : String} {value : Json} {rest : List (String × Json)}
    (new : key ∉ rest.map Prod.fst) (other : String) (own : Json) :
    mergedValue (.object rest) other (mergedValue (.object [(key, value)]) other own) =
      mergedValue (.object ((key, value) :: rest)) other own := by
  by_cases same : other = key
  · subst same
    have missing : rest.lookup other = none := Keyed.lookup_eq_none new
    simp [mergedValue, missing]
  · have miss : (other == key) = false := by simpa using same
    simp [mergedValue, List.lookup_cons, miss]

theorem foldl_overwriteMember (distinct : (c.map Prod.fst).Nodup) {tried : List (String × Json)}
    (unrepeated : (tried.map Prod.fst).Nodup) :
    tried.foldl overwriteMember c = mergeByKind c (.object tried) := by
  induction tried generalizing c with
  | nil =>
    refine (mergeByKind_eq_self fun m _ => ?_).symm
    exact mergedValue_of_other (by simp)
  | cons m tried ih =>
    rw [List.map_cons, List.nodup_cons] at unrepeated
    have keys : ((mergeByKind c (.object [m])).map Prod.fst).Nodup := by
      rw [map_fst_mergeByKind]
      exact distinct
    rw [List.foldl_cons, overwriteMember_eq distinct, ih keys unrepeated.2, mergeByKind_eq,
      mergeByKind_eq, mergeByKind_eq, List.map_map]
    apply List.map_congr_left
    intro n _
    exact congrArg (Prod.mk n.1) (mergedValue_cons unrepeated.1 n.1 n.2)

theorem mergeInPlace_eq (distinct : (c.map Prod.fst).Nodup) (unrepeated : Unrepeated foreign) :
    mergeInPlace c foreign = mergeByKind c foreign := by
  cases foreign with
  | object tried => exact foldl_overwriteMember distinct (unrepeated tried rfl)
  | _ =>
    refine (mergeByKind_eq_self fun m _ => ?_).symm
    exact mergedValue_of_other fun value found => by cases found

end InPlace

theorem Content.admits_of_kind {content : Content} {own value : Json}
    (admitted : content.admits own = true) (same : value.kind = own.kind)
    (names : ∀ names s, content = .oneOf names → value = .text s → s ∈ names) :
    content.admits value = true := by
  cases content with
  | flag =>
    cases own <;> cases admitted
    cases value <;> first | rfl | cases same
  | text =>
    cases own <;> cases admitted
    cases value <;> first | rfl | cases same
  | oneOf choices =>
    cases own with
    | text name =>
      cases value with
      | text s => simpa [Content.admits] using names choices s rfl rfl
      | _ => cases same
    | _ => cases admitted

section Records

variable {α : Type} [Record α] [Schema α]

def NamesOnly (α : Type) [Record α] [Schema α] (foreign : Json) : Prop :=
  ∀ key names s, (Schema.contents α).lookup key = some (.oneOf names) →
    foreign.get? key = some (.text s) → s ∈ names

theorem admits_iff_kind {f : Field α} (member : f ∈ Record.fields) {value : Json}
    (names : ∀ names s, (Schema.contents α).lookup f.key = some (.oneOf names) →
      value = .text s → s ∈ names) (c : α) :
    admits α f.key value = true ↔ value.kind = (f.slot.get c).kind := by
  refine ⟨fun admitted => kind_eq_of_admits member admitted c, fun same => ?_⟩
  have own := admits_get member c
  cases known : (Schema.contents α).lookup f.key with
  | none => simp [admits, known] at own
  | some content =>
    rw [admits_of_lookup known] at own ⊢
    refine Content.admits_of_kind own same ?_
    rintro choices s rfl text
    exact names choices s known text

theorem namesOnly_of_single (choice : String) (known : List String)
    (single : ∀ entry ∈ Schema.contents α, ∀ names, entry.2 = .oneOf names →
      entry.1 = choice ∧ names = known)
    {foreign : Json} (given : ∀ s, foreign.get? choice = some (.text s) → s ∈ known) :
    NamesOnly α foreign := by
  intro key names s found text
  have distinct : ((Schema.contents α).map Prod.fst).Nodup :=
    Schema.map_fst_contents (α := α) ▸ Schema.nodup_keys
  have member := (Keyed.lookup_eq_some_iff distinct _ _).mp found
  obtain ⟨rfl, rfl⟩ := single _ member names rfl
  exact given s text

theorem get_reconcile_eq_mergedValue {foreign : Json} (names : NamesOnly α foreign) (t : α)
    {f : Field α} (member : f ∈ Record.fields) :
    f.slot.get (reconcile t foreign) = mergedValue foreign f.key (f.slot.get t) := by
  rw [get_reconcile t foreign member, taken, mergedValue]
  cases found : foreign.get? f.key with
  | none => rfl
  | some value =>
    have admitted : admits α f.key value = true ↔ value.kind = (f.slot.get t).kind :=
      admits_iff_kind member
        (fun choices s known text => names f.key choices s known (text ▸ found)) t
    by_cases same : value.kind = (f.slot.get t).kind
    · simp [Option.filter, admitted.mpr same, same]
    · have refused : admits α f.key value = false := by
        rw [← Bool.not_eq_true, admitted]
        exact same
      simp [Option.filter, refused, same]

theorem members_reconcile {foreign : Json} (names : NamesOnly α foreign) (t : α) :
    members (reconcile t foreign) = mergeByKind (members t) foreign := by
  rw [mergeByKind_eq, members, members, List.map_map]
  apply List.map_congr_left
  intro f member
  simp only [Function.comp_apply, get_reconcile_eq_mergedValue names t member]

theorem sortedJson_reconcile {foreign : Json} (names : NamesOnly α foreign) (t : α) :
    sortedJson (reconcile t foreign) =
      .object (mergeByKind (Keyed.sorted (members t)) foreign) := by
  rw [sortedJson, Json.ofMembers, members_reconcile names, mergeByKind_eq, mergeByKind_eq,
    Keyed.sorted_map_value]

theorem reconcileByTrial_of_unrepeated (t : α) {foreign : Json} (unrepeated : Unrepeated foreign) :
    reconcileByTrial t foreign = reconcile t foreign := by
  cases foreign with
  | object members => exact reconcileByTrial_eq t (unrepeated members rfl) (.refl members)
  | _ => exact (reconcile_of_not_object rfl).symm

/-- The JSON of a record is merged as the record is reconciled, at once or in place. -/
structure MergesAs (t : α) (foreign : Json) (entries : List (String × Json)) : Prop where
  own : sortedJson t = .object entries
  merged : sortedJson (reconcile t foreign) = .object (mergeByKind entries foreign)
  inPlace : Unrepeated foreign →
    sortedJson (reconcileByTrial t foreign) = .object (mergeInPlace entries foreign)

theorem exists_mergesAs {foreign : Json} (names : NamesOnly α foreign) (t : α) :
    ∃ entries, MergesAs t foreign entries := by
  refine ⟨Keyed.sorted (members t), rfl, sortedJson_reconcile names t, fun unrepeated => ?_⟩
  have distinct : ((Keyed.sorted (members t)).map Prod.fst).Nodup := (mirrors_sorted t).distinct
  rw [reconcileByTrial_of_unrepeated t unrepeated, mergeInPlace_eq distinct unrepeated,
    sortedJson_reconcile names]

end Records

/-- What a merge of members with a foreign value comes to. -/
structure Merges (c : List (String × Json)) (foreign : Json) : Prop where
  keys : (mergeByKind c foreign).map Prod.fst = c.map Prod.fst
  takes : ∀ key own value, c.lookup key = some own → foreign.get? key = some value →
    value.kind = own.kind → (mergeByKind c foreign).lookup key = some value
  keeps : ∀ key own, c.lookup key = some own →
    (∀ value, foreign.get? key = some value → value.kind ≠ own.kind) →
    (mergeByKind c foreign).lookup key = some own
  again : mergeByKind (mergeByKind c foreign) foreign = mergeByKind c foreign
  readBack : mergeByKind c (.object (mergeByKind c foreign)) = mergeByKind c foreign
  inPlace : Unrepeated foreign → mergeInPlace c foreign = mergeByKind c foreign

theorem merges {c : List (String × Json)} (distinct : (c.map Prod.fst).Nodup) (foreign : Json) :
    Merges c foreign where
  keys := map_fst_mergeByKind c foreign
  takes key own value found given same := by
    rw [lookup_mergeByKind, found, Option.map_some, mergedValue_of_same given same]
  keeps key own found other := by
    rw [lookup_mergeByKind, found, Option.map_some, mergedValue_of_other other]
  again := mergeByKind_mergeByKind c foreign
  readBack := mergeByKind_object distinct foreign
  inPlace := mergeInPlace_eq distinct

/-- Members are merged by kind with any value, and so is the JSON of either record, as the record is
reconciled, unless its mangler is given a name that is none. -/
theorem mergeByKind_agrees {c : List (String × Json)} (distinct : (c.map Prod.fst).Nodup)
    (foreign : Json) :
    Merges c foreign ∧
      (∀ t : PrimaryOptions,
        (∀ s, foreign.get? "mangler" = some (.text s) → (Mangler.ofName? s).isSome = true) →
          ∃ entries, MergesAs t foreign entries) ∧
      ∀ t : AlternateOptions,
        (∀ s, foreign.get? "mangler" = some (.text s) →
          (AlternateMangler.ofName? s).isSome = true) →
          ∃ entries, MergesAs t foreign entries := by
  refine ⟨merges distinct foreign, fun t known => ?_, fun t known => ?_⟩
  · refine exists_mergesAs (namesOnly_of_single "mangler" ["escape", "hash", "none"] ?_ ?_) t
    · simp [Schema.contents]
    · simpa only [Mangler.isSome_ofName?, List.contains_iff_mem] using known
  · refine exists_mergesAs (namesOnly_of_single "mangler" ["underscore", "none"] ?_ ?_) t
    · simp [Schema.contents]
    · simpa only [AlternateMangler.isSome_ofName?, List.contains_iff_mem] using known

/-- Values of other kinds, and keys that are not there, change nothing; a name that both manglers
have is taken over by both records. -/
theorem mergeByKind_agrees_none :
    let c : List (String × Json) := [("text", .text "x"), ("flag", .bool true)]
    let foreign : Json :=
      .object [("flag", .bool false), ("mangler", .text "none"), ("text", .array [.null])]
    let t : PrimaryOptions := Record.default
    let u : AlternateOptions := Record.default
    (c.map Prod.fst).Nodup ∧ (mergeByKind c foreign).lookup "flag" = some (.bool false) ∧
      (mergeByKind c foreign).lookup "text" = some (.text "x") ∧
      (∃ entries, sortedJson t = .object entries ∧
        sortedJson (reconcile t foreign) = .object (mergeByKind entries foreign)) ∧
      ∃ entries, sortedJson u = .object entries ∧
        sortedJson (reconcile u foreign) = .object (mergeByKind entries foreign) := by
  intro c foreign t u
  have distinct : (c.map Prod.fst).Nodup := by decide
  obtain ⟨merges, primary, alternate⟩ := mergeByKind_agrees distinct foreign
  have name (s : String) (given : foreign.get? "mangler" = some (.text s)) : s = "none" := by
    have held : foreign.get? "mangler" = some (.text "none") := rfl
    rw [held] at given
    cases given
    rfl
  obtain ⟨entries, own, merged, -⟩ := primary t fun s given => by rw [name s given]; rfl
  obtain ⟨others, own', merged', -⟩ := alternate u fun s given => by rw [name s given]; rfl
  refine ⟨distinct, merges.takes _ _ _ rfl rfl rfl, merges.keeps _ _ rfl ?_, ⟨entries, own, merged⟩,
    others, own', merged'⟩
  rintro value given same
  cases given
  cases same

end Options

end Playground
