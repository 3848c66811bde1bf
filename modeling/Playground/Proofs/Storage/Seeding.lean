import Playground.Json.Equality
import Playground.Proofs.Salvage
import Playground.Proofs.Token
import Playground.Storage.Memory

/-!
The order of seeding. A token or a stored text that cannot be read counts as absent, and so does one
that is read as JSON in which a file list or a linker finds nothing. Records differ: JSON that is no
object is taken for a record in which nothing changes. Main statement: when a cell is seeded from
the first source in which something is usable, and with what a record opens otherwise.
-/

namespace Playground

/-- Whether a foreign value has an entry that can be used as a file. -/
def SourceFile.foundIn (value : Json) : Bool :=
  value.items?.any fun entries => entries.any fun entry => (ofJson? entry).isSome

def Linker.namedBy (value : Json) : Bool :=
  value.text?.any fun name => (all.map Linker.name).contains name

namespace Location

/-- What a location says under a key, if its token can be read. -/
def json? (l : Location) (key : String) : Option Json :=
  (l.token? key).bind fun token => (Token.decodeJson token).toOption

def without (l : Location) (key : String) : Location :=
  { l with params := l.params.filter fun m => m.1 ≠ key }

@[simp] theorem json?_without (l : Location) (key : String) : (l.without key).json? key = none := by
  have gone : (l.params.filter fun m => m.1 ≠ key).lookup key = none :=
    Keyed.lookup_eq_none (by simp)
  simp only [json?, token?, without, gone, Option.filter_none, Option.bind_none]

end Location

namespace Storage

def json? {β : Type} [Backend β] (b : β) (key : String) : Option Json :=
  (Backend.load b key).toOption.join.bind Json.read?

namespace Cell

section Sources

variable {α β : Type} [Storable α] [Backend β] {key : String} {initial : α} {l : Location} {b : β}

theorem fromLocation?_eq : fromLocation? key initial l =
    (l.json? key).bind (Storable.ofForeign? initial) := by
  rw [fromLocation?, Location.json?, Option.bind_eq_bind, Option.bind_assoc]
  congr 1
  funext token
  cases Token.decodeJson token <;> rfl

theorem fromBackend?_eq : fromBackend? key initial b =
    (json? b key).bind (Storable.ofForeign? initial) := by
  unfold fromBackend? json?
  split
  case h_1 raw stored => simp only [stored, Except.toOption, Option.join_some, Option.bind_some]
  case h_2 absent =>
    cases stored : Backend.load b key with
    | error e => rfl
    | ok text =>
      cases text with
      | none => rfl
      | some raw => exact absurd stored (absent raw)

theorem json?_eq_none (nothing : Backend.load b key = .ok none) : json? b key = none := by
  simp only [json?, nothing, Except.toOption, Option.join_some, Option.bind_none]

theorem seed_ne_location (silent : fromLocation? key initial l = none) :
    (seed key initial l b).2 ≠ .location := by
  rw [seed, silent]
  cases fromBackend? key initial b <;> exact Seed.noConfusion

end Sources

/-- A cell is seeded from the first source in which something is usable. Sources in which nothing is
are passed over: the cell opens as if the location said nothing under its key, or as if storage had
nothing there. -/
structure InOrder {α β : Type} [Storable α] [Backend β] (usable : Json → Bool) (key : String)
    (initial : α) (l : Location) (b : β) : Prop where
  passesLocation : (l.json? key).any usable = false →
    seed key initial l b = seed key initial (l.without key) b
  passesBackend : (json? b key).any usable = false → ∀ {γ : Type} [Backend γ] (c : γ),
    Backend.load c key = .ok none → seed key initial l b = seed key initial l c
  takesLocation : (l.json? key).any usable = true → (seed key initial l b).2 = .location
  takesBackend : (l.json? key).any usable = false → (json? b key).any usable = true →
    (seed key initial l b).2 = .backend

section InOrder

variable {α β : Type} [Storable α] [Backend β]

theorem inOrder {usable : Json → Bool} {initial : α}
    (tells : ∀ value, (Storable.ofForeign? initial value).isSome = usable value)
    (key : String) (l : Location) (b : β) : InOrder usable key initial l b := by
  have recovered (source : Option Json) :
      (source.bind (Storable.ofForeign? initial)).isSome = source.any usable := by
    cases source with
    | none => rfl
    | some value => exact tells value
  have passed {source : Option Json} (nothing : source.any usable = false) :
      source.bind (Storable.ofForeign? initial) = none := by
    rw [← recovered] at nothing
    simpa using nothing
  have taken {source : Option Json} (something : source.any usable = true) :
      ∃ value, source.bind (Storable.ofForeign? initial) = some value := by
    rw [← Option.isSome_iff_exists, recovered, something]
  constructor
  case passesLocation =>
    intro nothing
    simp only [seed, fromLocation?_eq, passed nothing, Location.json?_without, Option.bind_none]
  case passesBackend =>
    intro nothing γ _ c absent
    simp only [seed, fromBackend?_eq, passed nothing, json?_eq_none absent, Option.bind_none]
  case takesLocation =>
    intro something
    obtain ⟨value, given⟩ := taken something
    simp only [seed, fromLocation?_eq, given]
  case takesBackend =>
    intro nothing something
    obtain ⟨value, stored⟩ := taken something
    simp only [seed, fromLocation?_eq, passed nothing, fromBackend?_eq, stored]

theorem isSome_ofForeign?_files (initial : List SourceFile) (value : Json) :
    (Storable.ofForeign? initial value).isSome = SourceFile.foundIn value := by
  have kept : (Salvage.ofJson value).files.isEmpty = !SourceFile.foundIn value := by
    cases value with
    | array entries =>
      rw [Bool.eq_iff_iff, List.isEmpty_iff, Salvage.files_array_eq_nil_iff]
      simp [SourceFile.foundIn, Json.items?]
    | _ => rfl
  simp only [Storable.ofForeign?, kept]
  cases SourceFile.foundIn value <;> rfl

theorem isSome_ofForeign?_linker (initial : Linker) (value : Json) :
    (Storable.ofForeign? initial value).isSome = Linker.namedBy value := by
  cases value with
  | text name =>
    cases found : Linker.ofName? name with
    | some linker =>
      rw [Linker.ofName?_eq_some_iff] at found
      subst found
      cases linker <;> rfl
    | none =>
      have other (linker : Linker) : name ≠ linker.name := by
        rintro rfl
        rw [Linker.ofName?_name] at found
        cases found
      have absent : Linker.namedBy (.text name) = false := by
        simp [Linker.namedBy, Json.text?, Linker.all, other]
      rw [absent]
      exact congrArg Option.isSome found
  | _ => rfl

end InOrder

section Records

variable {ω β : Type} [Options.Record ω] [Backend β] {key : String} {initial : ω} {l : Location}
  {b : β}

def Objectless (source : Option Json) : Prop :=
  ∃ value, source = some value ∧ value.isObject = false

theorem objectless_iff {source : Option Json} :
    Objectless source ↔ source ≠ none ∧ source.any Json.isObject = false := by
  cases source <;> simp [Objectless]

theorem seed_of_json {value : Json} (said : l.json? key = some value) :
    seed key initial l b = (Options.reconcile initial value, .location) := by
  rw [seed, fromLocation?_eq, said]
  rfl

theorem seed_of_objectless (objectless : Objectless (l.json? key)) :
    seed key initial l b = (initial, .location) := by
  obtain ⟨value, said, kind⟩ := objectless
  rw [seed_of_json said, Options.reconcile_of_not_object kind]

theorem seed_of_stored_objectless (silent : l.json? key = none)
    (objectless : Objectless (json? b key)) :
    seed key initial l b = (initial, .backend) := by
  obtain ⟨value, stored, kind⟩ := objectless
  rw [seed, fromLocation?_eq, silent, fromBackend?_eq, stored]
  simp only [Option.bind_none, Option.bind_some, Storable.ofForeign?,
    Options.reconcile_of_not_object kind]

/-- A record is seeded in order unless the first source that can be read has JSON that is no
object. -/
theorem inOrder_record_iff : InOrder Json.isObject key initial l b ↔
    ¬ Objectless (l.json? key) ∧ (l.json? key = none → ¬ Objectless (json? b key)) := by
  constructor
  · intro order
    constructor
    · intro objectless
      have same := order.passesLocation (objectless_iff.mp objectless).2
      have silent : fromLocation? key initial (l.without key) = none := by
        rw [fromLocation?_eq, Location.json?_without, Option.bind_none]
      rw [seed_of_objectless objectless] at same
      exact seed_ne_location silent (congrArg Prod.snd same).symm
    · intro silent objectless
      have same := order.passesBackend (objectless_iff.mp objectless).2 Memory.empty rfl
      have initially : seed key initial l Memory.empty = (initial, .initial) := by
        rw [seed, fromLocation?_eq, silent]
        rfl
      rw [seed_of_stored_objectless silent objectless, initially] at same
      cases same
  · rintro ⟨object, stored⟩
    have silent (nothing : (l.json? key).any Json.isObject = false) : l.json? key = none := by
      by_contra said
      exact object (objectless_iff.mpr ⟨said, nothing⟩)
    constructor
    case passesLocation =>
      intro nothing
      simp only [seed, fromLocation?_eq, silent nothing, Location.json?_without]
    case passesBackend =>
      intro nothing γ _ c absent
      cases said : l.json? key with
      | some value => rw [seed_of_json said, seed_of_json said]
      | none =>
        by_cases empty : json? b key = none
        · simp only [seed, fromBackend?_eq, empty, json?_eq_none absent]
        · exact absurd (objectless_iff.mpr ⟨empty, nothing⟩) (stored said)
    case takesLocation =>
      intro something
      obtain ⟨value, said, -⟩ := (Option.any_eq_true _ _).mp something
      rw [seed_of_json said]
    case takesBackend =>
      intro nothing something
      obtain ⟨value, held, -⟩ := (Option.any_eq_true _ _).mp something
      rw [seed, fromLocation?_eq, silent nothing, fromBackend?_eq, held]
      rfl

end Records

/-- Every cell of files and every cell of a linker is seeded from the first source in which something
is usable. So is a cell of a record, unless the first source that can be read has JSON that is no
object: then it opens with its initial value, and as if that source had given it. -/
theorem seeds_in_order {β : Type} [Backend β] (key : String) (l : Location) (b : β) :
    (∀ initial : List SourceFile, InOrder SourceFile.foundIn key initial l b) ∧
      (∀ initial : Linker, InOrder Linker.namedBy key initial l b) ∧
      ∀ {ω : Type} [Options.Record ω] (initial : ω),
        (InOrder Json.isObject key initial l b ↔
          ¬ Objectless (l.json? key) ∧ (l.json? key = none → ¬ Objectless (json? b key))) ∧
        (Objectless (l.json? key) → seed key initial l b = (initial, .location)) ∧
        (l.json? key = none → Objectless (json? b key) →
          seed key initial l b = (initial, .backend)) :=
  ⟨fun initial => inOrder (isSome_ofForeign?_files initial) key l b,
    fun initial => inOrder (isSome_ofForeign?_linker initial) key l b,
    fun _ => ⟨inOrder_record_iff, seed_of_objectless, seed_of_stored_objectless⟩⟩

section Vacuous

def vacuous : Location := ⟨"/", none, ["files", "linker", "options-primary"].map fun key =>
  (key, Token.encodeJson (.array []))⟩

theorem json?_vacuous {key : String} (known : key ∈ ["files", "linker", "options-primary"]) :
    vacuous.json? key = some (.array []) := by
  have text : (Json.array []).print = "[]" := by decide +kernel
  have read : Json.read? "[]" = some (.array []) := by decide +kernel
  have decoded : Token.decodeJson (Token.encodeJson (.array [])) = .ok (.array []) := by
    rw [Token.decodeJson, Token.encodeJson, text, Token.decode_encode (by decide)]
    simp only [read]
  have token : vacuous.token? key = some (Token.encodeJson (.array [])) := by
    simp only [List.mem_cons, List.not_mem_nil, or_false] at known
    obtain rfl | rfl | rfl := known <;>
      simp [Location.token?, vacuous, List.lookup_cons, Token.encodeJson, Token.encode_ne_empty]
  rw [Location.json?, token, Option.bind_some, decoded]
  rfl

/-- Storage with an empty list where files belong, a linker, and options of which one is changed. -/
def filled : Memory :=
  ((Memory.empty.put "files" "[]").put "linker" "\"alternate\"").put "options-primary"
    "\x7b\"strip\":true\x7d"

/-- Of the lists, those for files and for a linker are passed over. -/
theorem seeds_in_order_vacuous :
    vacuous.json? "files" = some (.array []) ∧
      seed "files" Project.fresh.files vacuous filled = (Project.fresh.files, .initial) ∧
      seed "linker" Linker.primary vacuous filled = (.alternate, .backend) := by
  have readFiles : vacuous.json? "files" = some (.array []) := json?_vacuous (by decide)
  have readLinker : vacuous.json? "linker" = some (.array []) := json?_vacuous (by decide)
  have files := (seeds_in_order "files" vacuous filled).1 Project.fresh.files
  have linker := (seeds_in_order "linker" vacuous filled).2.1 Linker.primary
  have noFiles : json? filled "files" = some (.array []) := by decide +kernel
  have stored : json? filled "linker" = some (.text "alternate") := by decide +kernel
  refine ⟨readFiles, ?_, ?_⟩
  · rw [files.passesLocation (by rw [readFiles]; rfl), seed, fromLocation?_eq, Location.json?_without,
      fromBackend?_eq, noFiles]
    rfl
  · rw [linker.passesLocation (by rw [readLinker]; rfl), seed, fromLocation?_eq, Location.json?_without,
      fromBackend?_eq, stored]
    rfl

/-- The list for a record is not: the stored options are lost. Nor is a stored list. -/
theorem seed_vacuous_record :
    let key := "options-primary"
    let initial : PrimaryOptions := Options.Record.default
    let listed := filled.put key "[]"
    seed key initial vacuous filled = (initial, .location) ∧
      seed key initial (vacuous.without key) filled = ({ initial with strip := true }, .backend) ∧
      seed key initial Location.root listed = (initial, .backend) ∧
      seed key initial Location.root Memory.empty = (initial, .initial) := by
  intro key initial listed
  have stored : json? filled key = some (.object [("strip", .bool true)]) := by decide +kernel
  have list : json? listed key = some (.array []) := by decide +kernel
  refine ⟨seed_of_objectless ⟨_, json?_vacuous (by decide), rfl⟩, ?_,
    seed_of_stored_objectless rfl ⟨_, list, rfl⟩, rfl⟩
  rw [seed, fromLocation?_eq, Location.json?_without, fromBackend?_eq, stored]
  rfl

end Vacuous

end Cell

end Storage

end Playground
