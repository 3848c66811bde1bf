import Playground.Proofs.Project.InPlace

/-!
Setting options. Main statement: which typed texts an option accepts, what it is then, that nothing
else of the project changes, and that an option can be set to what it is without leaving anything to
store.
-/

namespace Playground

namespace Options

section Records

variable {α : Type} [Record α] [Schema α]

structure Puts (c : α) (key : String) (value : Json) (d : α) : Prop where
  get? : ∀ other, (sortedJson d).get? other =
    if other = key then some value else (sortedJson c).get? other
  eq_iff : d = c ↔ (sortedJson c).get? key = some value

theorem ext_get? {c d : α} (same : ∀ key, (sortedJson c).get? key = (sortedJson d).get? key) :
    c = d := by
  apply ext_get
  intro f member
  have own := same f.key
  rw [get?_sortedJson Schema.nodup_keys c member, get?_sortedJson Schema.nodup_keys d member] at own
  exact Option.some.inj own

theorem puts_of_get {c d : α} {key : String} {value : Json}
    (known : key ∈ (Record.fields (α := α)).map Field.key)
    (get : ∀ g ∈ Record.fields (α := α), g.slot.get d = if g.key = key then value else g.slot.get c) :
    Puts c key value d := by
  have all (other : String) : (sortedJson d).get? other =
      if other = key then some value else (sortedJson c).get? other := by
    by_cases member : other ∈ (Record.fields (α := α)).map Field.key
    · obtain ⟨g, own, rfl⟩ := List.mem_map.mp member
      rw [get?_sortedJson Schema.nodup_keys d own, get?_sortedJson Schema.nodup_keys c own,
        get g own]
      split <;> rfl
    · have apart : other ≠ key := by
        rintro rfl
        exact member known
      rw [get?_sortedJson_of_not_mem member, get?_sortedJson_of_not_mem member, if_neg apart]
  refine ⟨all, ?_, ?_⟩
  · rintro rfl
    simpa using all key
  · intro same
    apply ext_get?
    intro other
    rw [all other]
    split
    case isTrue h => rw [h, same]
    case isFalse => rfl

theorem mem_keys_of_get? {c : α} {key : String} {value : Json}
    (found : (sortedJson c).get? key = some value) :
    key ∈ (Record.fields (α := α)).map Field.key := by
  by_contra unknown
  rw [get?_sortedJson_of_not_mem unknown] at found
  cases found

theorem exists_admits_of_get? {c : α} {key : String} {value : Json}
    (found : (sortedJson c).get? key = some value) :
    ∃ content, (Schema.contents α).lookup key = some content ∧ content.admits value = true := by
  obtain ⟨f, member, rfl⟩ := List.mem_map.mp (mem_keys_of_get? found)
  rw [get?_sortedJson Schema.nodup_keys c member] at found
  obtain rfl := Option.some.inj found
  have admitted := admits_get member c
  unfold admits at admitted
  rwa [Option.any_eq_true] at admitted

end Records

theorem Content.means_print {content : Content} {value : Json}
    (fits : content.admits value = true) : content.Means value.print value := by
  cases content with
  | flag =>
    cases value with
    | bool b => exact .flag (Json.Readable.bool _ b).read?_print
    | _ => cases fits
  | text =>
    cases value with
    | text s => exact .quoted (Json.Readable.text _ s).read?_print
    | _ => cases fits
  | oneOf names =>
    cases value with
    | text s =>
      exact .quotedName (Json.Readable.text _ s).read?_print (by simpa [Content.admits] using fits)
    | _ => cases fits

end Options

open Options Project

def Linker.contents : Linker → List (String × Content)
  | .primary => Schema.contents PrimaryOptions
  | .alternate => Schema.contents AlternateOptions

instance (linker : Linker) : Schema (OptionsOf linker) :=
  match linker with
  | .primary => inferInstanceAs (Schema PrimaryOptions)
  | .alternate => inferInstanceAs (Schema AlternateOptions)

theorem Linker.contents_eq (linker : Linker) :
    linker.contents = Schema.contents (OptionsOf linker) := by
  cases linker <;> rfl

theorem Linker.bare_of_lookup {linker : Linker} {key : String} {content : Content}
    (known : linker.contents.lookup key = some content) : content.Bare := by
  have escape : Json.read? "escape" = none := by decide +kernel
  have hash : Json.read? "hash" = none := by decide +kernel
  have underscore : Json.read? "underscore" = none := by decide +kernel
  have none : Json.read? "none" = none := by decide +kernel
  have all : ∀ entry ∈ linker.contents, entry.2.Bare := by
    cases linker <;> simp [contents, Schema.contents, Content.Bare, escape, hash, underscore, none]
  obtain ⟨_, member, _, rfl⟩ : ∃ entry ∈ linker.contents, entry.1 = key ∧ entry.2 = content := by
    rw [List.lookup_eq_some_iff] at known
    obtain ⟨before, after, whole, -⟩ := known
    exact ⟨(key, content), by simp [whole], rfl, rfl⟩
  exact all _ member

def Commit.mark (c : Commit) : Linker → Commit
  | .primary => { c with primary := true }
  | .alternate => { c with alternate := true }

namespace Project

/-- `q` has a value for one option of a linker, which is pending if it was another one before, and
is `p` in everything else. -/
structure WithOption (p : Project) (linker : Linker) (key : String) (value : Json) (q : Project) :
    Prop where
  options : ∀ other, (q.optionsJson linker).get? other =
    if other = key then some value else (p.optionsJson linker).get? other
  primary : linker ≠ .primary → q.primary = p.primary
  alternate : linker ≠ .alternate → q.alternate = p.alternate
  pending : q.pending =
    if (p.optionsJson linker).get? key = some value then p.pending else p.pending.mark linker
  files : q.files = p.files
  linker : q.linker = p.linker
  current : q.current = p.current

theorem optionsJson_eq (p : Project) (linker : Linker) :
    p.optionsJson linker = sortedJson (p.options linker) := by
  cases linker <;> rfl

namespace WithOption

variable {p q r : Project} {linker : Linker} {key : String} {value : Json}

theorem unique (first : WithOption p linker key value q) (second : WithOption p linker key value r) :
    q = r := by
  have options (other : String) :
      (q.optionsJson linker).get? other = (r.optionsJson linker).get? other := by
    rw [first.options, second.options]
  have primary : q.primary = r.primary := by
    cases linker with
    | primary => exact ext_get? options
    | alternate => rw [first.primary (by decide), second.primary (by decide)]
  have alternate : q.alternate = r.alternate := by
    cases linker with
    | primary => rw [first.alternate (by decide), second.alternate (by decide)]
    | alternate => exact ext_get? options
  obtain ⟨_, _, _, _, _, _⟩ := q
  obtain ⟨_, _, _, _, _, _⟩ := r
  simp only [mk.injEq]
  exact ⟨first.files.trans second.files.symm, first.linker.trans second.linker.symm, primary,
    alternate, first.current.trans second.current.symm, first.pending.trans second.pending.symm⟩

theorem self (own : (p.optionsJson linker).get? key = some value) :
    WithOption p linker key value p where
  options other := by
    split
    case isTrue same => rw [same, own]
    case isFalse => rfl
  primary _ := rfl
  alternate _ := rfl
  pending := (if_pos own).symm
  files := rfl
  linker := rfl
  current := rfl

theorem setOptions {d : OptionsOf linker} (puts : Puts (p.options linker) key value d) :
    WithOption p linker key value (p.setOptions linker d) := by
  unfold Project.setOptions
  have own := puts.eq_iff
  rw [← optionsJson_eq] at own
  by_cases same : d = p.options linker
  · rw [if_pos same]
    exact .self (own.mp same)
  · have changed : ¬ (p.optionsJson linker).get? key = some value := fun h => same (own.mpr h)
    rw [if_neg same]
    cases linker with
    | primary =>
      exact ⟨puts.get?, fun h => absurd rfl h, fun _ => rfl, (if_neg changed).symm, rfl, rfl, rfl⟩
    | alternate =>
      exact ⟨puts.get?, fun _ => rfl, fun h => absurd rfl h, (if_neg changed).symm, rfl, rfl, rfl⟩

end WithOption

section SetOption

variable {p : Project} {linker : Linker} {key raw : String}

theorem setOption_of_unknown (unknown : linker.contents.lookup key = none) :
    p.setOption linker key raw = .error (.unknownOption linker key) := by
  rw [Linker.contents_eq] at unknown
  have missing := lookup_contents_eq_none_iff.mp unknown
  simp only [setOption_eq, assign_of_not_mem missing, optionRefusal]

theorem setOption_of_meaningless {content : Content}
    (known : linker.contents.lookup key = some content)
    (meaningless : ∀ value, ¬ content.Means raw value) :
    p.setOption linker key raw = .error (.rejectedValue key raw) := by
  rw [Linker.contents_eq] at known
  simp only [setOption_eq, assign_of_not_means known meaningless, optionRefusal]

theorem setOption_of_means {content : Content} (known : linker.contents.lookup key = some content)
    {value : Json} (means : content.Means raw value) :
    ∃ q, p.setOption linker key raw = .ok q ∧ WithOption p linker key value q := by
  have bare := Linker.bare_of_lookup known
  rw [Linker.contents_eq] at known
  obtain ⟨d, assigned, get⟩ := assign_of_means known bare means (p.options linker)
  refine ⟨p.setOptions linker d, by simp only [setOption_eq, assigned], .setOptions ?_⟩
  exact puts_of_get (mem_keys_of_lookup known) get

theorem setOption_cases (p : Project) (linker : Linker) (key raw : String) :
    linker.contents.lookup key = none ∧
        p.setOption linker key raw = .error (.unknownOption linker key) ∨
      (∃ content, linker.contents.lookup key = some content ∧ (∀ value, ¬ content.Means raw value) ∧
        p.setOption linker key raw = .error (.rejectedValue key raw)) ∨
      ∃ content value q, linker.contents.lookup key = some content ∧ content.Means raw value ∧
        WithOption p linker key value q ∧ p.setOption linker key raw = .ok q := by
  cases known : linker.contents.lookup key with
  | none => exact .inl ⟨rfl, setOption_of_unknown known⟩
  | some content =>
    by_cases meaning : ∃ value, content.Means raw value
    · obtain ⟨value, means⟩ := meaning
      obtain ⟨q, set, has⟩ := setOption_of_means (p := p) known means
      exact .inr (.inr ⟨content, value, q, rfl, means, has, set⟩)
    · rw [not_exists] at meaning
      exact .inr (.inl ⟨content, rfl, meaning, setOption_of_meaningless known meaning⟩)

theorem setOption_eq_error_iff {r : Refusal} :
    p.setOption linker key raw = .error r ↔
      linker.contents.lookup key = none ∧ r = .unknownOption linker key ∨
        ∃ content, linker.contents.lookup key = some content ∧
          (∀ value, ¬ content.Means raw value) ∧ r = .rejectedValue key raw := by
  constructor
  · intro failed
    obtain ⟨unknown, other⟩ | ⟨content, known, meaningless, other⟩ | ⟨_, _, _, -, -, -, other⟩ :=
      setOption_cases p linker key raw
    · rw [failed] at other
      cases other
      exact .inl ⟨unknown, rfl⟩
    · rw [failed] at other
      cases other
      exact .inr ⟨content, known, meaningless, rfl⟩
    · rw [failed] at other
      cases other
  · rintro (⟨unknown, rfl⟩ | ⟨content, known, meaningless, rfl⟩)
    · exact setOption_of_unknown unknown
    · exact setOption_of_meaningless known meaningless

theorem setOption_eq_unknown_iff : p.setOption linker key raw = .error (.unknownOption linker key) ↔
    linker.contents.lookup key = none := by
  rw [setOption_eq_error_iff]
  simp only [and_true, reduceCtorEq, and_false, exists_false, or_false]

theorem setOption_eq_rejected_iff : p.setOption linker key raw = .error (.rejectedValue key raw) ↔
    ∃ content, linker.contents.lookup key = some content ∧ ∀ value, ¬ content.Means raw value := by
  rw [setOption_eq_error_iff]
  simp only [and_true, reduceCtorEq, and_false, false_or]

theorem setOption_eq_ok_iff {q : Project} : p.setOption linker key raw = .ok q ↔
    ∃ content value, linker.contents.lookup key = some content ∧ content.Means raw value ∧
      WithOption p linker key value q := by
  constructor
  · intro set
    obtain ⟨-, other⟩ | ⟨_, -, -, other⟩ | ⟨content, value, r, known, means, has, same⟩ :=
      setOption_cases p linker key raw
    · rw [set] at other
      cases other
    · rw [set] at other
      cases other
    · rw [set] at same
      cases same
      exact ⟨content, value, known, means, has⟩
  · rintro ⟨content, value, known, means, has⟩
    obtain ⟨r, set, has'⟩ := setOption_of_means (p := p) known means
    rw [set, has.unique has']

theorem setOption_print {value : Json} (own : (p.optionsJson linker).get? key = some value) :
    p.setOption linker key value.print = .ok p := by
  obtain ⟨content, known, fits⟩ :
      ∃ content, linker.contents.lookup key = some content ∧ content.admits value = true := by
    rw [optionsJson_eq] at own
    rw [Linker.contents_eq]
    exact exists_admits_of_get? own
  exact setOption_eq_ok_iff.mpr ⟨content, value, known, Content.means_print fits, .self own⟩

end SetOption

/-- What comes of setting an option to a typed text. -/
structure Accepts (p : Project) (linker : Linker) (key raw : String) : Prop where
  unknown : p.setOption linker key raw = .error (.unknownOption linker key) ↔
    linker.contents.lookup key = none
  rejected : p.setOption linker key raw = .error (.rejectedValue key raw) ↔
    ∃ content, linker.contents.lookup key = some content ∧ ∀ value, ¬ content.Means raw value
  accepted : ∀ q, p.setOption linker key raw = .ok q ↔
    ∃ content value, linker.contents.lookup key = some content ∧ content.Means raw value ∧
      WithOption p linker key value q
  inPlace : (InPlace.setOption linker key raw).execute p =
    match p.setOption linker key raw with
    | .ok q => (.ok (), q)
    | .error r => (.error r, p)

/-- A key that the linker does not have is unknown; an option that it has takes what the text means
for it, and nothing else changes; a text that means nothing for it is rejected. Whatever is refused
leaves the project as it was, also where the option is set in place. What is printed of the value
that an option has sets it again and leaves nothing to store, and any text can be the root. -/
theorem setOption_accepts (p : Project) (linker : Linker) :
    (∀ key raw, Accepts p linker key raw) ∧
      (∀ key value, (p.optionsJson linker).get? key = some value →
        p.setOption linker key value.print = .ok p) ∧
      ∀ s, ∃ raw q, p.setOption linker "root" raw = .ok q ∧
        (q.optionsJson linker).get? "root" = some (.text s) := by
  refine ⟨fun key raw => ⟨setOption_eq_unknown_iff, setOption_eq_rejected_iff,
    fun q => setOption_eq_ok_iff, ?_⟩, fun key value => setOption_print, fun s => ?_⟩
  · rw [InPlace.execute_setOption]
    cases p.setOption linker key raw <;> rfl
  · have known : linker.contents.lookup "root" = some .text := by cases linker <;> rfl
    have means : Content.text.Means (Json.text s).print (.text s) := Content.means_print rfl
    obtain ⟨q, set, has⟩ := setOption_of_means (p := p) known means
    exact ⟨_, q, set, by simpa using has.options "root"⟩

/-- The mangler of the fresh project is set to what it is, and the external linker has no option of
another linker. -/
theorem setOption_accepts_fresh :
    (fresh.optionsJson .primary).get? "mangler" = some (.text "escape") ∧
      fresh.setOption .primary "mangler" (Json.text "escape").print = .ok fresh ∧
      fresh.setOption .alternate "strip" "true" = .error (.unknownOption .alternate "strip") := by
  have field : PrimaryOptions.fields[1] ∈ Record.fields (α := PrimaryOptions) :=
    List.getElem_mem (by decide)
  have own : (fresh.optionsJson .primary).get? "mangler" = some (.text "escape") :=
    get?_sortedJson Schema.nodup_keys fresh.primary field
  exact ⟨own, (setOption_accepts fresh .primary).2.1 "mangler" _ own,
    ((setOption_accepts fresh .alternate).1 "strip" "true").unknown.mpr (by decide +kernel)⟩

end Project

end Playground
