import Playground.Cli.Run
import Playground.Proofs.Project.WellFormed
import Playground.Proofs.Session.Frame
import Playground.Proofs.Storage.Kept
import Playground.Proofs.Token
import Playground.Proofs.Url.Form
import Playground.Proofs.Url.LongName

/-!
Permalinks. A link holds a project in three tokens, and no share. Main statement: a session that
opens at a link of a project has its files, its linker and the options of that linker, whatever
storage holds and without a request; and so has a session into which the link is loaded. In both the
options of the other linker are as they would be without the link.
-/

namespace Playground

theorem Text.strip_of_ends {p : Char → Bool} {cs : List Char}
    (first : ∀ c ∈ cs.head?, p c = false) (last : ∀ c ∈ cs.getLast?, p c = false) :
    strip p cs = cs := by
  have kept {cs : List Char} (first : ∀ c ∈ cs.head?, p c = false) : cs.dropWhile p = cs := by
    cases cs with
    | nil => rfl
    | cons c cs => simp [first c (by simp)]
  rw [strip, kept first, kept (by simpa using last), List.reverse_reverse]

/-- A project that has the files, the linker and the active options of another one, and the options
of the other linker from a third. -/
structure Project.Reproduces (p q r : Project) : Prop where
  files : r.files = p.files
  linker : r.linker = p.linker
  primary : p.linker = .primary → r.primary = p.primary ∧ r.alternate = q.alternate
  alternate : p.linker = .alternate → r.alternate = p.alternate ∧ r.primary = q.primary

namespace Location

variable {base : Url} {p : Project}

theorem path_permalink (legible : base.Legible) (p : Project) :
    ∃ names, (permalink base p).path = .segments names ∧ names ≠ [] ∧
      (∀ s ∈ names, Url.IsSegment s.toList) ∧ Handle.ofPath? (Url.Path.segments names).text = none := by
  obtain ⟨names, path, some, each⟩ := legible.path
  by_cases shared : (Handle.ofPath? base.path.text).isSome = true
  · refine ⟨[""], ?_, by simp, by simpa using Url.isSegment_nil, by decide⟩
    simp only [permalink, if_pos shared]
    rfl
  · refine ⟨names, ?_, some, each, ?_⟩
    · simp only [permalink, if_neg shared]
      simp only [Url.bare, Url.withQuery, path]
    · rw [path] at shared
      simpa using shared

theorem authority_permalink (base : Url) (p : Project) :
    (permalink base p).authority = base.authority := by
  unfold permalink
  simp only
  split <;> rfl

theorem scheme_permalink (base : Url) (p : Project) : (permalink base p).scheme = base.scheme := by
  unfold permalink
  simp only
  split <;> rfl

theorem query_permalink (base : Url) (p : Project) :
    (permalink base p).query = some (Url.Form.write (projectParams p)) := rfl

theorem inSpecialQuery_write {pairs : List (String × String)} :
    ∀ c ∈ (Url.Form.write pairs).toList, Url.Percent.inSpecialQuery c = false := by
  have all : ∀ n < 128, Url.Form.isWritten (Char.ofNat n) = true →
      Url.Percent.inSpecialQuery (Char.ofNat n) = false := by decide
  intro c member
  obtain written | rfl | rfl := Url.Form.of_mem_write member
  · have small := (Url.Form.isWritten_iff c).mp written
    have own := all c.toNat (by omega)
    rw [Char.ofNat_toNat] at own
    exact own written
  · decide
  · decide

theorem isBlank_of_mem_write {pairs : List (String × String)} {c : Char}
    (member : c ∈ (Url.Form.write pairs).toList) : Text.isBlank c = false := by
  obtain written | rfl | rfl := Url.Form.of_mem_write member
  · have codes := (Url.Form.isWritten_iff c).mp written
    simp only [Text.isBlank, Bool.or_eq_false_iff, Bool.and_eq_false_iff, decide_eq_false_iff_not,
      beq_eq_false_iff_ne]
    omega
  · rfl
  · rfl

theorem legible_permalink (legible : base.Legible) (p : Project) : (permalink base p).Legible := by
  obtain ⟨names, path, some, each, -⟩ := path_permalink legible p
  refine ⟨?_, ?_, ⟨names, path, some, each⟩, ?_, ?_⟩
  · rw [scheme_permalink]
    exact legible.web
  · rw [authority_permalink, scheme_permalink]
    exact legible.authority
  · rintro q found
    rw [query_permalink, Option.some.injEq] at found
    subst found
    exact inSpecialQuery_write
  · rintro f found
    cases found

theorem ofUrl_permalink (legible : base.Legible) (p : Project) :
    ofUrl (permalink base p) = ⟨(permalink base p).path.text, none, projectParams p⟩ := by
  obtain ⟨names, path, -, -, unshared⟩ := path_permalink legible p
  rw [ofUrl, path, unshared, query_permalink, Option.getD_some, Url.Form.read_write]

section Tokens

variable {l : Location} (params : l.params = projectParams p)
include params

theorem token?_files : l.token? filesKey = some (Token.encodeJson (SourceFile.listJson p.files)) := by
  have filled := Token.encode_ne_empty (SourceFile.listJson p.files).print
  simp [token?, params, projectParams, Token.encodeJson, filled]

theorem token?_linker : l.token? linkerKey = some (Token.encodeJson p.linker.toJson) := by
  have filled := Token.encode_ne_empty p.linker.toJson.print
  have other : (linkerKey == filesKey) = false := by decide
  simp [token?, params, projectParams, Token.encodeJson, filled, List.lookup_cons, other]

theorem token?_options :
    l.token? p.linker.optionsKey = some (Token.encodeJson p.activeOptions) := by
  have filled := Token.encode_ne_empty p.activeOptions.print
  have files : (p.linker.optionsKey == filesKey) = false := by cases p.linker <;> decide
  have linker : (p.linker.optionsKey == linkerKey) = false := by cases p.linker <;> decide
  simp [token?, params, projectParams, Token.encodeJson, filled, List.lookup_cons, files, linker]

theorem token?_other {linker : Linker} (other : linker ≠ p.linker) :
    l.token? linker.optionsKey = none := by
  have files : (linker.optionsKey == filesKey) = false := by cases linker <;> decide
  have key : (linker.optionsKey == linkerKey) = false := by cases linker <;> decide
  have own : (linker.optionsKey == p.linker.optionsKey) = false := by
    cases linker <;> cases active : p.linker <;> first | decide | exact absurd active.symm other
  simp [token?, params, projectParams, List.lookup_cons, files, key, own]

end Tokens

end Location

section Opened

open Storage

variable {α β : Type} [Storable α] [Backend β] {l : Location} {key : String} {text : String}

theorem Storage.Cell.seed_of_token {initial value : α}
    (token : l.token? key = some (Token.encode text)) (small : text.utf8ByteSize ≤ Token.maxLength)
    (usable : (Json.read? text).bind (Storable.ofForeign? initial) = some value) (b : β) :
    (Cell.seed key initial l b).1 = value := by
  have carried : Cell.fromLocation? key initial l = some value := by
    obtain ⟨json, read, taken⟩ := Option.bind_eq_some_iff.mp usable
    simp [Cell.fromLocation?, token, Token.decodeJson, Token.decode_encode small, read, taken]
  simp only [Cell.seed, carried]

theorem Storage.Cell.seed_of_no_token (untokened : l.token? key = none) (initial : α) (b : β) :
    Cell.seed key initial l b = Cell.seed key initial .root b := by
  have nowhere : Cell.fromLocation? key initial l = none := by
    simp [Cell.fromLocation?, untokened]
  have nowhere' : Cell.fromLocation? key initial .root = none := by
    have empty : Location.root.token? key = none := rfl
    simp [Cell.fromLocation?, empty]
  simp only [Cell.seed, nowhere, nowhere']

end Opened

theorem Options.usable_sortedJson {ω : Type} [Options.Record ω] [Options.Schema ω]
    (initial options : ω) :
    (Json.read? (Options.sortedJson options).print).bind (Storage.Storable.ofForeign? initial) =
      some options := by
  have read : Json.read? (Options.sortedJson options).print = some (Options.sortedJson options) :=
    (Options.readable_sortedJson options 126).read?_print
  simp [read, Storage.Storable.ofForeign?, Options.reconcile_own]

/-- A project whose files and active options are within the limit of tokens. -/
structure Project.Portable (p : Project) : Prop where
  wellFormed : p.WellFormed
  files : (SourceFile.listJson p.files).print.utf8ByteSize ≤ Token.maxLength
  options : p.activeOptions.print.utf8ByteSize ≤ Token.maxLength

theorem Linker.small_toJson (linker : Linker) :
    linker.toJson.print.utf8ByteSize ≤ Token.maxLength := by
  cases linker <;> decide

section Readers

variable {p : Project} (portable : p.Portable) {l : Location}
  (params : l.params = Location.projectParams p)
include portable params

theorem Session.reproduces_seedProject {β : Type} [Storage.Backend β] (config : Config) (b : β) :
    p.Reproduces (seedProject config b .root) (seedProject config b l) := by
  have files := Storage.Cell.seed_of_token (Location.token?_files params) portable.files
    (Storage.recovers_files portable.wellFormed.files config.files) b
  have linker := Storage.Cell.seed_of_token (Location.token?_linker params) p.linker.small_toJson
    (Storage.recovers_linker config.linker p.linker) b
  have options := Location.token?_options params
  have kept := portable.options
  refine ⟨?_, linker, fun active => ?_, fun active => ?_⟩
  · rw [seedProject, Project.ofParts, files]
    exact Project.nonEmpty_of_ne_nil portable.wellFormed.files.some
  · rw [Project.activeOptions, active] at options kept
    have other : Linker.alternate ≠ p.linker := by simp [active]
    exact ⟨Storage.Cell.seed_of_token options kept (Options.usable_sortedJson _ p.primary) b,
      congrArg Prod.fst
        (Storage.Cell.seed_of_no_token (Location.token?_other params other) _ b)⟩
  · rw [Project.activeOptions, active] at options kept
    have other : Linker.primary ≠ p.linker := by simp [active]
    exact ⟨Storage.Cell.seed_of_token options kept (Options.usable_sortedJson _ p.alternate) b,
      congrArg Prod.fst
        (Storage.Cell.seed_of_no_token (Location.token?_other params other) _ b)⟩

namespace Cli

omit portable params in
theorem carried?_eq {key : String} {value : Json}
    (token : l.token? key = some (Token.encodeJson value))
    (small : value.print.utf8ByteSize ≤ Token.maxLength)
    (readable : Json.Readable Json.Written.maxLevels value) : carried? l key = some value := by
  simp [carried?, token, Token.encodeJson, Token.decodeJson, Token.decode_encode small,
    readable.read?_print, Except.toOption]

theorem carriedProject_eq (q : Project) : carriedProject l q = p.envelope.toJson := by
  have files := carried?_eq (Location.token?_files params) portable.files
    (Envelope.readable_listJson p.files 125)
  have linker := carried?_eq (Location.token?_linker params) p.linker.small_toJson
    (Json.Readable.text _ p.linker.name)
  have options := carried?_eq (Location.token?_options params) portable.options
    (p.readable_activeOptions 126)
  simp only [carriedProject, files, linker, Option.getD_some, Option.bind_some,
    Linker.ofJson?_toJson, options]
  rfl

theorem reproduces_importLink (d : Desk) :
    (importLink l d).2 = .ok () ∧
      p.Reproduces d.session.project (importLink l d).1.session.project := by
  have read : Json.read? p.envelope.toText = some p.envelope.toJson :=
    (Envelope.readable_toJson (p.readable_activeOptions 125)).read?_print
  have salvaged : Snapshot.ofJson (carriedProject l d.session.project) = .ok p.snapshot := by
    have published := Project.ofText_envelope portable.wellFormed.files
    rw [Snapshot.ofText, read] at published
    rw [carriedProject_eq portable params]
    exact published
  obtain ⟨files, linker, primary, alternate, -⟩ :=
    Project.load_snapshot portable.wellFormed.files.some d.session.project
  simp only [importLink, salvaged, Workspace.edit]
  refine ⟨trivial, ?_⟩
  rw [Session.project_mutate]
  exact ⟨files, linker, primary, alternate⟩

end Cli

end Readers

namespace Location

variable {base : Url} (legible : base.Legible) (p : Project)
include legible

theorem exists_toList_text_permalink : ∃ rest last,
    (permalink base p).text.toList = 'h' :: (rest ++ [last]) ∧ Text.isBlank last = false := by
  obtain ⟨web, ⟨a, authority, -⟩, -⟩ := legible_permalink legible p
  obtain ⟨names, path, -⟩ := path_permalink legible p
  obtain ⟨rest, begins⟩ : ∃ rest, (permalink base p).scheme.toList = 'h' :: rest := by
    obtain http | https := web
    · exact ⟨_, by rw [http]; rfl⟩
    · exact ⟨_, by rw [https]; rfl⟩
  have written : Url.Form.write (projectParams p) ≠ "" := by
    intro none
    have read := Url.Form.read_write (projectParams p)
    rw [none] at read
    cases read
  obtain ⟨front, last, query⟩ : ∃ front last,
      (Url.Form.write (projectParams p)).toList = front ++ [last] :=
    ⟨_, _, (List.dropLast_append_getLast (by simpa using written)).symm⟩
  have plain : Text.isBlank last = false := by
    refine @isBlank_of_mem_write (projectParams p) last ?_
    rw [query]
    simp
  have asked := query_permalink base p
  have whole : (permalink base p).fragment = none := rfl
  generalize permalink base p = u at authority path begins asked whole
  obtain ⟨scheme, _, _, _, _⟩ := u
  simp only at authority path begins asked whole
  subst authority path asked whole
  refine ⟨rest ++ ':' :: ('/' :: '/' :: (Url.authorityChars a ++ Url.pathChars names) ++
    '?' :: front), last, ?_, plain⟩
  rw [Url.toList_text, begins]
  simp [Url.markedChars, query]

theorem parse_permalink {a : Url.Authority} (served : base.authority = some a) :
    parse (permalink base p).text =
      (Url.Reader.specialHost a.host.text.toList).map fun _ => ofUrl (permalink base p) := by
  obtain ⟨rest, last, spelled, -⟩ := exists_toList_text_permalink legible p
  have absolute : (permalink base p).text.startsWith "/" = false := by
    refine Bool.eq_false_iff.mpr fun rooted => ?_
    rw [String.startsWith_string_iff, spelled] at rooted
    simp at rooted
  have reread := Url.parse_text (legible_permalink legible p)
    ((authority_permalink base p).trans served)
  rw [parse, absolute]
  simp only [Bool.false_eq_true, if_false, reread]
  cases Url.Reader.specialHost a.host.text.toList <;> rfl

end Location

namespace Cli

theorem resolve_permalink {base : Url} {p : Project} (legible : base.Legible) {a : Url.Authority}
    (served : base.authority = some a) :
    resolve (Location.permalink base p).text =
      match Url.Reader.specialHost a.host.text.toList with
      | .ok _ => pure (.link (Location.ofUrl (Location.permalink base p)))
      | .error e => Job.failWith
          s!"Not a URL, path or share handle: {Text.Quoted.quoted (Location.permalink base p).text}"
          e.message := by
  obtain ⟨rest, last, spelled, plain⟩ := Location.exists_toList_text_permalink legible p
  have trimmed : Text.trim (Location.permalink base p).text = (Location.permalink base p).text := by
    have kept : Text.strip Text.isBlank (Location.permalink base p).text.toList =
        (Location.permalink base p).text.toList := by
      rw [spelled]
      refine Text.strip_of_ends ?_ ?_
      · rintro c found
        obtain rfl : 'h' = c := by simpa using found
        rfl
      · intro c found
        obtain rfl : last = c := by
          rw [← List.cons_append, List.getLast?_concat] at found
          simpa using found
        exact plain
    rw [Text.trim, kept, String.ofList_toList]
  have noHandle : Handle.parse (Location.permalink base p).text =
      .error ⟨(Location.permalink base p).text⟩ := by
    have refused : Handle.accepts (Location.permalink base p).text = false := by
      simp only [Handle.accepts, spelled, List.all_cons]
      have letter : Text.Hex.isDigit 'h' = false := rfl
      simp [letter]
    have none : Handle.ofString? (Location.permalink base p).text = none := by
      rw [Handle.ofString?, dif_neg (by simp [refused])]
    rw [Handle.parse, none]
  have read := Location.parse_permalink legible p served
  have unshared := congrArg Location.handle (Location.ofUrl_permalink legible p)
  have token := Location.token?_files (congrArg Location.params (Location.ofUrl_permalink legible p))
  unfold resolve
  simp only [trimmed, noHandle, read]
  cases Url.Reader.specialHost a.host.text.toList with
  | error e => rfl
  | ok host => simp only [Except.map, unshared, token, Option.isSome_some, Bool.true_or, if_true]

end Cli

namespace Location

/-- A link to a project, on any base of the web. It has no fragment and leads to no share, and its
parameters are the parts of the project. A session that opens at it makes no request and has the
project, whatever storage holds; a session that it is loaded into has the project as well. Both
readers take the text of the link for the link, unless the host is a name with a label that is too
long to be decoded; then both refuse it. -/
theorem permalink_reproduces {s : String} {base : Url} (parsed : Url.parse s = .ok base)
    (web : base.scheme = "http" ∨ base.scheme = "https") {p : Project} (portable : p.Portable) :
    let link := permalink base p
    let l := ofUrl link
    (link.fragment = none ∧ Handle.ofPath? link.path.text = none ∧
      l.params.map Prod.fst = [filesKey, linkerKey, p.linker.optionsKey]) ∧
    (∀ {β τ : Type} [Storage.Backend β] [Exchange.Transport τ] (config : Config) (t : τ) (b : β)
      (n : Navigator), (Session.start config t b n l).2 = t ∧
        p.Reproduces (Session.start config t b n root).1.project
          (Session.start config t b n l).1.project) ∧
    (∀ d : Cli.Desk, (Cli.importLink l d).2 = .ok () ∧
      p.Reproduces d.session.project (Cli.importLink l d).1.session.project) ∧
    ∃ a, base.authority = some a ∧
      (a.host.isReadable = true → parse link.text = .ok l ∧ Cli.resolve link.text = pure (.link l)) ∧
      (a.host.isReadable = false → parse link.text = .error .invalidDomain ∧
        Cli.resolve link.text = Cli.Job.failWith
          s!"Not a URL, path or share handle: {Text.Quoted.quoted link.text}"
          Url.Fault.invalidDomain.message) := by
  intro link l
  have legible := Url.legible_of_parse parsed web
  have page : l = ⟨link.path.text, none, projectParams p⟩ := ofUrl_permalink legible p
  have params : l.params = projectParams p := by rw [page]
  have unshared : l.handle = none := by rw [page]
  refine ⟨⟨rfl, ?path, ?keys⟩, ?opened, fun d => Cli.reproduces_importLink portable params d, ?text⟩
  case path =>
    obtain ⟨names, path, -, -, leads⟩ := path_permalink legible p
    rw [path]
    exact leads
  case keys =>
    rw [params]
    rfl
  case opened =>
    intro β τ _ _ config t b n
    have seeded (l : Location) (unshared : l.handle = none) :
        Session.start config t b n l = (Session.seed config b n l, t) := by
      simp [Session.start, unshared]
    rw [seeded l unshared, seeded root rfl]
    exact ⟨rfl, Session.reproduces_seedProject portable params config b⟩
  case text =>
    obtain ⟨a, served, -⟩ := legible.authority
    have host := Url.specialHost_of_parse parsed web served
    have read := parse_permalink legible p served
    have resolved := Cli.resolve_permalink (p := p) legible served
    rw [host] at read resolved
    refine ⟨a, served, fun readable => ?_, fun unreadable => ?_⟩
    · rw [if_pos readable] at read resolved
      exact ⟨read, resolved⟩
    · rw [if_neg (by rw [unreadable]; exact Bool.false_ne_true)] at read resolved
      exact ⟨read, resolved⟩

theorem sortedJson_alternate (c : AlternateOptions) :
    Options.sortedJson c = .object [("conditions", .bool c.conditions),
      ("mangler", .text c.mangler.name), ("root", .text c.root), ("validate", .bool c.validate)] := by
  have members : Options.members c = [("root", .text c.root), ("mangler", .text c.mangler.name),
      ("conditions", .bool c.conditions), ("validate", .bool c.validate)] := rfl
  have order : "mangler" ≤ "root" ∧ ¬ "mangler" ≤ "conditions" ∧ "conditions" ≤ "validate" ∧
      ¬ "root" ≤ "mangler" ∧ ¬ "root" ≤ "conditions" ∧ "root" ≤ "validate" := by decide
  simp [Options.sortedJson, Json.ofMembers, Keyed.sorted, members, List.mergeSort,
    List.MergeSort.Internal.splitInTwo, order, Keyed.lastOfEach]

theorem portable_escaped : Project.escaped.Portable := by
  have options : Project.escaped.activeOptions = Options.sortedJson Project.escaped.alternate := rfl
  refine ⟨⟨Project.named_escaped, by decide⟩, by decide +kernel, ?_⟩
  rw [options, sortedJson_alternate]
  decide +kernel

/-- A base that leads to a share, with a query and a fragment. -/
theorem permalink_reproduces_on_share :
    let p := Project.escaped
    let base : Url := ⟨"http", some ⟨"", "", .domain "localhost", some 3000⟩,
      .segments ["s", "ab"], some "x=1", some "top"⟩
    Url.parse "http://localhost:3000/s/ab?x=1#top" = .ok base ∧ p.Portable ∧
      parse (permalink base p).text = .ok (ofUrl (permalink base p)) ∧
      p.Reproduces (Session.start .default Exchange.Scripted.empty Storage.Memory.empty
          (.start "/") root).1.project
        (Session.start .default Exchange.Scripted.empty Storage.Memory.empty (.start "/")
          (ofUrl (permalink base p))).1.project := by
  intro p base
  have parsed : Url.parse "http://localhost:3000/s/ab?x=1#top" = .ok base := by
    have h : (Url.parse "http://localhost:3000/s/ab?x=1#top").toOption = some base := by
      decide +kernel
    cases read : Url.parse "http://localhost:3000/s/ab?x=1#top" with
    | ok found => rw [read] at h; simpa [Except.toOption] using h
    | error e => rw [read] at h; simp [Except.toOption] at h
  obtain ⟨-, opened, -, a, served, read, -⟩ :=
    permalink_reproduces parsed (.inl rfl) portable_escaped
  cases served
  exact ⟨parsed, portable_escaped, (read (by decide +kernel)).1,
    (opened .default Exchange.Scripted.empty Storage.Memory.empty (.start "/")).2⟩

/-- Where a foreign label has an ASCII form beyond the limit, no link on it as a host is read. -/
theorem permalink_unread {name : List Char} (label : Url.Domain.Foreign name)
    (long : Url.Domain.maxForm < (Url.Punycode.encode name).length) (p : Project) :
    let base : Url := ⟨"http", some ⟨"", "",
      .domain (String.ofList (Url.Domain.asciiMark ++ Url.Punycode.encode name)), none⟩,
      .segments [""], none, none⟩
    Url.parse ("http://" ++ String.ofList name ++ "/") = .ok base ∧
      parse (permalink base p).text = .error .invalidDomain ∧
      Cli.resolve (permalink base p).text = Cli.Job.failWith
        s!"Not a URL, path or share handle: {Text.Quoted.quoted (permalink base p).text}"
        Url.Fault.invalidDomain.message := by
  intro base
  have parsed : Url.parse ("http://" ++ String.ofList name ++ "/") = .ok base :=
    Url.parse_foreign label
  have unread := Url.specialHost_of_parse parsed (.inl rfl) rfl
  rw [label.isReadable_eq, decide_eq_false (Nat.not_le.mpr long)] at unread
  have legible := Url.legible_of_parse parsed (.inl rfl)
  have page := parse_permalink legible p rfl
  have resolved := Cli.resolve_permalink (p := p) legible rfl
  rw [unread] at page resolved
  exact ⟨parsed, page, resolved⟩

/-- A base whose host is a name of 760 letters. In ASCII it has more than 2000 characters. -/
theorem permalink_unread_on_long_name :
    let p := Project.escaped
    let name := Url.Punycode.scattered 60 700
    let base : Url := ⟨"http", some ⟨"", "",
      .domain (String.ofList (Url.Domain.asciiMark ++ Url.Punycode.encode name)), none⟩,
      .segments [""], none, none⟩
    p.Portable ∧ Url.parse ("http://" ++ String.ofList name ++ "/") = .ok base ∧
      parse (permalink base p).text = .error .invalidDomain ∧
      Cli.resolve (permalink base p).text = Cli.Job.failWith
        s!"Not a URL, path or share handle: {Text.Quoted.quoted (permalink base p).text}"
        Url.Fault.invalidDomain.message := by
  have label : Url.Domain.Foreign (Url.Punycode.scattered 60 700) :=
    Url.Domain.foreign_scattered (by decide) (by decide) (by decide)
  have form : 60 + 1 + 3 * 700 ≤ (Url.Punycode.encode (Url.Punycode.scattered 60 700)).length :=
    Url.Punycode.le_length_encode_scattered (by decide) (by decide)
  have long : Url.Domain.maxForm < (Url.Punycode.encode (Url.Punycode.scattered 60 700)).length :=
    Nat.lt_of_lt_of_le (by decide) form
  exact ⟨portable_escaped, permalink_unread label long Project.escaped⟩

end Location

end Playground
