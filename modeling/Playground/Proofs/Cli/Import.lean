import Playground.Cli.Run
import Playground.Proofs.Project.Load
import Playground.Proofs.Project.WellFormed
import Playground.Proofs.Salvage.Survivors
import Playground.Proofs.Session.Frame
import Playground.Proofs.Storage.Seeding

/-!
Importing a link. What a link says is salvaged as a snapshot in which the parts that it does not say
are those of the project. Main statement: when an import is refused, what each part of the project is
when it is not, and which parameters of a link make no difference.
-/

namespace Playground

namespace Location

/-- Under a key a link has a token that is read as a value. -/
def Says (l : Location) (key : String) (value : Json) : Prop :=
  ∃ token, l.token? key = some token ∧ Token.decodeJson token = .ok value

/-- The linker that a link names, or the one that is there if it names none. -/
inductive Asks (l : Location) (own : Linker) : Linker → Prop where
  | named {linker : Linker} : l.Says linkerKey (.text linker.name) → Asks l own linker
  | unnamed : (∀ linker : Linker, ¬ l.Says linkerKey (.text linker.name)) → Asks l own own

section Says

variable {l : Location} {key : String} {value : Json}

theorem says_iff : l.Says key value ↔ l.json? key = some value := by
  unfold Says json?
  rw [Option.bind_eq_some_iff]
  refine exists_congr fun token => and_congr_right fun _ => ?_
  cases Token.decodeJson token <;> simp [Except.toOption]

theorem forall_not_says_iff : (∀ value, ¬ l.Says key value) ↔ l.json? key = none := by
  simp only [says_iff, Option.eq_none_iff_forall_ne_some, ne_eq]

theorem says_of_token (token : l.token? key = some (Token.encodeJson value))
    (small : value.print.utf8ByteSize ≤ Token.maxLength)
    (read : Json.read? value.print = some value) : l.Says key value := by
  refine ⟨_, token, ?_⟩
  simp only [Token.decodeJson, Token.encodeJson, Token.decode_encode small, read]

theorem json?_without_of_ne {other : String} (different : other ≠ key) :
    (l.without key).json? other = l.json? other := by
  have kept (params : List (String × String)) :
      (params.filter fun m => m.1 ≠ key).lookup other = params.lookup other := by
    induction params with
    | nil => rfl
    | cons m params ih =>
      by_cases gone : m.1 = key
      · rw [List.filter_cons_of_neg (by simpa using gone), ih, List.lookup_cons,
          beq_false_of_ne (gone ▸ different)]
      · rw [List.filter_cons_of_pos (by simpa using gone), List.lookup_cons, List.lookup_cons, ih]
  simp only [json?, token?, without, kept]

theorem json?_without_of_silent (silent : l.json? key = none) (other : String) :
    (l.without key).json? other = l.json? other := by
  by_cases same : other = key
  · rw [same, json?_without, silent]
  · exact json?_without_of_ne same

end Says

theorem text_of_ofJson? {value : Json} {linker : Linker}
    (named : Linker.ofJson? value = some linker) : value = .text linker.name := by
  cases value with
  | text name => rw [Linker.ofName?_eq_some_iff.mp named]
  | _ => cases named

theorem asks_iff {l : Location} {own linker : Linker} : l.Asks own linker ↔
    linker = ((l.json? linkerKey).bind Linker.ofJson?).getD own := by
  have names (linker : Linker) : l.Says linkerKey (.text linker.name) ↔
      (l.json? linkerKey).bind Linker.ofJson? = some linker := by
    rw [says_iff, Option.bind_eq_some_iff]
    constructor
    · intro said
      exact ⟨_, said, Linker.ofJson?_toJson linker⟩
    · rintro ⟨value, said, named⟩
      rw [said, text_of_ofJson? named]
  constructor
  · rintro (said | silent)
    · rw [(names linker).mp said, Option.getD_some]
    · have none : (l.json? linkerKey).bind Linker.ofJson? = none :=
        Option.eq_none_iff_forall_ne_some.mpr fun linker found =>
          silent linker ((names linker).mpr found)
      rw [none, Option.getD_none]
  · rintro rfl
    cases found : (l.json? linkerKey).bind Linker.ofJson? with
    | some linker => exact .named ((names linker).mpr found)
    | none =>
      refine .unnamed fun linker said => ?_
      rw [(names linker).mp said] at found
      cases found

end Location

def SourceFile.HasFile (value : Json) : Prop :=
  ∃ entries, value = .array entries ∧ ∃ entry ∈ entries, ∃ f, WellShaped entry f

theorem SourceFile.hasFile_iff {value : Json} :
    HasFile value ↔ (Salvage.ofJson value).files ≠ [] := by
  unfold HasFile
  cases value with
  | array entries =>
    rw [ne_eq, Salvage.files_array_eq_nil_iff]
    simp [Option.eq_none_iff_forall_ne_some, ofJson?_eq_some_iff]
  | _ => simp [Salvage.ofJson]

namespace Snapshot

/-- A snapshot of some files, for a linker and with options. -/
def parts (files : Json) (linker : Linker) (options : Json) : Json :=
  .object [("files", files), ("linker", linker.toJson), ("options", options)]

variable {files options : Json} {linker : Linker}

theorem ofJson_parts_of_hasFile (usable : SourceFile.HasFile files) :
    ofJson (parts files linker options) = .ok {
      files := (Salvage.ofJson files).files
      linker := some linker
      options := (some options).filter Json.isObject
      dropped := (Salvage.ofJson files).dropped } := by
  have some := SourceFile.hasFile_iff.mp usable
  obtain ⟨entries, rfl, -⟩ := usable
  have entry : (parts (.array entries) linker options).get? "files" = .some (.array entries) := rfl
  have named : ((parts (.array entries) linker options).get? "linker").bind Linker.ofJson? =
      .some linker := Linker.ofJson?_toJson linker
  have object : (parts (.array entries) linker options).isObject = true := rfl
  simp only [ofJson, object, entry, named, List.isEmpty_iff, some]
  rfl

theorem ofJson_parts_of_not_hasFile (unusable : ¬ SourceFile.HasFile files) (linker : Linker)
    (options : Json) :
    ∃ e, ofJson (parts files linker options) = .error e := by
  rw [SourceFile.hasFile_iff, not_not] at unusable
  have object : (parts files linker options).isObject = true := rfl
  have entry : (parts files linker options).get? "files" = some files := rfl
  simp only [ofJson, object, entry]
  cases files with
  | array entries =>
    refine ⟨.nothingUsable (Salvage.ofJson (.array entries)).dropped, ?_⟩
    simp [unusable]
  | _ => exact ⟨_, rfl⟩

end Snapshot

namespace Cli

open Location

section Carried

variable (l : Location) (q : Project)

def askedLinker : Linker := ((l.json? linkerKey).bind Linker.ofJson?).getD q.linker

def importedFiles : Json := (l.json? filesKey).getD (SourceFile.listJson q.files)

def importedOptions : Json :=
  (l.json? (askedLinker l q).optionsKey).getD (q.optionsJson (askedLinker l q))

theorem carriedProject_eq_parts : carriedProject l q =
    Snapshot.parts (importedFiles l q) (askedLinker l q) (importedOptions l q) := rfl

variable {l q}

theorem files_ofJson_listJson (named : SourceFile.Named q.files) :
    (Salvage.ofJson (SourceFile.listJson q.files)).files = q.files :=
  congrArg Salvage.files
    (Salvage.ofEntries_map_toJson named.named named.distinct fun _ _ => List.not_mem_nil)

theorem not_hasFile_importedFiles_iff (named : SourceFile.Named q.files) :
    ¬ SourceFile.HasFile (importedFiles l q) ↔
      ∃ value, l.Says filesKey value ∧ ¬ SourceFile.HasFile value := by
  unfold importedFiles
  simp only [says_iff]
  cases l.json? filesKey with
  | some value => simp
  | none =>
    have usable : SourceFile.HasFile (SourceFile.listJson q.files) := by
      rw [SourceFile.hasFile_iff, files_ofJson_listJson named]
      exact named.some
    simp [usable]

end Carried

/-- What a record becomes when a link is imported for its linker: it is reconciled with the object
that the link has for it, and stays as it is if the link has none. -/
structure Received {ω : Type} [Options.Record ω] (l : Location) (own result : ω) : Prop where
  said : ∀ value, l.Says (Options.Record.linker ω).optionsKey value → value.isObject = true →
    result = Options.reconcile own value
  kept : (∀ value, l.Says (Options.Record.linker ω).optionsKey value → value.isObject = false) →
    result = own

/-- What a project `q` becomes when a link is imported for a linker. -/
structure Imported (l : Location) (asked : Linker) (q p : Project) : Prop where
  filesSaid : ∀ value, l.Says filesKey value → p.files = (Salvage.ofJson value).files
  filesKept : (∀ value, ¬ l.Says filesKey value) → p.files = q.files
  linker : p.linker = asked
  primary : asked = .primary → Received l q.primary p.primary ∧ p.alternate = q.alternate
  alternate : asked = .alternate → Received l q.alternate p.alternate ∧ p.primary = q.primary

theorem received {ω : Type} [Options.Record ω] {l : Location} {own : ω} {kept : Json}
    (same : Options.reconcile own kept = own) :
    Received l own (((some ((l.json? (Options.Record.linker ω).optionsKey).getD kept)).filter
      Json.isObject).elim own (Options.reconcile own)) := by
  constructor
  case said =>
    intro value said object
    rw [says_iff.mp said, Option.getD_some, Option.filter_some, if_pos object]
    rfl
  case kept =>
    intro objectless
    cases found : l.json? (Options.Record.linker ω).optionsKey with
    | some value =>
      have kind := objectless value (says_iff.mpr found)
      rw [Option.getD_some, Option.filter_some, if_neg (by simp [kind])]
      rfl
    | none =>
      rw [Option.getD_none, Option.filter_some]
      split
      · exact same
      · rfl

section Import

variable {l : Location} {d : Desk}

theorem importLink_of_hasFile (usable : SourceFile.HasFile (importedFiles l d.session.project)) :
    (importLink l d).2 = .ok () ∧
      ∃ s : Snapshot, (importLink l d).1.session.project =
          (d.session.project.load s).takeCommit.2 ∧
        s.files = (Salvage.ofJson (importedFiles l d.session.project)).files ∧
        s.linker = some (askedLinker l d.session.project) ∧
        s.options = (some (importedOptions l d.session.project)).filter Json.isObject := by
  simp only [importLink, carriedProject_eq_parts, Snapshot.ofJson_parts_of_hasFile usable,
    Workspace.edit, Session.project_mutate, true_and]
  exact ⟨_, rfl, rfl, rfl, rfl⟩

theorem importLink_of_not_hasFile
    (unusable : ¬ SourceFile.HasFile (importedFiles l d.session.project)) :
    (importLink l d).1 = d ∧ ∃ e, (importLink l d).2 = .error e := by
  obtain ⟨e, refused⟩ := Snapshot.ofJson_parts_of_not_hasFile unusable
    (askedLinker l d.session.project) (importedOptions l d.session.project)
  rw [importLink, carriedProject_eq_parts, refused]
  exact ⟨rfl, _, rfl⟩

theorem imported (wellFormed : d.session.project.WellFormed)
    (usable : SourceFile.HasFile (importedFiles l d.session.project)) :
    Imported l (askedLinker l d.session.project) d.session.project
      (importLink l d).1.session.project := by
  obtain ⟨-, s, loaded, files, linker, options⟩ := importLink_of_hasFile usable
  have some : s.files ≠ [] := files ▸ SourceFile.hasFile_iff.mp usable
  have resolved : s.linker.getD d.session.project.linker = askedLinker l d.session.project := by
    rw [linker, Option.getD_some]
  rw [loaded]
  constructor
  case filesSaid =>
    intro value said
    show (d.session.project.load s).files = _
    rw [Project.files_load some, files, importedFiles, says_iff.mp said, Option.getD_some]
  case filesKept =>
    intro silent
    show (d.session.project.load s).files = _
    rw [Project.files_load some, files, importedFiles, forall_not_says_iff.mp silent,
      Option.getD_none, files_ofJson_listJson wellFormed.files]
  case linker => exact resolved
  case primary =>
    intro asked
    have merged : ((d.session.project.load s).primary, (d.session.project.load s).alternate) =
        d.session.project.mergeOptions .primary s.options := by
      rw [← asked, ← resolved]
      rfl
    rw [Project.mergeOptions_primary, options, importedOptions, asked] at merged
    obtain ⟨own, other⟩ := Prod.ext_iff.mp merged
    refine ⟨?_, other⟩
    show Received l _ (d.session.project.load s).primary
    rw [show (d.session.project.load s).primary = _ from own]
    exact received (Options.reconcile_own _ _)
  case alternate =>
    intro asked
    have merged : ((d.session.project.load s).primary, (d.session.project.load s).alternate) =
        d.session.project.mergeOptions .alternate s.options := by
      rw [← asked, ← resolved]
      rfl
    rw [Project.mergeOptions_alternate, options, importedOptions, asked] at merged
    obtain ⟨other, own⟩ := Prod.ext_iff.mp merged
    refine ⟨?_, other⟩
    show Received l _ (d.session.project.load s).alternate
    rw [show (d.session.project.load s).alternate = _ from own]
    exact received (Options.reconcile_own _ _)

theorem importLink_congr {other : Location} (files : other.json? filesKey = l.json? filesKey)
    (linker : other.json? linkerKey = l.json? linkerKey)
    (options : other.json? (askedLinker l d.session.project).optionsKey =
      l.json? (askedLinker l d.session.project).optionsKey) :
    importLink other d = importLink l d := by
  have asked : askedLinker other d.session.project = askedLinker l d.session.project := by
    rw [askedLinker, linker, askedLinker]
  have same : carriedProject other d.session.project = carriedProject l d.session.project := by
    simp only [carriedProject_eq_parts, importedFiles, importedOptions, asked, files, options]
  rw [importLink, same, importLink]

theorem optionsKey_ne {linker other : Linker} (different : other ≠ linker) :
    linker.optionsKey ≠ other.optionsKey := by
  cases linker <;> cases other <;> first | exact absurd rfl different | decide

/-- A link is imported into a project that is well-formed. It is refused exactly if it has files that
can be read but no entry of which can be used, and then nothing is changed. Otherwise the files are
what salvage keeps of those that it has, the linker is the one that it asks for, the record of that
linker takes over what it has for it, and everything that it does not say stays as it is. What cannot
be read in a link, and what it has for the options of the other linker, makes no difference. -/
theorem importLink_exact (l : Location) (d : Desk) (wellFormed : d.session.project.WellFormed) :
    ((∃ e, (importLink l d).2 = .error e) ↔
      ∃ value, l.Says filesKey value ∧ ¬ SourceFile.HasFile value) ∧
    (∀ e, (importLink l d).2 = .error e → (importLink l d).1 = d) ∧
    ∃ linker, l.Asks d.session.project.linker linker ∧
      ((importLink l d).2 = .ok () →
        Imported l linker d.session.project (importLink l d).1.session.project) ∧
      ∀ key, ((∀ value, ¬ l.Says key value) ∨ ∃ other ≠ linker, key = other.optionsKey) →
        importLink (l.without key) d = importLink l d := by
  rw [← not_hasFile_importedFiles_iff wellFormed.files]
  refine ⟨⟨?refused, ?unusable⟩, ?unchanged, askedLinker l d.session.project, asks_iff.mpr rfl,
    ?imported, ?without⟩
  case refused =>
    rintro ⟨e, refused⟩ usable
    rw [(importLink_of_hasFile usable).1] at refused
    cases refused
  case unusable => exact fun unusable => (importLink_of_not_hasFile unusable).2
  case unchanged =>
    intro e refused
    by_cases usable : SourceFile.HasFile (importedFiles l d.session.project)
    · rw [(importLink_of_hasFile usable).1] at refused
      cases refused
    · exact (importLink_of_not_hasFile usable).1
  case imported =>
    intro succeeded
    by_cases usable : SourceFile.HasFile (importedFiles l d.session.project)
    · exact imported wellFormed usable
    · obtain ⟨-, e, refused⟩ := importLink_of_not_hasFile usable
      rw [refused] at succeeded
      cases succeeded
  case without =>
    rintro key (silent | ⟨other, different, rfl⟩)
    · have same := json?_without_of_silent (forall_not_says_iff.mp silent)
      exact importLink_congr (same _) (same _) (same _)
    · refine importLink_congr (json?_without_of_ne ?_) (json?_without_of_ne ?_)
        (json?_without_of_ne (optionsKey_ne different))
      · cases other <;> decide
      · cases other <;> decide

end Import

section HalfLegible

def manglerless : Json := .object [("mangler", .text AlternateMangler.none.name)]

/-- A link whose files cannot be read, for the linker `alternate` and with one of its options. -/
def halfLegible : Location := ⟨Location.root.path, none, [
  (filesKey, "%%%"),
  (linkerKey, Token.encodeJson (.text Linker.alternate.name)),
  (Linker.alternate.optionsKey, Token.encodeJson manglerless)]⟩

def freshDesk : Desk where
  session := ⟨.fresh, .fresh, ⟨.empty, Workspace.storeName⟩, .inactive, .start Location.root.path,
    Config.default.output, false, 0⟩
  service := .scripted .empty

/-- All but the files is imported, and without them the link is the same. -/
theorem importLink_exact_halfLegible :
    let imported := importLink halfLegible freshDesk
    freshDesk.session.project.WellFormed ∧ imported.2 = .ok () ∧
      imported.1.session.project.files = Project.defaultFiles ∧
      imported.1.session.project.linker = .alternate ∧
      imported.1.session.project.primary = Options.Record.default ∧
      imported.1.session.project.alternate = ⟨"main.wgsl", .none, true, true⟩ ∧
      importLink (halfLegible.without filesKey) freshDesk = imported := by
  intro result
  have wellFormed : freshDesk.session.project.WellFormed :=
    .ofParts ⟨by decide, by decide⟩ .primary Options.Record.default Options.Record.default
  have unread : ∀ value, ¬ halfLegible.Says filesKey value := by
    rw [forall_not_says_iff]
    decide +kernel
  have linkerSaid : halfLegible.Says linkerKey (.text Linker.alternate.name) :=
    says_of_token (by simp [token?, halfLegible, List.lookup_cons, linkerKey, filesKey,
      Token.encodeJson, Token.encode_ne_empty]) (by decide +kernel) (by decide +kernel)
  have optionsSaid : halfLegible.Says Linker.alternate.optionsKey manglerless :=
    says_of_token (by simp [token?, halfLegible, List.lookup_cons, linkerKey, filesKey,
      Linker.optionsKey, Token.encodeJson, Token.encode_ne_empty])
      (by decide +kernel) (by decide +kernel)
  obtain ⟨refused, -, linker, asks, imported, without⟩ :=
    importLink_exact halfLegible freshDesk wellFormed
  have alternate : linker = .alternate := by
    rw [asks_iff.mp asks, says_iff.mp linkerSaid]
    rfl
  have accepted : result.2 = .ok () := by
    cases outcome : result.2 with
    | ok => rfl
    | error e =>
      obtain ⟨value, said, -⟩ := refused.mp ⟨e, outcome⟩
      exact absurd said (unread value)
  obtain ⟨-, files, asked, -, options⟩ := imported accepted
  obtain ⟨⟨said, -⟩, primary⟩ := options alternate
  exact ⟨wellFormed, accepted, files unread, asked.trans alternate, primary,
    said _ optionsSaid rfl, without _ (.inl unread)⟩

end HalfLegible

end Cli

end Playground
