import Playground.Proofs.Disk

/-!
Directories that are made along a path. Main statements: whatever is made, every file stays as it
is, and where it was made, or was there, the path leads to a directory.
-/

namespace Playground.Disk

def fileAt (n : Node) (names : List String) : Option (Nat × List UInt8) :=
  match find n names with
  | .ok (.file mode bytes) => some (mode, bytes)
  | _ => none

def SameFiles (n n' : Node) : Prop := ∀ names, fileAt n' names = fileAt n names

theorem SameFiles.refl (n : Node) : SameFiles n n := fun _ => rfl

theorem SameFiles.trans {a b c : Node} (first : SameFiles a b) (second : SameFiles b c) :
    SameFiles a c := fun names => (second names).trans (first names)

theorem exists_grafted {f : Option Node → Except Fault Node} {names : List String} {n n' : Node}
    (updated : update f names (some n) = .ok n') :
    ∃ o m, Slot n names o ∧ f o = .ok m ∧ Grafted n names m n' := by
  have exists_slot {names : List String} {n n' : Node} (updated : update f names (some n) = .ok n') :
      ∃ o, Slot n names o := by
    induction names generalizing n n' with
    | nil => exact ⟨some n, .here n⟩
    | cons name rest ih =>
      cases n with
      | file mode bytes => cases updated
      | directory mode entries =>
        simp only [update] at updated
        split at updated
        case isTrue => cases updated
        case isFalse long =>
          have short := Nat.le_of_not_lt long
          cases inner : update f rest (entries.lookup name) with
          | error e =>
            rw [inner] at updated
            cases updated
          | ok child =>
            cases present : entries.lookup name with
            | some k =>
              rw [present] at inner
              obtain ⟨o, slot⟩ := ih inner
              exact ⟨o, .child short present slot⟩
            | none =>
              cases rest with
              | nil => exact ⟨none, .missing short present⟩
              | cons next rest =>
                rw [present] at inner
                cases inner
  obtain ⟨o, slot⟩ := exists_slot updated
  obtain ⟨graft, updates, grafted⟩ := slot.update
  rw [updates] at updated
  cases given : f o with
  | error e =>
    rw [given] at updated
    cases updated
  | ok m =>
    rw [given] at updated
    obtain rfl := Except.ok.inj updated
    exact ⟨o, m, slot, given, grafted m⟩

theorem Grafted.sameFiles {n m n' : Node} {names : List String} {o : Option Node}
    (grafted : Grafted n names m n') (slot : Slot n names o)
    (inside : ∀ rest, fileAt m rest = o.elim none fun k => fileAt k rest) : SameFiles n n' := by
  intro other
  by_cases inner : names <+: other
  · obtain ⟨rest, rfl⟩ := inner
    have there := slot.toOption_find
    have own := inside rest
    unfold fileAt at own ⊢
    rw [grafted.inside, find_append, own]
    cases found : find n names with
    | error e =>
      rw [found] at there
      cases there
      rfl
    | ok k =>
      rw [found] at there
      cases there
      rfl
  · by_cases outer : other <+: names
    · obtain ⟨mode, entries, entries', before, after⟩ := grafted.above other outer
        fun same => inner (same ▸ List.prefix_rfl)
      simp only [fileAt, before, after]
    · simp only [fileAt, grafted.apart other inner outer]

theorem fileAt_empty (mode : Nat) (names : List String) :
    fileAt (.directory mode []) names = none := by
  cases names with
  | nil => rfl
  | cons name rest =>
    simp only [fileAt, find, List.lookup_nil]
    by_cases long : maxName < name.utf8ByteSize
    · rw [if_pos long]
    · rw [if_neg long]

theorem fileAt_withMode_directory (mode mode' : Nat) (entries : List (String × Node))
    (names : List String) :
    fileAt ((Node.directory mode entries).withMode mode') names =
      fileAt (.directory mode entries) names := by
  cases names with
  | nil => rfl
  | cons name rest => simp only [fileAt, find_withMode_cons]

/-- A disk that differs only in directories that were added, or in their modes. -/
structure Widened (d d' : Disk) : Prop where
  onward : Onward d d'
  files : SameFiles d.root d'.root

theorem Widened.refl (d : Disk) : Widened d d := ⟨.refl d, .refl d.root⟩

theorem Widened.trans {a b c : Disk} (first : Widened a b) (second : Widened b c) : Widened a c :=
  ⟨first.onward.trans second.onward, first.files.trans second.files⟩

section Paths

variable {d d' : Disk} {path : String} {place : List String} {n : Node}

theorem of_bind_eq_ok {ε α β : Type} {x : Except ε α} {f : α → Except ε β} {b : β}
    (ok : x >>= f = .ok b) : ∃ a, x = .ok a ∧ f a = .ok b := by
  cases x with
  | error e => cases ok
  | ok a => exact ⟨a, rfl, ok⟩

theorem Onward.directory (onward : Onward d d')
    (there : ∃ mode entries, find d.root place = .ok (.directory mode entries)) :
    ∃ mode entries, find d'.root place = .ok (.directory mode entries) := by
  obtain ⟨mode, entries, found⟩ := there
  obtain ⟨m, found', kind⟩ := onward.grows _ _ found
  cases m with
  | file mode bytes => cases kind
  | directory mode entries => exact ⟨mode, entries, found'⟩

structure Located (d : Disk) (path : String) (place : List String) (n : Node) : Prop where
  fits : check path = .ok ()
  leads : d.walk path (names path) = .ok place
  found : find d.root place = .ok n
  kind : asksDirectory path = true → n.isDirectory = true

theorem locate_eq_ok_iff : d.locate path = .ok (place, n) ↔ Located d path place n := by
  constructor
  · intro located
    obtain ⟨_, fits, located⟩ := of_bind_eq_ok located
    obtain ⟨place', leads, located⟩ := of_bind_eq_ok located
    obtain ⟨n', found, located⟩ := of_bind_eq_ok located
    split at located
    · cases located
    case isFalse kind =>
      cases located
      exact ⟨fits, leads, found, by simpa using kind⟩
  · rintro ⟨fits, leads, found, kind⟩
    have allowed : (asksDirectory path && !n.isDirectory) = false := by
      cases asked : asksDirectory path with
      | false => rfl
      | true => simp [kind asked]
    simp [locate, fits, leads, found, allowed, bind, Except.bind, pure, Except.pure]

theorem Located.folder (located : Located d path place n) (kind : n.isDirectory = true) :
    Folder d path place := by
  refine ⟨located.leads, ?_⟩
  cases n with
  | file mode bytes => cases kind
  | directory mode entries => exact ⟨mode, entries, located.found⟩

theorem Located.onward (located : Located d path place n) (onward : Onward d d') :
    ∃ n', Located d' path place n' ∧ n'.isDirectory = n.isDirectory := by
  obtain ⟨n', found, kind⟩ := onward.grows _ _ located.found
  exact ⟨n', ⟨located.fits, walk_of_onward onward located.leads, found,
    fun asked => kind.trans (located.kind asked)⟩, kind⟩

theorem Located.readText (located : Located d path place n) : d.readText path = contents n := by
  have stat : d.stat path = .ok n := by
    rw [Disk.stat, locate_eq_ok_iff.mpr located]
    rfl
  rw [Disk.readText, readBytes, stat]
  cases n with
  | directory mode entries => rfl
  | file mode bytes =>
    cases decoded : Text.Utf8.decode ⟨bytes.toArray⟩ <;>
      simp only [contents, decoded, bind, Except.bind, pure, Except.pure]

theorem Located.readText_eq_textAt (located : Located d path place n) :
    d.readText path = textAt d.root place := by
  rw [located.readText, textAt, located.found]
  rfl

theorem readText_of_check {e : Fault} (unfit : check path = .error e) : d.readText path = .error e := by
  simp only [Disk.readText, readBytes, Disk.stat, locate, unfit, bind, Except.bind]

theorem check_ne_notFound (some : path ≠ "") : check path ≠ .error .notFound := by
  unfold check
  rw [if_neg some]
  split
  · simp
  · split <;> simp

theorem exists_located_of_readText {text : String} (read : d.readText path = .ok text) :
    ∃ place n, Located d path place n := by
  obtain ⟨bytes, stat, -⟩ := of_bind_eq_ok read
  obtain ⟨n, stat, -⟩ := of_bind_eq_ok stat
  obtain ⟨⟨place, n⟩, located, -⟩ := of_bind_eq_ok stat
  exact ⟨place, n, locate_eq_ok_iff.mp located⟩

theorem Written.not_prefix {slot names : List String} {text : String}
    (written : Written d d' slot text) (found : find d.root names = .ok n)
    (different : names ≠ slot) : ¬ slot <+: names := by
  rintro ⟨rest, rfl⟩
  rw [find_append] at found
  cases own : find d.root slot with
  | error e =>
    rw [own] at found
    cases found
  | ok k =>
    rw [own] at found
    cases rest with
    | nil => exact different (List.append_nil slot)
    | cons name rest =>
      cases k with
      | file mode bytes => cases found
      | directory mode entries =>
        obtain ⟨mode', entries', directory⟩ := written.onward.directory ⟨mode, entries, own⟩
        have text := written.own
        rw [textAt, directory] at text
        cases text

structure Ended (d : Disk) (path : String) (front : List String) (name : String)
    (place : List String) : Prop where
  fits : check path = .ok ()
  names : names path = front ++ [name]
  leads : d.walk path front = .ok place
  directory : ∃ mode entries, find d.root place = .ok (.directory mode entries)
  named : name ≠ "." ∧ name ≠ ".."

theorem exists_ended {name : String} (ending : d.ending path = .ok (place, some name)) :
    ∃ front, Ended d path front name place := by
  obtain ⟨_, fits, ending⟩ := of_bind_eq_ok ending
  obtain ⟨place', leads, ending⟩ := of_bind_eq_ok ending
  obtain ⟨n, found, ending⟩ := of_bind_eq_ok ending
  split at ending
  · cases ending
  case isFalse kind =>
    cases n with
    | file mode bytes => exact absurd rfl kind
    | directory mode entries =>
      obtain ⟨rfl, last⟩ := Prod.ext_iff.mp (Except.ok.inj ending)
      obtain ⟨last, named⟩ := Option.filter_eq_some_iff.mp last
      obtain ⟨front, whole⟩ := List.getLast?_eq_some_iff.mp last
      rw [whole, List.dropLast_concat] at leads
      exact ⟨front, fits, whole, leads, ⟨mode, entries, found⟩, by simpa using named⟩

end Paths

section Making

variable {d d' : Disk} {path : String}

theorem widened_of_makeDirectory (made : d.makeDirectory path = .ok d') :
    Widened d d' ∧ ∃ place, Folder d' path place := by
  obtain ⟨⟨place, last⟩, ending, made⟩ := of_bind_eq_ok made
  cases last with
  | none => cases made
  | some name =>
    obtain ⟨front, ended⟩ := exists_ended ending
    obtain ⟨root, updated, made⟩ := of_bind_eq_ok made
    cases made
    obtain ⟨o, m, slot, given, grafted⟩ := exists_grafted updated
    cases o with
    | some k => cases given
    | none =>
      cases given
      have absent := slot.toOption_find
      have onward : Onward d { d with root } := by
        refine ⟨rfl, grafted.grows fun k present => ?_⟩
        rw [present] at absent
        cases absent
      refine ⟨⟨onward, grafted.sameFiles slot fun rest => fileAt_empty 0o755 rest⟩,
        place ++ [name], ?_, 0o755, [], grafted.own⟩
      have stepped : step root place.reverse name = .ok (name :: place.reverse) := by
        refine step_eq_ok_iff.mpr ⟨?_, ?_⟩
        · rw [List.reverse_reverse]
          exact onward.directory ended.directory
        · rw [if_neg ended.named.1, if_neg ended.named.2, List.reverse_reverse]
          exact ⟨rfl, _, grafted.own⟩
      rw [ended.names, walk_concat rfl, walk_of_onward onward ended.leads, Except.bind, stepped]
      simp [Except.map]

theorem widened_of_ensureDirectory (ensured : d.ensureDirectory path = .ok d') :
    Widened d d' ∧ ∃ place, Folder d' path place := by
  unfold ensureDirectory at ensured
  split at ensured
  case h_1 =>
    split at ensured
    case isFalse => cases ensured
    case isTrue there =>
      cases ensured
      unfold hasDirectory at there
      split at there
      case h_2 => cases there
      case h_1 n stat =>
        obtain ⟨⟨place, n'⟩, located, same⟩ := of_bind_eq_ok stat
        cases same
        exact ⟨.refl d, place, (locate_eq_ok_iff.mp located).folder there⟩
  case h_2 => exact widened_of_makeDirectory ensured

theorem widened_of_foldlM {paths : List String} (ensured : paths.foldlM ensureDirectory d = .ok d') :
    Widened d d' ∧ ∀ last ∈ paths.getLast?, ∃ place, Folder d' last place := by
  induction paths generalizing d with
  | nil =>
    cases ensured
    exact ⟨.refl _, by simp⟩
  | cons path paths ih =>
    obtain ⟨middle, first, rest⟩ := of_bind_eq_ok ensured
    obtain ⟨widened, folder⟩ := widened_of_ensureDirectory first
    obtain ⟨widened', last⟩ := ih rest
    refine ⟨widened.trans widened', ?_⟩
    cases paths with
    | nil =>
      cases rest
      simpa using folder
    | cons next paths => simpa using last

theorem widened_of_climb {missing left paths : List String}
    (climbed : d.climb missing paths = .ok (d', left)) :
    Widened d d' ∧ ∃ more, left = more ++ missing := by
  induction paths generalizing missing with
  | nil =>
    cases climbed
    exact ⟨.refl _, [], rfl⟩
  | cons path paths ih =>
    unfold climb at climbed
    split at climbed
    case h_1 e ensured =>
      cases climbed
      exact ⟨(widened_of_ensureDirectory ensured).1, [], rfl⟩
    case h_2 =>
      obtain ⟨widened, more, rfl⟩ := ih climbed
      exact ⟨widened, more ++ [path], by simp⟩
    case h_3 => cases climbed

theorem widened_of_makeDirectories (made : d.makeDirectories path = .ok d') :
    Widened d d' ∧ (parts path ≠ [] → ∃ place, Folder d' path place) := by
  unfold makeDirectories at made
  split at made
  case isTrue none =>
    cases made
    exact ⟨.refl d, fun some => absurd (List.isEmpty_iff.mp none) some⟩
  case isFalse =>
    obtain ⟨⟨middle, left⟩, climbed, made⟩ := of_bind_eq_ok made
    obtain ⟨widened', last⟩ := widened_of_foldlM made
    unfold climb at climbed
    split at climbed
    case h_1 ensured =>
      cases climbed
      cases made
      obtain ⟨widened, folder⟩ := widened_of_ensureDirectory ensured
      exact ⟨widened, fun _ => folder⟩
    case h_2 =>
      obtain ⟨widened, more, rfl⟩ := widened_of_climb climbed
      exact ⟨widened.trans widened', fun _ => last path (by simp)⟩
    case h_3 => cases climbed

theorem widened_of_setMode {place : List String} {mode : Nat} (set : d.setMode path mode = .ok d')
    (folder : Folder d path place) : Widened d d' ∧ Alike d d' := by
  obtain ⟨⟨place', n⟩, located, set⟩ := of_bind_eq_ok set
  obtain ⟨fits, leads, found, -⟩ := locate_eq_ok_iff.mp located
  obtain rfl : place' = place := Except.ok.inj (leads.symm.trans folder.leads)
  obtain ⟨own, entries, directory⟩ := folder.directory
  obtain rfl := Except.ok.inj (found.symm.trans directory)
  obtain ⟨root, updated, same⟩ := of_bind_eq_ok set
  obtain ⟨o, m, slot, given, grafted⟩ := exists_grafted updated
  have there := slot.toOption_find
  rw [found] at there
  cases there
  cases given
  obtain ⟨d'', set', alike⟩ := setMode_of_locate located found mode
  have again : d.setMode path mode = .ok d' := by
    rw [setMode, located]
    exact set
  obtain rfl := Except.ok.inj (set'.symm.trans again)
  cases same
  exact ⟨⟨alike.onward, grafted.sameFiles slot (fileAt_withMode_directory own mode entries)⟩, alike⟩

end Making

section Parts

variable {d : Disk} {path : String} {place : List String} {n : Node}

theorem eq_slash_of_splitOn {cs : List Char} (empty : ∀ s ∈ cs.splitOn '/', s = []) :
    ∀ c ∈ cs, c = '/' := by
  induction cs with
  | nil => simp
  | cons first cs ih =>
    rw [List.splitOn_eq_splitOnP, List.splitOnP_cons_eq_if_modifyHead] at empty
    by_cases slash : first = '/'
    · rw [if_pos (by simp [slash]), ← List.splitOn_eq_splitOnP] at empty
      simp only [List.mem_cons, forall_eq_or_imp] at empty ⊢
      exact ⟨slash, ih empty.2⟩
    · rw [if_neg (by simp [slash])] at empty
      obtain ⟨head, rest, split⟩ := List.exists_cons_of_ne_nil (List.splitOnP_ne_nil (· == '/') cs)
      rw [split, List.modifyHead_cons] at empty
      cases empty (first :: head) List.mem_cons_self

theorem asksDirectory_of_names (fits : check path = .ok ()) (none : names path = []) :
    asksDirectory path = true := by
  have slashes : ∀ c ∈ path.toList, c = '/' := by
    refine eq_slash_of_splitOn fun s member => ?_
    have empty := List.filter_eq_nil_iff.mp none (String.ofList s) (List.mem_map_of_mem member)
    simpa using empty
  have some : path.toList ≠ [] := by
    intro nil
    rw [String.toList_eq_nil_iff.mp nil] at fits
    cases fits
  have last := slashes _ (List.getLast_mem some)
  rw [asksDirectory, List.getLast?_eq_some_getLast some, last]
  rfl

theorem eq_of_dots {root : Node} {names done next : List String} (dots : ∀ s ∈ names, s = ".")
    (walked : names.foldlM (step root) done = .ok next) : next = done := by
  induction names with
  | nil => exact (Except.ok.inj walked).symm
  | cons name names ih =>
    obtain ⟨middle, first, rest⟩ := of_bind_eq_ok walked
    obtain ⟨-, goes⟩ := step_eq_ok_iff.mp first
    rw [if_pos (dots name List.mem_cons_self)] at goes
    subst goes
    exact ih (fun s member => dots s (List.mem_cons_of_mem name member)) rest

theorem Located.isDirectory (located : Located d path place n) (none : parts path = []) :
    n.isDirectory = true := by
  unfold parts at none
  split at none
  case h_1 nameless => exact located.kind (asksDirectory_of_names located.fits nameless)
  case h_2 first rest whole =>
    split at none
    case isFalse => cases none
    case isTrue lead =>
      -- the path stays at the root, which is a directory
      obtain ⟨rfl, absolute⟩ := lead
      have dots : ∀ s ∈ "." :: rest, s = "." := by
        have others := List.filter_eq_nil_iff.mp none
        simpa using others
      have leads := located.leads
      unfold walk at leads
      rw [whole, if_pos absolute] at leads
      obtain ⟨next, walked, same⟩ := of_bind_eq_ok leads
      obtain rfl := eq_of_dots dots walked
      obtain ⟨_, first, -⟩ := of_bind_eq_ok walked
      obtain ⟨⟨mode, entries, root⟩, -⟩ := step_eq_ok_iff.mp first
      have found := located.found
      rw [← Except.ok.inj same, root] at found
      cases found
      rfl

end Parts

theorem Located.folder_of_made {d d' : Disk} {path : String} {place : List String} {n : Node}
    (made : d.makeDirectories path = .ok d') (located : Located d' path place n) :
    Folder d' path place := by
  by_cases none : parts path = []
  · exact located.folder (located.isDirectory none)
  · obtain ⟨place', folder⟩ := (widened_of_makeDirectories made).2 none
    obtain rfl : place' = place := Except.ok.inj (folder.leads.symm.trans located.leads)
    exact folder

end Playground.Disk
