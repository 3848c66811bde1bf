import Playground.Proofs.Project.WellFormed

/-!
The selected file. A removal moves the selection only if it takes the selected file itself away, and
then to the next file. Main statement: what a removal leaves, and that the file that was selected at
first stays selected while files are renamed, rewritten and removed around it.
-/

namespace Playground.Project

section Removal

def positionAfter (index current : Nat) : Nat := if index < current then current - 1 else current

variable {α : Type} {items : List α} {index current : Nat}

theorem getElem?_positionAfter (other : index ≠ current) :
    (items.eraseIdx index)[positionAfter index current]? = items[current]? := by
  unfold positionAfter
  rw [List.getElem?_eraseIdx]
  split
  case isTrue before =>
    rw [if_neg (by omega)]
    congr 1
    omega
  case isFalse after => rw [if_pos (by omega)]

theorem positionAfter_lt (inside : index < items.length) (bound : current < items.length)
    (other : index ≠ current) : positionAfter index current < (items.eraseIdx index).length := by
  rw [List.length_eraseIdx_of_lt inside]
  unfold positionAfter
  split <;> omega

variable {p q : Project} {f : SourceFile}

theorem files_of_removeFile (removed : p.removeFile index = .ok (f, q)) :
    p.files[index]? = some f ∧ q.files = nonEmpty (p.files.eraseIdx index) ∧
      q.current = min (positionAfter index p.current) (q.files.length - 1) := by
  unfold removeFile at removed
  split at removed
  case h_1 => cases removed
  case h_2 present =>
    cases removed
    exact ⟨present, rfl, rfl⟩

theorem others_of_removeFile (removed : p.removeFile index = .ok (f, q))
    (several : p.files.length ≠ 1) : q.files = p.files.eraseIdx index := by
  obtain ⟨present, files, -⟩ := files_of_removeFile removed
  obtain ⟨inside, -⟩ := List.getElem?_eq_some_iff.mp present
  rw [files]
  apply nonEmpty_of_ne_nil
  apply List.ne_nil_of_length_pos
  rw [List.length_eraseIdx_of_lt inside]
  omega

theorem fallback_of_removeFile (removed : p.removeFile index = .ok (f, q))
    (alone : p.files.length = 1) : q.files = [⟨fallbackName, ""⟩] := by
  obtain ⟨present, files, -⟩ := files_of_removeFile removed
  obtain ⟨inside, -⟩ := List.getElem?_eq_some_iff.mp present
  have nothing : p.files.eraseIdx index = [] := by
    apply List.eq_nil_of_length_eq_zero
    rw [List.length_eraseIdx_of_lt inside]
    omega
  rw [files, nothing]
  rfl

theorem current_of_removeFile (h : WellFormed p) (removed : p.removeFile index = .ok (f, q))
    (other : index ≠ p.current) :
    q.files = p.files.eraseIdx index ∧ q.current = positionAfter index p.current := by
  obtain ⟨present, -, current⟩ := files_of_removeFile removed
  obtain ⟨inside, -⟩ := List.getElem?_eq_some_iff.mp present
  have selected := h.current
  have files := others_of_removeFile removed (by omega)
  have bound := positionAfter_lt inside selected other
  rw [files] at current
  exact ⟨files, by omega⟩

structure Removal (p : Project) (index : Nat) (f : SourceFile) (q : Project) : Prop where
  answer : p.files[index]? = some f
  others : p.files.length ≠ 1 → q.files = p.files.take index ++ p.files.drop (index + 1)
  only : p.files.length = 1 → q.files = [⟨fallbackName, ""⟩]
  stays : index ≠ p.current → q.currentFile? = p.currentFile?
  next : index = p.current → index + 1 < p.files.length → q.currentFile? = p.files[index + 1]?
  last : index = p.current → index + 1 = p.files.length → q.currentFile? = q.files.getLast?
  wellFormed : WellFormed q

theorem WellFormed.removal (h : WellFormed p) (removed : p.removeFile index = .ok (f, q)) :
    Removal p index f q := by
  obtain ⟨present, -, current⟩ := files_of_removeFile removed
  obtain ⟨inside, -⟩ := List.getElem?_eq_some_iff.mp present
  constructor
  case answer => exact present
  case others =>
    intro several
    rw [others_of_removeFile removed several, List.eraseIdx_eq_take_drop_succ]
  case only => exact fallback_of_removeFile removed
  case stays =>
    intro other
    obtain ⟨files, current⟩ := current_of_removeFile h removed other
    rw [currentFile?, files, current, getElem?_positionAfter other, currentFile?]
  case next =>
    rintro rfl more
    -- The file that followed has the place of the one that was removed.
    have files := others_of_removeFile removed (by omega)
    have length := List.length_eraseIdx_of_lt inside
    have place : q.current = p.current := by
      rw [current, files, length, positionAfter, if_neg (by omega)]
      omega
    rw [currentFile?, place, files, List.getElem?_eraseIdx, if_neg (by omega)]
  case last =>
    rintro rfl ends
    have length : q.files.length - 1 ≤ p.current := by
      by_cases alone : p.files.length = 1
      · rw [fallback_of_removeFile removed alone]
        exact Nat.zero_le _
      · rw [others_of_removeFile removed alone, List.length_eraseIdx_of_lt inside]
        omega
    have place : q.current = q.files.length - 1 := by
      rw [current, positionAfter, if_neg (by omega)]
      omega
    rw [currentFile?, place, List.getLast?_eq_getElem?]
  case wellFormed => exact h.of_removeFile removed

theorem exists_removeFile (inside : index < p.files.length) :
    ∃ f q, p.removeFile index = .ok (f, q) := by
  unfold removeFile
  rw [List.getElem?_eq_getElem inside]
  exact ⟨_, _, rfl⟩

end Removal

def Edit.Steady : Edit → Prop
  | .rename .. | .setSource .. | .remove _ | .setLinker _ | .setOption .. | .updatePrimary _
  | .updateAlternate _ => True
  | .add .. | .new | .select _ | .selectName _ | .load _ => False

theorem Edit.Steady.salvaged {e : Edit} (steady : e.Steady) : e.Salvaged := by
  cases e with
  | load s => cases steady
  | _ => trivial

/-- What an edit does to files beside each of which stands its position at the start. A file that is
made for an empty list has had none. -/
def Edit.trace (e : Edit) (files : List (SourceFile × Nat)) : List (SourceFile × Nat) :=
  match e with
  | .rename index name =>
    if name = "" ∨ name ∈ (files.map Prod.fst).map SourceFile.name then files
    else files.modify index fun t => ({ t.1 with name }, t.2)
  | .setSource index source => files.modify index fun t => ({ t.1 with source }, t.2)
  | .remove index => files.eraseIdx index
  | _ => files

/-- The files after some edits, with the positions that they had before. -/
def traced (edits : List Edit) (files : List (SourceFile × Nat)) : List (SourceFile × Nat) :=
  edits.foldl (fun files e => e.trace files) files

/-- An edit that leaves the file from a position where it is. -/
def Edit.Spares (origin : Nat) (files : List (SourceFile × Nat)) : Edit → Prop
  | .remove index => (files[index]?).map Prod.snd ≠ some origin
  | _ => True

def Spare (origin : Nat) : List Edit → List (SourceFile × Nat) → Prop
  | [], _ => True
  | e :: edits, files => e.Spares origin files ∧ Spare origin edits (e.trace files)

/-- A project has the files of another one, and the same one of them is selected. -/
structure SameFiles (p q : Project) : Prop where
  files : q.files = p.files
  current : q.current = p.current

/-- The files of a project go with their positions at the start, and the selected one is from a
position. -/
structure Follows (origin : Nat) (traced : List (SourceFile × Nat)) (p : Project) : Prop where
  files : traced.map Prod.fst = p.files
  selected : (traced[p.current]?).map Prod.snd = some origin

section Trace

variable {p : Project} {origin index : Nat} {files : List (SourceFile × Nat)}

theorem map_fst_modify (g : SourceFile → SourceFile) :
    (files.modify index fun t => (g t.1, t.2)).map Prod.fst =
      (files.map Prod.fst).modify index g := by
  apply List.ext_getElem?
  intro i
  simp only [List.getElem?_map, List.getElem?_modify]
  cases files[i]? with
  | none => rfl
  | some t => by_cases here : index = i <;> simp [here]

theorem map_snd_getElem?_modify (g : SourceFile → SourceFile) (i : Nat) :
    ((files.modify index fun t => (g t.1, t.2))[i]?).map Prod.snd = (files[i]?).map Prod.snd := by
  simp only [List.getElem?_modify]
  cases files[i]? with
  | none => rfl
  | some t => by_cases here : index = i <;> simp [here]

theorem map_fst_eraseIdx (files : List (SourceFile × Nat)) (index : Nat) :
    (files.eraseIdx index).map Prod.fst = (files.map Prod.fst).eraseIdx index := by
  rw [List.eraseIdx_eq_take_drop_succ, List.eraseIdx_eq_take_drop_succ, List.map_append,
    List.map_take, List.map_drop]

theorem modify_eq_self {f : SourceFile} (present : p.files[index]? = some f)
    {g : SourceFile → SourceFile} (same : g f = f) : p.files.modify index g = p.files := by
  obtain ⟨inside, rfl⟩ := List.getElem?_eq_some_iff.mp present
  simp [List.modify_eq_set_getElem?, inside, same]

theorem modify_eq_set {f : SourceFile} (present : p.files[index]? = some f)
    (g : SourceFile → SourceFile) : p.files.modify index g = p.files.set index (g f) := by
  simp [List.modify_eq_set_getElem?, present]

theorem does_setSource (p : Project) (index : Nat) (source : String) :
    (p.does (.setSource index source)).files = p.files.modify index (fun f => { f with source }) ∧
      (p.does (.setSource index source)).current = p.current := by
  simp only [does, setSource]
  cases present : p.files[index]? with
  | none => exact ⟨(List.modify_eq_self (List.getElem?_eq_none_iff.mp present)).symm, rfl⟩
  | some f =>
    by_cases own : f.source = source
    · subst own
      simp only [if_true, orElse, modify_eq_self present, and_self]
    · simp only [own, if_false, orElse, setFile, modify_eq_set present, and_self]

theorem checkName_eq_ok_iff {name : String} :
    p.checkName name = .ok () ↔ ¬ (name = "" ∨ name ∈ p.files.map SourceFile.name) := by
  constructor
  · intro ok
    obtain ⟨filled, free⟩ := of_checkName ok
    exact not_or.mpr ⟨filled, free⟩
  · intro accepted
    obtain ⟨filled, free⟩ := not_or.mp accepted
    simp [checkName, filled, file?_eq_none_iff.mpr free]

theorem does_rename (p : Project) (index : Nat) (name : String) :
    (p.does (.rename index name)).files =
        (if name = "" ∨ name ∈ p.files.map SourceFile.name then p.files
        else p.files.modify index fun f => { f with name }) ∧
      (p.does (.rename index name)).current = p.current := by
  simp only [does, renameFile]
  cases present : p.files[index]? with
  | none =>
    rw [List.modify_eq_self (List.getElem?_eq_none_iff.mp present), ite_self]
    exact ⟨rfl, rfl⟩
  | some f =>
    have member : f ∈ p.files := List.mem_of_getElem? present
    by_cases own : f.name = name
    · have taken : name ∈ p.files.map SourceFile.name := own ▸ List.mem_map_of_mem member
      simp only [own, if_true, taken, or_true, orElse, and_self]
    · simp only [own, if_false]
      cases checked : p.checkName name with
      | ok _ =>
        rw [if_neg (checkName_eq_ok_iff.mp checked), modify_eq_set present]
        exact ⟨rfl, rfl⟩
      | error e =>
        have refused : name = "" ∨ name ∈ p.files.map SourceFile.name := by
          by_contra accepted
          rw [checkName_eq_ok_iff.mpr accepted] at checked
          cases checked
        rw [if_pos refused]
        exact ⟨rfl, rfl⟩

theorem does_remove_of_error {e : Refusal} (refused : p.removeFile index = .error e) :
    p.does (.remove index) = p := by
  simp only [does, refused]
  rfl

theorem does_remove_of_ok {f : SourceFile} {q : Project}
    (removed : p.removeFile index = .ok (f, q)) : p.does (.remove index) = q := by
  simp only [does, removed]
  rfl

theorem sameFiles_setOptions (p : Project) (linker : Linker) (next : OptionsOf linker) :
    SameFiles p (p.setOptions linker next) :=
  setOptions_induction ⟨rfl, rfl⟩ fun _ => by cases linker <;> exact ⟨rfl, rfl⟩

theorem sameFiles_setLinker (p : Project) (linker : Linker) : SameFiles p (p.setLinker linker) := by
  unfold setLinker
  split <;> exact ⟨rfl, rfl⟩

theorem sameFiles_setOption (p : Project) (linker : Linker) (key raw : String) :
    SameFiles p (p.does (.setOption linker key raw)) := by
  rw [does, setOption_eq]
  cases Options.assign (p.options linker) key raw with
  | ok next => exact sameFiles_setOptions p linker next
  | error e => exact ⟨rfl, rfl⟩

end Trace

namespace Follows

variable {p q : Project} {origin : Nat} {files : List (SourceFile × Nat)}

theorem of_sameFiles (h : Follows origin files p) (same : SameFiles p q) :
    Follows origin files q where
  files := h.files.trans same.files.symm
  selected := by
    rw [same.current]
    exact h.selected

theorem of_modify (h : Follows origin files p) {index : Nat} {g : SourceFile → SourceFile}
    (changed : q.files = p.files.modify index g) (current : q.current = p.current) :
    Follows origin (files.modify index fun t => (g t.1, t.2)) q where
  files := by rw [map_fst_modify, h.files, changed]
  selected := by rw [map_snd_getElem?_modify, current, h.selected]

theorem of_removeFile (h : Follows origin files p) (formed : WellFormed p) {index : Nat}
    {f : SourceFile} (removed : p.removeFile index = .ok (f, q))
    (spares : (files[index]?).map Prod.snd ≠ some origin) :
    Follows origin (files.eraseIdx index) q := by
  have other : index ≠ p.current := by
    rintro rfl
    exact spares h.selected
  obtain ⟨left, current⟩ := current_of_removeFile formed removed other
  refine ⟨by rw [map_fst_eraseIdx, h.files, left], ?_⟩
  rw [current, getElem?_positionAfter other, h.selected]

theorem remove (h : Follows origin files p) (formed : WellFormed p) {index : Nat}
    (spares : (files[index]?).map Prod.snd ≠ some origin) :
    Follows origin (files.eraseIdx index) (p.does (.remove index)) := by
  by_cases inside : index < p.files.length
  · obtain ⟨f, q, removed⟩ := exists_removeFile inside
    rw [does_remove_of_ok removed]
    exact h.of_removeFile formed removed spares
  · have absent : p.files[index]? = none := List.getElem?_eq_none_iff.mpr (by omega)
    have refused : p.removeFile index = .error (.noSuchIndex index) := by
      simp only [removeFile, absent]
    have length : files.length ≤ index := by
      have same := congrArg List.length h.files
      rw [List.length_map] at same
      omega
    rw [does_remove_of_error refused, List.eraseIdx_of_length_le length]
    exact h

theorem does (h : Follows origin files p) (formed : WellFormed p) {e : Edit} (steady : e.Steady)
    (spares : e.Spares origin files) : Follows origin (e.trace files) (p.does e) := by
  cases e with
  | rename index name =>
    obtain ⟨changed, current⟩ := does_rename p index name
    rw [← h.files] at changed
    simp only [Edit.trace]
    split at changed
    case isTrue refused =>
      rw [if_pos refused]
      exact h.of_sameFiles ⟨changed.trans h.files, current⟩
    case isFalse accepted =>
      rw [if_neg accepted]
      exact h.of_modify (h.files ▸ changed) current
  | setSource index source =>
    obtain ⟨changed, current⟩ := does_setSource p index source
    exact h.of_modify changed current
  | remove index => exact h.remove formed spares
  | setLinker linker => exact h.of_sameFiles (sameFiles_setLinker p linker)
  | setOption linker key raw => exact h.of_sameFiles (sameFiles_setOption p linker key raw)
  | updatePrimary f => exact h.of_sameFiles (sameFiles_setOptions p .primary (f p.primary))
  | updateAlternate f => exact h.of_sameFiles (sameFiles_setOptions p .alternate (f p.alternate))
  | add | new | select | selectName | load => cases steady

theorem perform {edits : List Edit} (h : Follows origin files p) (formed : WellFormed p)
    (steady : ∀ e ∈ edits, e.Steady) (spares : Spare origin edits files) :
    Follows origin (traced edits files) (perform edits p) := by
  induction edits generalizing p files with
  | nil => exact h
  | cons e edits ih =>
    have own : e.Steady := steady e List.mem_cons_self
    have next := h.does formed own spares.1
    have later : ∀ e ∈ edits, e.Steady := fun e member => steady e (List.mem_cons_of_mem _ member)
    exact ih next (formed.does e own.salvaged) later spares.2

theorem start (formed : WellFormed p) : Follows p.current p.files.zipIdx p where
  files := List.zipIdx_map_fst 0 p.files
  selected := by
    rw [List.getElem?_zipIdx, List.getElem?_eq_getElem formed.current]
    simp

theorem exists_selected (h : Follows origin files p) :
    ∃ f, files[p.current]? = some (f, origin) ∧ p.currentFile? = some f := by
  obtain ⟨⟨f, i⟩, found, rfl⟩ := Option.map_eq_some_iff.mp h.selected
  refine ⟨f, found, ?_⟩
  rw [currentFile?, ← h.files, List.getElem?_map, found]
  rfl

end Follows

/-- Every file of a well-formed project can be removed. It is given back, the others stay in their
order, and the selection stays on its file or goes from the removed one to the next, or to the last.
Whatever is renamed, rewritten, set and removed beside it, the file that was selected at the start
stays selected. -/
theorem selection_follows {p : Project} (h : WellFormed p) :
    (∀ index < p.files.length, ∃ f q, p.removeFile index = .ok (f, q) ∧ Removal p index f q) ∧
      ∀ edits : List Edit, (∀ e ∈ edits, e.Steady) → Spare p.current edits p.files.zipIdx →
        (traced edits p.files.zipIdx).map Prod.fst = (perform edits p).files ∧
          ∃ f, (traced edits p.files.zipIdx)[(perform edits p).current]? = some (f, p.current) ∧
            (perform edits p).currentFile? = some f := by
  constructor
  · intro index inside
    obtain ⟨f, q, removed⟩ := exists_removeFile inside
    exact ⟨f, q, removed, h.removal removed⟩
  · intro edits steady spares
    have follows := (Follows.start h).perform h steady spares
    exact ⟨follows.files, follows.exists_selected⟩

def threeFiles : Project :=
  { fresh with
    files := [⟨"a.wgsl", "1"⟩, ⟨"b.wgsl", "2"⟩, ⟨"c.wgsl", "3"⟩]
    current := 1 }

/-- The files around the middle one are removed and it is given another name and source; removed in
its turn, it leaves the selection to the one that followed. -/
theorem selection_follows_middle :
    WellFormed threeFiles ∧
      (perform
        [.remove 0, .rename 0 "main.wgsl", .setLinker .alternate, .setSource 0 "x", .remove 1]
        threeFiles).currentFile? = some ⟨"main.wgsl", "x"⟩ ∧
      ∃ q, threeFiles.removeFile 1 = .ok (⟨"b.wgsl", "2"⟩, q) ∧
        q.currentFile? = some ⟨"c.wgsl", "3"⟩ := by
  have formed : WellFormed threeFiles := ⟨⟨by decide, by decide, by decide⟩, by decide⟩
  obtain ⟨removals, runs⟩ := selection_follows formed
  refine ⟨formed, ?around, ?taken⟩
  case around =>
    obtain ⟨-, f, found, selected⟩ := runs
      [.remove 0, .rename 0 "main.wgsl", .setLinker .alternate, .setSource 0 "x", .remove 1]
      (by simp [Edit.Steady]) (by simp [Spare, Edit.Spares, Edit.trace, threeFiles])
    have own : f = ⟨"main.wgsl", "x"⟩ := by
      simpa [traced, Edit.trace, threeFiles] using List.mem_of_getElem? found
    rw [selected, own]
  case taken =>
    obtain ⟨f, q, removed, left⟩ := removals 1 (by decide)
    obtain rfl : ⟨"b.wgsl", "2"⟩ = f := Option.some.inj left.answer
    exact ⟨q, removed, left.next rfl (by decide)⟩

end Playground.Project
