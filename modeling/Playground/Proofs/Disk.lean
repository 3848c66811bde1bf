import Playground.Disk
import Playground.Proofs.Text.Utf8

/-!
The tree of a disk under its operations. A slot is a place in a tree at which something is or can be
made; an update grafts a node into its slot and leaves everything else where it is. Main statements:
what is written to a file is read from it, other files stay as they are, and paths go on leading
where they led.
-/

namespace Playground.Disk

theorem find_append (n : Node) (front rest : List String) :
    find n (front ++ rest) = (find n front).bind fun m => find m rest := by
  induction front generalizing n with
  | nil => rfl
  | cons name front ih =>
    cases n with
    | file mode bytes => rfl
    | directory mode entries =>
      simp only [List.cons_append, find]
      split
      · rfl
      · cases entries.lookup name with
        | none => rfl
        | some child => exact ih child

section Put

variable {mode : Nat} {entries : List (String × Node)} {name : String}
  (short : name.utf8ByteSize ≤ maxName)
include short

theorem find_cons (rest : List String) :
    find (.directory mode entries) (name :: rest) =
      match entries.lookup name with
      | some child => find child rest
      | none => .error .notFound := by
  cases found : entries.lookup name <;> simp only [find, if_neg (Nat.not_lt.mpr short), found]

theorem find_put_self (child : Node) (rest : List String) :
    find (.directory mode (Keyed.put name child entries)) (name :: rest) = find child rest := by
  rw [find_cons short, Keyed.lookup_put_self]

omit short in
theorem find_put_of_ne {other : String} (different : other ≠ name) (child : Node)
    (rest : List String) :
    find (.directory mode (Keyed.put name child entries)) (other :: rest) =
      find (.directory mode entries) (other :: rest) := by
  rw [find, find, Keyed.lookup_put_of_ne different]

end Put

/-- A place in a tree, with the node that is there, if there is one. -/
inductive Slot : Node → List String → Option Node → Prop where
  | here (n : Node) : Slot n [] (some n)
  | missing {mode : Nat} {entries : List (String × Node)} {name : String}
      (short : name.utf8ByteSize ≤ maxName) (absent : entries.lookup name = none) :
      Slot (.directory mode entries) [name] none
  | child {mode : Nat} {entries : List (String × Node)} {name : String} {rest : List String}
      {n : Node} {o : Option Node} (short : name.utf8ByteSize ≤ maxName)
      (present : entries.lookup name = some n) (slot : Slot n rest o) :
      Slot (.directory mode entries) (name :: rest) o

theorem Slot.of_find {tree m : Node} {names : List String} (found : find tree names = .ok m) :
    Slot tree names (some m) := by
  induction names generalizing tree with
  | nil =>
    cases found
    exact .here _
  | cons name rest ih =>
    cases tree with
    | file mode bytes => cases found
    | directory mode entries =>
      simp only [find] at found
      split at found
      · cases found
      · rename_i short
        split at found
        · rename_i child present
          exact .child (Nat.le_of_not_lt short) present (ih found)
        · cases found

theorem Slot.concat {tree : Node} {place : List String} {mode : Nat}
    {entries : List (String × Node)} (found : find tree place = .ok (.directory mode entries))
    {name : String} (short : name.utf8ByteSize ≤ maxName) :
    Slot tree (place ++ [name]) (entries.lookup name) := by
  induction place generalizing tree with
  | nil =>
    cases found
    cases lookup : entries.lookup name with
    | none => exact .missing short lookup
    | some child => exact .child short lookup (.here child)
  | cons first rest ih =>
    cases Slot.of_find found with
    | child fits present slot =>
      rw [find_cons fits, present] at found
      exact .child fits present (ih found)

/-- A tree in which `m` stands at `names`, and which else has at other names what `n` has there. -/
structure Grafted (n : Node) (names : List String) (m n' : Node) : Prop where
  inside : ∀ rest, find n' (names ++ rest) = find m rest
  apart : ∀ other, ¬ names <+: other → ¬ other <+: names → find n' other = find n other
  above : ∀ other, other <+: names → other ≠ names → ∃ mode entries entries',
    find n other = .ok (.directory mode entries) ∧ find n' other = .ok (.directory mode entries')

theorem Grafted.own {n m n' : Node} {names : List String} (grafted : Grafted n names m n') :
    find n' names = .ok m := by
  have inside := grafted.inside []
  rwa [List.append_nil] at inside

theorem Slot.update {n : Node} {names : List String} {o : Option Node} (slot : Slot n names o) :
    ∃ graft : Node → Node, (∀ f, update f names (some n) = (f o).map graft) ∧
      ∀ m, Grafted n names m (graft m) := by
  induction slot with
  | here n =>
    refine ⟨id, fun f => ?_, fun m => ⟨fun rest => rfl, ?_, ?_⟩⟩
    · simp only [Disk.update]
      cases f (some n) <;> rfl
    · intro other outside
      exact absurd List.nil_prefix outside
    · intro other front different
      exact absurd (List.prefix_nil.mp front) different
  | @missing mode entries name short absent =>
    refine ⟨fun m => .directory mode (Keyed.put name m entries), fun f => ?_, fun m => ?_⟩
    · simp only [Disk.update, if_neg (Nat.not_lt.mpr short), absent]
      cases f none <;> rfl
    · refine ⟨find_put_self short m, ?_, ?_⟩
      · intro other outside beyond
        cases other with
        | nil => exact absurd List.nil_prefix beyond
        | cons first rest =>
          refine find_put_of_ne ?_ m rest
          rintro rfl
          exact outside ⟨rest, rfl⟩
      · intro other front different
        cases other with
        | nil => exact ⟨mode, entries, _, rfl, rfl⟩
        | cons first rest =>
          obtain ⟨rfl, tail⟩ := List.cons_prefix_cons.mp front
          rw [List.prefix_nil.mp tail] at different
          exact absurd rfl different
  | @child mode entries name rest n o short present slot ih =>
    obtain ⟨graft, updates, grafted⟩ := ih
    refine ⟨fun m => .directory mode (Keyed.put name (graft m) entries), fun f => ?_, fun m => ?_⟩
    · simp only [Disk.update, if_neg (Nat.not_lt.mpr short), present, updates]
      cases f o <;> rfl
    · obtain ⟨inside, apart, above⟩ := grafted m
      have own (tail : List String) :
          find (.directory mode entries) (name :: tail) = find n tail := by
        rw [find_cons short, present]
      refine ⟨fun tail => ?_, ?_, ?_⟩
      · rw [List.cons_append, find_put_self short, inside]
      · intro other outside beyond
        cases other with
        | nil => exact absurd List.nil_prefix beyond
        | cons first tail =>
          by_cases same : first = name
          · subst same
            rw [find_put_self short, own]
            exact apart tail (fun h => outside (List.cons_prefix_cons.mpr ⟨rfl, h⟩))
              fun h => beyond (List.cons_prefix_cons.mpr ⟨rfl, h⟩)
          · exact find_put_of_ne same _ tail
      · intro other front different
        cases other with
        | nil => exact ⟨mode, entries, _, rfl, rfl⟩
        | cons first tail =>
          obtain ⟨rfl, inner⟩ := List.cons_prefix_cons.mp front
          rw [find_put_self short, own]
          exact above tail inner fun h => different (by rw [h])

theorem Slot.toOption_find {n : Node} {names : List String} {o : Option Node}
    (slot : Slot n names o) : (find n names).toOption = o := by
  induction slot with
  | here n => rfl
  | missing short absent => rw [find_cons short, absent]; rfl
  | child short present _ ih => rw [find_cons short, present]; exact ih

def Grows (n n' : Node) : Prop := ∀ names m, find n names = .ok m →
  ∃ m', find n' names = .ok m' ∧ m'.isDirectory = m.isDirectory

theorem grows_file (mode mode' : Nat) (bytes bytes' : List UInt8) :
    Grows (.file mode bytes) (.file mode' bytes') := by
  rintro names m found
  cases names with
  | nil =>
    cases found
    exact ⟨_, rfl, rfl⟩
  | cons name rest => cases found

theorem find_withMode_cons (n : Node) (mode : Nat) (name : String) (rest : List String) :
    find (n.withMode mode) (name :: rest) = find n (name :: rest) := by
  cases n <;> rfl

theorem grows_withMode (n : Node) (mode : Nat) : Grows n (n.withMode mode) := by
  rintro names m found
  cases names with
  | nil =>
    cases found
    cases n <;> exact ⟨_, rfl, rfl⟩
  | cons name rest =>
    rw [← find_withMode_cons n mode] at found
    exact ⟨m, found, rfl⟩

section Grafted

variable {n m n' : Node} {slot : List String} (grafted : Grafted n slot m n')
include grafted

theorem Grafted.grows (kind : ∀ k, find n slot = .ok k → Grows k m) : Grows n n' := by
  intro names x found
  by_cases inner : slot <+: names
  · obtain ⟨rest, rfl⟩ := inner
    rw [find_append] at found
    cases own : find n slot with
    | error e =>
      rw [own] at found
      cases found
    | ok k =>
      rw [own] at found
      rw [grafted.inside]
      exact kind k own rest x found
  · by_cases outer : names <+: slot
    · obtain ⟨mode, entries, entries', before, after⟩ := grafted.above names outer
        fun same => inner (same ▸ List.prefix_rfl)
      rw [before] at found
      cases found
      exact ⟨_, after, rfl⟩
    · rw [← grafted.apart names inner outer] at found
      exact ⟨x, found, rfl⟩

end Grafted

def contents : Node → Except Fault String
  | .file _ bytes =>
    match Text.Utf8.decode ⟨bytes.toArray⟩ with
    | .ok text => .ok text
    | .error _ => .error .notText
  | .directory _ _ => .error .isDirectory

theorem contents_withMode (n : Node) (mode : Nat) : contents (n.withMode mode) = contents n := by
  cases n <;> rfl

def textAt (n : Node) (names : List String) : Except Fault String := (find n names).bind contents

theorem Grafted.textAt_of_ne {n m n' : Node} {slot names : List String}
    (grafted : Grafted n slot m n') (outside : ¬ slot <+: names) :
    textAt n' names = textAt n names := by
  by_cases outer : names <+: slot
  · obtain ⟨mode, entries, entries', before, after⟩ := grafted.above names outer
      fun same => outside (same ▸ List.prefix_rfl)
    rw [textAt, textAt, before, after]
    rfl
  · rw [textAt, textAt, grafted.apart names outside outer]

theorem Grafted.absent {n m n' : Node} {slot names : List String} {e : Fault}
    (grafted : Grafted n slot m n') (outside : ¬ slot <+: names)
    (absent : find n names = .error e) : find n' names = .error e := by
  by_cases outer : names <+: slot
  · obtain ⟨mode, entries, entries', before, -⟩ := grafted.above names outer
      fun same => outside (same ▸ List.prefix_rfl)
    rw [before] at absent
    cases absent
  · rwa [grafted.apart names outside outer]

theorem Grafted.textAt_withMode {n k n' : Node} {slot : List String} {mode : Nat}
    (grafted : Grafted n slot (k.withMode mode) n') (own : find n slot = .ok k)
    (names : List String) : textAt n' names = textAt n names := by
  by_cases inner : slot <+: names
  · obtain ⟨rest, rfl⟩ := inner
    rw [textAt, textAt, grafted.inside, find_append, own]
    cases rest with
    | nil => exact contents_withMode k mode
    | cons name rest => rw [find_withMode_cons]; rfl
  · exact grafted.textAt_of_ne inner

theorem Grafted.absent_withMode {n k n' : Node} {slot names : List String} {mode : Nat} {e : Fault}
    (grafted : Grafted n slot (k.withMode mode) n') (own : find n slot = .ok k)
    (absent : find n names = .error e) : find n' names = .error e := by
  by_cases inner : slot <+: names
  · obtain ⟨rest, rfl⟩ := inner
    rw [find_append, own] at absent
    rw [grafted.inside]
    cases rest with
    | nil => cases absent
    | cons name rest => rw [find_withMode_cons]; exact absent
  · exact grafted.absent inner absent

section Names

variable {name : String} (filled : name ≠ "") (plain : '/' ∉ name.toList)

theorem splitOn_slash (front back : List Char) :
    (front ++ '/' :: back).splitOn '/' = front.splitOn '/' ++ back.splitOn '/' := by
  rw [List.splitOn_eq_splitOnP, List.splitOn_eq_splitOnP, List.splitOn_eq_splitOnP]
  exact List.splitOnP_append_cons front back (beq_self_eq_true '/')

include filled plain

theorem names_of_toList {path : String} {front : List Char}
    (chars : path.toList = front ++ '/' :: name.toList) :
    names path = ((front.splitOn '/').map String.ofList).filter (· ≠ "") ++ [name] := by
  have single : name.toList.splitOn '/' = [name.toList] := by
    rw [List.splitOn_eq_splitOnP]
    apply List.splitOnP_eq_singleton
    intro c member
    simpa using fun same : c = '/' => plain (same ▸ member)
  rw [names, chars, splitOn_slash, single]
  simp [filled]

theorem names_slash (folder : String) : names (folder ++ "/" ++ name) = names folder ++ [name] :=
  names_of_toList filled plain (by simp)

theorem names_append {folder : String} (open' : asksDirectory folder = true) :
    names (folder ++ name) = names folder ++ [name] := by
  obtain ⟨front, chars⟩ : ∃ front, folder.toList = front ++ ['/'] :=
    List.getLast?_eq_some_iff.mp (by simpa [asksDirectory] using open')
  have whole : (folder ++ name).toList = front ++ '/' :: name.toList := by simp [chars]
  rw [names_of_toList filled plain whole, names, chars, splitOn_slash]
  simp

theorem asksDirectory_append (folder : String) : asksDirectory (folder ++ name) = false := by
  have some : name.toList ≠ [] := by simpa using filled
  obtain ⟨front, last, chars⟩ : ∃ front last, name.toList = front ++ [last] :=
    ⟨_, _, (List.dropLast_concat_getLast some).symm⟩
  have other : last ≠ '/' := by
    rintro rfl
    exact plain (by rw [chars]; simp)
  simp [asksDirectory, chars, other]

end Names

structure Folder (d : Disk) (path : String) (place : List String) : Prop where
  leads : d.walk path (names path) = .ok place
  directory : ∃ mode entries, find d.root place = .ok (.directory mode entries)

theorem Folder.unique {d : Disk} {path : String} {place place' : List String}
    (h : Folder d path place) (h' : Folder d path place') : place = place' :=
  Except.ok.inj (h.leads.symm.trans h'.leads)

/-- A path that adds a name to the path of a folder. -/
structure Entry (folder name path : String) : Prop where
  fits : check path = .ok ()
  names : names path = Disk.names folder ++ [name]
  absolute : isAbsolute path = isAbsolute folder
  plain : asksDirectory path = false
  short : name.utf8ByteSize ≤ maxName
  named : name ≠ "." ∧ name ≠ ".."

structure Onward (d d' : Disk) : Prop where
  here : d'.here = d.here
  grows : Grows d.root d'.root

theorem Onward.refl (d : Disk) : Onward d d := ⟨rfl, fun _ m found => ⟨m, found, rfl⟩⟩

theorem Onward.trans {a b c : Disk} (first : Onward a b) (second : Onward b c) : Onward a c := by
  refine ⟨second.here.trans first.here, fun names m found => ?_⟩
  obtain ⟨m', found, kind⟩ := first.grows names m found
  obtain ⟨m'', found, kind'⟩ := second.grows names m' found
  exact ⟨m'', found, kind'.trans kind⟩

theorem step_eq_ok_iff {root : Node} {done next : List String} {name : String} :
    step root done name = .ok next ↔
      (∃ mode entries, find root done.reverse = .ok (.directory mode entries)) ∧
        if name = "." then next = done
        else if name = ".." then next = done.drop 1
        else next = name :: done ∧ ∃ m, find root (done.reverse ++ [name]) = .ok m := by
  unfold step
  rw [find_append]
  cases found : find root done.reverse with
  | error e => simp [bind, Except.bind]
  | ok n =>
    cases n with
    | file mode bytes => simp [bind, Except.bind, Node.isDirectory]
    | directory mode entries =>
      simp only [bind, Except.bind, Node.isDirectory, Bool.not_true, Bool.false_eq_true, if_false]
      split
      · simp [pure, Except.pure, eq_comm]
      · split
        · simp [pure, Except.pure, eq_comm]
        · cases find (.directory mode entries) [name] <;> simp [pure, Except.pure, eq_comm]

theorem step_of_grows {root root' : Node} (grows : Grows root root') {done next : List String}
    {name : String} (ok : step root done name = .ok next) : step root' done name = .ok next := by
  obtain ⟨⟨mode, entries, found⟩, goes⟩ := step_eq_ok_iff.mp ok
  refine step_eq_ok_iff.mpr ⟨?_, ?_⟩
  · obtain ⟨m, found', kind⟩ := grows _ _ found
    cases m with
    | file mode bytes => cases kind
    | directory mode entries => exact ⟨mode, entries, found'⟩
  · by_cases dot : name = "."
    · rwa [if_pos dot] at goes ⊢
    · by_cases dots : name = ".."
      · rwa [if_neg dot, if_pos dots] at goes ⊢
      · rw [if_neg dot, if_neg dots] at goes ⊢
        obtain ⟨next, m, there⟩ := goes
        obtain ⟨m', there', -⟩ := grows _ _ there
        exact ⟨next, m', there'⟩

theorem walk_of_onward {d d' : Disk} (onward : Onward d d') {path : String}
    {names place : List String} (ok : d.walk path names = .ok place) :
    d'.walk path names = .ok place := by
  have each {done : List String} {names next : List String}
      (ok : names.foldlM (step d.root) done = .ok next) :
      names.foldlM (step d'.root) done = .ok next := by
    induction names generalizing done with
    | nil => exact ok
    | cons name rest ih =>
      simp only [List.foldlM_cons] at ok ⊢
      cases first : step d.root done name with
      | error e =>
        rw [first] at ok
        cases ok
      | ok middle =>
        rw [first] at ok
        rw [step_of_grows onward.grows first]
        exact ih ok
  unfold walk at ok ⊢
  rw [onward.here]
  generalize (if isAbsolute path then [] else d.here.reverse) = done at ok
  cases first : names.foldlM (step d.root) done with
  | error e =>
    rw [first] at ok
    cases ok
  | ok next =>
    rw [first] at ok
    rw [each first]
    exact ok

theorem Folder.onward {d d' : Disk} {path : String} {place : List String}
    (folder : Folder d path place) (onward : Onward d d') : Folder d' path place := by
  refine ⟨walk_of_onward onward folder.leads, ?_⟩
  obtain ⟨mode, entries, found⟩ := folder.directory
  obtain ⟨m, found', kind⟩ := onward.grows _ _ found
  cases m with
  | file mode bytes => cases kind
  | directory mode entries => exact ⟨mode, entries, found'⟩

theorem foldlM_step_of_find {root m : Node} {done names : List String}
    (found : find root (done.reverse ++ names) = .ok m)
    (plain : ∀ name ∈ names, name ≠ "." ∧ name ≠ "..") :
    names.foldlM (step root) done = .ok (names.reverse ++ done) := by
  induction names generalizing done with
  | nil => rfl
  | cons name names ih =>
    obtain ⟨dots, later⟩ := List.forall_mem_cons.mp plain
    have further : find root ((name :: done).reverse ++ names) = .ok m := by
      rwa [List.reverse_cons, List.append_assoc]
    have next : step root done name = .ok (name :: done) := by
      refine step_eq_ok_iff.mpr ⟨?_, ?_⟩
      · rw [find_append] at found
        cases before : find root done.reverse with
        | error e =>
          rw [before] at found
          cases found
        | ok n =>
          rw [before] at found
          cases n with
          | file mode bytes => cases found
          | directory mode entries => exact ⟨mode, entries, rfl⟩
      · rw [if_neg dots.1, if_neg dots.2]
        refine ⟨rfl, ?_⟩
        rw [List.reverse_cons, find_append] at further
        cases there : find root (done.reverse ++ [name]) with
        | error e =>
          rw [there] at further
          cases further
        | ok n => exact ⟨n, rfl⟩
    rw [List.foldlM_cons, next]
    refine (ih further later).trans ?_
    rw [List.reverse_cons, List.append_assoc]
    rfl

section Spellings

variable {d : Disk} {path path' : String} {place : List String} (folder : Folder d path place)
  (some : names path ≠ [])
include folder some

theorem Folder.start : ∃ mode entries,
    find d.root (if isAbsolute path then [] else d.here) = .ok (.directory mode entries) := by
  have leads := folder.leads
  obtain ⟨name, rest, path⟩ := List.exists_cons_of_ne_nil some
  unfold walk at leads
  rw [path, List.foldlM_cons] at leads
  generalize start : (if isAbsolute _ then [] else d.here.reverse) = done at leads
  cases first : step d.root done name with
  | error e =>
    rw [first] at leads
    cases leads
  | ok next =>
    have there := (step_eq_ok_iff.mp first).1
    rw [← start, apply_ite List.reverse, List.reverse_reverse] at there
    exact there

theorem Folder.dotted (absolute : isAbsolute path' = isAbsolute path)
    (dotted : names path' = "." :: names path) : Folder d path' place := by
  refine ⟨?_, folder.directory⟩
  have stays : step d.root (if isAbsolute path then [] else d.here.reverse) "." =
      .ok (if isAbsolute path then [] else d.here.reverse) := by
    refine step_eq_ok_iff.mpr ⟨?_, by rw [if_pos rfl]⟩
    rw [apply_ite List.reverse, List.reverse_reverse]
    exact folder.start some
  rw [walk, absolute, dotted, List.foldlM_cons, stays]
  exact folder.leads

theorem Folder.rooted (relative : isAbsolute path = false)
    (plain : ∀ name ∈ d.here, name ≠ "." ∧ name ≠ "..") (absolute : isAbsolute path' = true)
    (rooted : names path' = d.here ++ names path) : Folder d path' place := by
  refine ⟨?_, folder.directory⟩
  obtain ⟨mode, entries, found⟩ := folder.start some
  rw [if_neg (by simp [relative])] at found
  have leads := folder.leads
  rw [walk, if_neg (by simp [relative])] at leads
  have whole : d.here.foldlM (step d.root) [] = .ok d.here.reverse := by
    rw [foldlM_step_of_find found plain, List.append_nil]
  rw [walk, if_pos absolute, rooted, List.foldlM_append, whole]
  exact leads

end Spellings

theorem walk_concat {d : Disk} {path folder : String} (same : isAbsolute path = isAbsolute folder)
    (front : List String) (name : String) :
    d.walk path (front ++ [name]) =
      (d.walk folder front).bind fun place =>
        (step d.root place.reverse name).map List.reverse := by
  unfold walk
  rw [same, List.foldlM_append]
  simp only [bind, Except.bind, List.foldlM_cons, List.foldlM_nil]
  cases front.foldlM (step d.root) (if isAbsolute folder then [] else d.here.reverse) with
  | error e => rfl
  | ok done =>
    simp only [pure, Except.pure, List.reverse_reverse]
    cases step d.root done name <;> rfl

section Entry

variable {d : Disk} {folder name path : String} {place : List String}
  (home : Folder d folder place) (entry : Entry folder name path)
include home entry

theorem Folder.step_entry : step d.root place.reverse name =
    (find d.root (place ++ [name])).map fun _ => name :: place.reverse := by
  obtain ⟨mode, entries, found⟩ := home.directory
  have directory : (Node.directory mode entries).isDirectory = true := rfl
  simp only [step, List.reverse_reverse, found, bind, Except.bind, directory, Bool.not_true,
    Bool.false_eq_true, if_false, if_neg entry.named.1, if_neg entry.named.2, find_append]
  cases find (.directory mode entries) [name] <;> rfl

theorem Folder.walk_entry : d.walk path (names path) =
    (find d.root (place ++ [name])).map fun _ => place ++ [name] := by
  rw [entry.names, walk_concat entry.absolute, home.leads, Except.bind, home.step_entry entry]
  cases find d.root (place ++ [name]) with
  | error e => rfl
  | ok n => simp [Except.map]

theorem Folder.locate_entry : d.locate path =
    (find d.root (place ++ [name])).map fun n => (place ++ [name], n) := by
  simp only [locate, entry.fits, bind, Except.bind, home.walk_entry entry]
  cases found : find d.root (place ++ [name]) with
  | error e => rfl
  | ok n => simp [Except.map, found, entry.plain, pure, Except.pure]

theorem Folder.readText_entry : d.readText path = textAt d.root (place ++ [name]) := by
  simp only [readText, readBytes, stat, bind, Except.bind, home.locate_entry entry, textAt]
  cases find d.root (place ++ [name]) with
  | error e => rfl
  | ok n =>
    cases n with
    | directory mode entries => rfl
    | file mode bytes =>
      cases decoded : Text.Utf8.decode ⟨bytes.toArray⟩ <;>
        simp only [Except.map, pure, Except.pure, contents, decoded]

theorem Folder.ending_entry : d.ending path = .ok (place, some name) := by
  obtain ⟨mode, entries, found⟩ := home.directory
  have walked : d.walk path (names folder) = .ok place := by
    have leads := home.leads
    unfold walk at leads ⊢
    rwa [entry.absolute]
  have directory : (Node.directory mode entries).isDirectory = true := rfl
  simp [ending, entry.fits, entry.names, walked, found, directory, bind, Except.bind,
    pure, Except.pure, entry.named]

end Entry

/-- A disk that is another one with a text written to the file at `names`. -/
structure Written (d d' : Disk) (names : List String) (text : String) : Prop where
  onward : Onward d d'
  own : textAt d'.root names = .ok text
  other : ∀ names', ¬ names <+: names' → textAt d'.root names' = textAt d.root names'
  absent : ∀ names' e, ¬ names <+: names' → find d.root names' = .error e →
    find d'.root names' = .error e

structure Alike (d d' : Disk) : Prop where
  onward : Onward d d'
  same : ∀ names, textAt d'.root names = textAt d.root names
  absent : ∀ names e, find d.root names = .error e → find d'.root names = .error e

theorem Written.alike {d d' d'' : Disk} {names : List String} {text : String}
    (written : Written d d' names text) (alike : Alike d' d'') : Written d d'' names text where
  onward := written.onward.trans alike.onward
  own := (alike.same names).trans written.own
  other names' outside := (alike.same names').trans (written.other names' outside)
  absent names' e outside missing := alike.absent names' e (written.absent names' e outside missing)

section Write

variable {d : Disk} {folder name path : String} {place : List String}
  (home : Folder d folder place) (entry : Entry folder name path)
include home entry

theorem Folder.writeText_entry (text : String) :
    (d.readText path = .error .isDirectory ∧ d.writeText path text = .error .isDirectory) ∨
      ∃ d', d.writeText path text = .ok d' ∧ Written d d' (place ++ [name]) text := by
  obtain ⟨mode, entries, found⟩ := home.directory
  have slot := Slot.concat found entry.short
  obtain ⟨graft, updates, grafted⟩ := slot.update
  have write : d.writeText path text =
      ((overwritten (Text.Utf8.encode text) (entries.lookup name)).map graft).map
        fun root => { d with root } := by
    simp only [writeText, writeBytes, home.ending_entry entry, bind, Except.bind, entry.plain,
      Bool.false_eq_true, if_false, updates]
    cases overwritten (Text.Utf8.encode text) (entries.lookup name) <;> rfl
  -- Whether there is a file or nothing, a file is grafted in.
  have done {m : Node} (own : contents m = .ok text)
      (replaced : overwritten (Text.Utf8.encode text) (entries.lookup name) = .ok m)
      (kind : ∀ k, find d.root (place ++ [name]) = .ok k → Grows k m) :
      ∃ d', d.writeText path text = .ok d' ∧ Written d d' (place ++ [name]) text := by
    refine ⟨{ d with root := graft m }, by rw [write, replaced]; rfl,
      ⟨rfl, (grafted m).grows kind⟩, ?_, fun _ outside => (grafted m).textAt_of_ne outside,
      fun _ _ outside => (grafted m).absent outside⟩
    rw [textAt, (grafted m).own]
    exact own
  have encoded (mode : Nat) : contents (.file mode (Text.Utf8.encode text)) = .ok text := by
    have bytes : (⟨(Text.Utf8.encode text).toArray⟩ : ByteArray) = text.toUTF8 := rfl
    rw [contents, bytes, Text.Utf8.decode_toUTF8]
  have there := slot.toOption_find
  cases o : entries.lookup name with
  | none =>
    rw [o] at there
    refine .inr (done (encoded 0o644) (by rw [o]; rfl) fun k present => ?_)
    rw [present] at there
    cases there
  | some k =>
    rw [o] at there
    have present : find d.root (place ++ [name]) = .ok k := by
      cases own : find d.root (place ++ [name]) with
      | error e => rw [own] at there; cases there
      | ok k' => rw [own] at there; cases there; rfl
    cases k with
    | directory mode entries =>
      refine .inl ⟨?_, ?_⟩
      · rw [home.readText_entry entry, textAt, present]
        rfl
      · rw [write, o]
        rfl
    | file mode bytes =>
      refine .inr (done (encoded mode) (by rw [o]; rfl) fun k' present' => ?_)
      rw [present] at present'
      cases present'
      exact grows_file mode mode bytes _

end Write

theorem setMode_of_locate {d : Disk} {path : String} {place : List String} {n : Node}
    (located : d.locate path = .ok (place, n)) (found : find d.root place = .ok n) (mode : Nat) :
    ∃ d', d.setMode path mode = .ok d' ∧ Alike d d' := by
  obtain ⟨graft, updates, grafted⟩ := (Slot.of_find found).update
  refine ⟨{ d with root := graft (n.withMode mode) }, ?_, ⟨rfl, ?_⟩,
    (grafted _).textAt_withMode found, fun _ _ => (grafted _).absent_withMode found⟩
  · simp only [setMode, located, bind, Except.bind, updates]
    rfl
  · refine (grafted _).grows fun k present => ?_
    rw [found] at present
    cases present
    exact grows_withMode n mode

section Directories

variable {d : Disk} {folder : String} {place : List String} (home : Folder d folder place)
  (fits : check folder = .ok ())
include home fits

theorem Folder.locate_self : ∃ mode entries,
    d.locate folder = .ok (place, .directory mode entries) ∧
      find d.root place = .ok (.directory mode entries) := by
  obtain ⟨mode, entries, found⟩ := home.directory
  refine ⟨mode, entries, ?_, found⟩
  simp [locate, fits, home.leads, found, bind, Except.bind, pure, Except.pure, Node.isDirectory]

theorem Folder.setMode_self (mode : Nat) : ∃ d', d.setMode folder mode = .ok d' ∧ Alike d d' := by
  obtain ⟨_, _, located, found⟩ := home.locate_self fits
  exact setMode_of_locate located found mode

theorem Folder.makeDirectory_self : d.makeDirectory folder = .error .alreadyExists := by
  have leads := home.leads
  obtain empty | ⟨front, last, parts⟩ := (names folder).eq_nil_or_concat
  · obtain ⟨mode, entries, found⟩ := home.directory
    rw [empty] at leads
    simp [makeDirectory, ending, fits, empty, leads, found, bind, Except.bind, pure, Except.pure,
      Node.isDirectory]
  · rw [parts, List.concat_eq_append, walk_concat rfl] at leads
    cases upper : d.walk folder front with
    | error e =>
      rw [upper] at leads
      cases leads
    | ok above =>
      cases stepped : step d.root above.reverse last with
      | error e =>
        rw [upper, Except.bind, stepped] at leads
        cases leads
      | ok next =>
        obtain ⟨⟨mode, entries, found⟩, goes⟩ := step_eq_ok_iff.mp stepped
        rw [List.reverse_reverse] at found goes
        by_cases dots : last = "." ∨ last = ".."
        · have unnamed : (some last).filter (fun name => name ≠ "." ∧ name ≠ "..") = none := by
            obtain rfl | rfl := dots <;> rfl
          simp only [makeDirectory, ending, fits, parts, List.concat_eq_append,
            List.dropLast_concat, upper, found, bind, Except.bind, pure, Except.pure,
            Node.isDirectory, Bool.not_true, Bool.false_eq_true, if_false,
            List.getLast?_concat, unnamed]
        · rw [not_or] at dots
          rw [if_neg dots.1, if_neg dots.2] at goes
          obtain ⟨-, m, there⟩ := goes
          obtain ⟨graft, updates, -⟩ := (Slot.of_find there).update
          have named : (some last).filter (fun name => name ≠ "." ∧ name ≠ "..") = some last := by
            simp [Option.filter, dots]
          simp only [makeDirectory, ending, fits, parts, List.concat_eq_append,
            List.dropLast_concat, upper, found, bind, Except.bind, pure, Except.pure,
            Node.isDirectory, Bool.not_true, Bool.false_eq_true, if_false,
            List.getLast?_concat, named, updates, added, Except.map]

theorem Folder.makeDirectories_self : d.makeDirectories folder = .ok d := by
  obtain ⟨mode, entries, located, -⟩ := home.locate_self fits
  have there : d.hasDirectory folder = true := by
    simp [hasDirectory, stat, located, bind, Except.bind, pure, Except.pure, Node.isDirectory]
  have ensured : d.ensureDirectory folder = .ok d := by
    simp [ensureDirectory, home.makeDirectory_self fits, there]
  unfold makeDirectories
  split
  · rfl
  · simp [climb, ensured, bind, Except.bind, pure, Except.pure]

end Directories

theorem parts_ne_nil {path name : String} {front : List String}
    (split : names path = front ++ [name]) (named : name ≠ ".") : parts path ≠ [] := by
  unfold parts
  rw [split]
  cases front with
  | nil =>
    have lead : ¬ (name = "." ∧ isAbsolute path = true) := fun h => named h.1
    simp [lead]
  | cons first rest =>
    have last : name ∈ (rest ++ [name]).filter (· ≠ ".") := by simp [named]
    simp only [List.cons_append]
    split
    · exact List.ne_nil_of_mem last
    · simp

theorem Folder.makeDirectories_entry {d : Disk} {folder name path : String} {place : List String}
    (home : Folder d folder place) (entry : Entry folder name path)
    (missing : find d.root (place ++ [name]) = .error .notFound) :
    ∃ d', d.makeDirectories path = .ok d' ∧ Onward d d' ∧ Folder d' path (place ++ [name]) ∧
      (∀ names, ¬ place ++ [name] <+: names → textAt d'.root names = textAt d.root names) ∧
      ∀ file : String, file.utf8ByteSize ≤ maxName →
        textAt d'.root (place ++ [name] ++ [file]) = .error .notFound := by
  obtain ⟨mode, entries, found⟩ := home.directory
  have slot := Slot.concat found entry.short
  obtain ⟨graft, updates, grafted⟩ := slot.update
  have there := slot.toOption_find
  rw [missing] at there
  have free : entries.lookup name = none := there.symm
  let m := Node.directory 0o755 []
  let d' : Disk := { d with root := graft m }
  have made : d.makeDirectory path = .ok d' := by
    simp only [makeDirectory, home.ending_entry entry, bind, Except.bind, updates, free, added]
    rfl
  have onward : Onward d d' := by
    refine ⟨rfl, (grafted m).grows fun k present => ?_⟩
    rw [missing] at present
    cases present
  have here : find d'.root (place ++ [name]) = .ok m := (grafted m).own
  refine ⟨d', ?_, onward, ⟨?_, 0o755, [], here⟩, fun _ => (grafted m).textAt_of_ne, ?_⟩
  · have some := parts_ne_nil entry.names entry.named.1
    have ensured : d.ensureDirectory path = .ok d' := by rw [ensureDirectory, made]
    simp [makeDirectories, some, climb, ensured, bind, Except.bind, pure, Except.pure]
  · rw [(home.onward onward).walk_entry entry, here]
    rfl
  · intro file short
    rw [textAt, (grafted m).inside, find_cons short]
    rfl

end Playground.Disk
