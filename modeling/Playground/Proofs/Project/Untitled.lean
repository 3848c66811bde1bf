import Mathlib.Order.Bounds.Basic
import Playground.Project.Untitled
import Playground.Proofs.Project.Refusal

/-!
The names of new files. The numbers below the least one whose name is free are refused one by one,
and there are not more of them than files, so that the search ends before its counter is exhausted.
Main statement: a new file in place is given the untitled name of the least free number, with as many
tries, and the project that it leaves is the one with that file at its end.
-/

namespace Playground

namespace Supply

variable {ε σ α β : Type} {supply : Supply ε σ α} {accept : α → Bool} {s rest : σ} {a : α}

theorem map_of_ok (f : α → β) (given : supply s = .ok (some (a, rest))) :
    supply.map f s = .ok (some (f a, rest)) := by
  rw [map, given]
  rfl

theorem exists_of_map {f : α → β} {item : Option (β × σ)} (given : supply.map f s = .ok item) :
    ∃ own, supply s = .ok own ∧ item = own.map fun (a, rest) => (f a, rest) := by
  unfold map at given
  cases answer : supply s with
  | error e =>
    rw [answer] at given
    cases given
  | ok own =>
    rw [answer] at given
    cases given
    exact ⟨own, rfl, rfl⟩

theorem first_of_error {e : ε} (failed : supply s = .error e) (tries : Nat) :
    supply.first accept (tries + 1) s = some (.error e) := by
  rw [first, failed]

theorem first_of_accepted (given : supply s = .ok (some (a, rest))) (accepted : accept a = true)
    (tries : Nat) : supply.first accept (tries + 1) s = some (.ok (some a)) := by
  rw [first, given]
  exact if_pos accepted

theorem first_of_refused (given : supply s = .ok (some (a, rest))) (refused : accept a = false)
    (tries : Nat) :
    supply.first accept (tries + 1) s = supply.first accept tries rest := by
  rw [first, given]
  simp only [refused, Bool.false_eq_true, if_false]

theorem exists_of_first (endless : ∀ t, supply t ≠ .ok none) {tries : Nat} {found : Option α}
    (ends : supply.first accept tries s = some (.ok found)) :
    ∃ t a rest, supply t = .ok (some (a, rest)) ∧ accept a = true ∧ found = some a := by
  induction tries generalizing s with
  | zero => cases ends
  | succ tries ih =>
    unfold first at ends
    split at ends
    case h_1 => cases ends
    case h_2 ended => exact absurd ended (endless s)
    case h_3 a rest given =>
      split at ends
      case isTrue accepted =>
        cases ends
        exact ⟨s, a, rest, given, accepted, rfl⟩
      case isFalse => exact ih ends

end Supply

namespace Ceiling

theorem ofNat_eq_maxValue_iff {n : Nat} (small : n < 2 ^ 31) :
    Int32.ofNat n = Int32.maxValue ↔ n = 2 ^ 31 - 1 := by
  rw [← Int32.toInt_inj, Int32.toInt_ofNat_of_lt small, Int32.toInt_maxValue]
  omega

theorem count_ofNat (c : Ceiling) {n : Nat} (small : n < 2 ^ 31)
    (room : ¬ (c = .fails ∧ n = 2 ^ 31 - 1)) :
    c.count (Int32.ofNat n) = .ok (some (Int32.ofNat n, Int32.ofNat (n + 1))) := by
  rw [← ofNat_eq_maxValue_iff small] at room
  rw [count, if_neg room, Int32.ofNat_add]
  rfl

theorem count_ne_none (c : Ceiling) (n : Int32) : c.count n ≠ .ok none := by
  unfold count
  split <;> simp

end Ceiling

namespace Project

section Names

theorem numbered_ofNat {n : Nat} (small : n < 2 ^ 31) : numbered (Int32.ofNat n) = untitled n := by
  have digits : toString (Int32.ofNat n) = toString n := by
    change toString (Int32.ofNat n).toInt = toString n
    rw [Int32.toInt_ofNat_of_lt small]
    rfl
  rw [numbered, untitled, digits]

theorem numbered_ne (n : Int32) : numbered n ≠ "" := by
  intro empty
  have chars := congrArg String.toList empty
  rw [numbered, String.toList_append, String.toList_append] at chars
  cases chars

theorem names_ofNat (c : Ceiling) {n : Nat} (small : n < 2 ^ 31)
    (room : ¬ (c = .fails ∧ n = 2 ^ 31 - 1)) :
    c.count.map numbered (Int32.ofNat n) = .ok (some (untitled n, Int32.ofNat (n + 1))) := by
  rw [← numbered_ofNat small]
  exact Supply.map_of_ok numbered (c.count_ofNat small room)

theorem names_last : Ceiling.fails.count.map numbered (Int32.ofNat (2 ^ 31 - 1)) = .error ⟨⟩ := rfl

theorem exists_of_names {c : Ceiling} {n rest : Int32} {name : String}
    (given : c.count.map numbered n = .ok (some (name, rest))) : ∃ m, name = numbered m := by
  obtain ⟨own, -, same⟩ := Supply.exists_of_map given
  obtain ⟨⟨m, after⟩, -, pair⟩ := Option.map_eq_some_iff.mp same.symm
  cases pair
  exact ⟨m, rfl⟩

theorem names_ne_none (c : Ceiling) (n : Int32) : c.count.map numbered n ≠ .ok none := by
  intro ended
  obtain ⟨own, counted, same⟩ := Supply.exists_of_map ended
  rw [Option.map_eq_none_iff.mp same.symm] at counted
  exact c.count_ne_none n counted

/-- Names that are refused are passed over one by one, up to any number that the counter reaches. -/
theorem first_names (c : Ceiling) {accept : String → Bool} {n m : Nat} (small : n + m < 2 ^ 31)
    (refused : ∀ i, n ≤ i → i < n + m → accept (untitled i) = false) (tries : Nat) :
    (c.count.map numbered).first accept (m + tries) (Int32.ofNat n) =
      (c.count.map numbered).first accept tries (Int32.ofNat (n + m)) := by
  induction m generalizing tries with
  | zero => rw [Nat.zero_add, Nat.add_zero]
  | succ m ih =>
    have given := names_ofNat c (n := n + m) (by omega) (by omega)
    have one : m + 1 + tries = m + (tries + 1) := by omega
    rw [one, ih (by omega) fun i first below => refused i first (by omega)]
    exact Supply.first_of_refused given (refused (n + m) (by omega) (by omega)) tries

end Names

theorem isLeast_freeNumber (p : Project) :
    IsLeast {n | 1 ≤ n ∧ untitled n ∉ p.files.map SourceFile.name}
      (p.freeNumber 1 p.files.length) := by
  obtain ⟨positive, -, taken, -⟩ := p.freeNumber_spec 1 p.files.length
  refine ⟨⟨positive, file?_eq_none_iff.mp p.file?_freeNumber⟩, fun n ⟨first, free⟩ => ?_⟩
  by_contra below
  exact free (isSome_file?_iff.mp (taken n first (Nat.lt_of_not_le below)))

section Search

variable {p : Project}

theorem of_freeName {c : Ceiling} {tries : Nat} {found : Option String}
    (ends : InPlace.freeName c tries p = some (.ok found)) :
    ∃ name, name ≠ "" ∧ name ∉ p.files.map SourceFile.name ∧ found = some name := by
  obtain ⟨t, name, rest, given, free, rfl⟩ := Supply.exists_of_first (names_ne_none c) ends
  obtain ⟨n, rfl⟩ := exists_of_names given
  exact ⟨numbered n, numbered_ne n, file?_eq_none_iff.mp (by simpa using free), rfl⟩

variable {N : Nat} (least : IsLeast {n | 1 ≤ n ∧ untitled n ∉ p.files.map SourceFile.name} N)
include least

theorem freeName_add (c : Ceiling) {m : Nat} (before : 1 + m ≤ N) (small : N < 2 ^ 31)
    (tries : Nat) : InPlace.freeName c (m + tries) p =
      (c.count.map numbered).first (fun name => (p.file? name).isNone) tries
        (Int32.ofNat (1 + m)) := by
  refine first_names c (n := 1) (by omega) (fun i first below => ?_) tries
  have used : untitled i ∈ p.files.map SourceFile.name := by
    by_contra free
    exact absurd (least.2 ⟨first, free⟩) (by omega)
  simpa [Option.isNone_eq_false_iff] using isSome_file?_iff.mpr used

theorem freeName_eq (c : Ceiling) (small : N < 2 ^ 31) (tries : Nat) :
    InPlace.freeName c tries p =
      if tries < N then none
      else if c = .fails ∧ N = 2 ^ 31 - 1 then some (.error ⟨⟩)
      else some (.ok (some (untitled N))) := by
  obtain ⟨positive, free⟩ := least.1
  split
  case isTrue early => exact freeName_add least c (m := tries) (by omega) small 0
  case isFalse late =>
    obtain ⟨m, rfl⟩ : ∃ m, N = 1 + m := Nat.exists_eq_add_of_le positive
    obtain ⟨more, rfl⟩ : ∃ more, tries = m + (more + 1) := ⟨tries - (m + 1), by omega⟩
    rw [freeName_add least c le_rfl small]
    split
    case isTrue last =>
      obtain ⟨rfl, last⟩ := last
      rw [last]
      exact Supply.first_of_error names_last more
    case isFalse room =>
      refine Supply.first_of_accepted (names_ofNat c small room) ?_ more
      rw [file?_eq_none_iff.mpr free]
      rfl

end Search

section NewFile

variable {p : Project} {c : Ceiling} {tries : Nat}

theorem newFile_eq_map : InPlace.newFile c tries p = (InPlace.freeName c tries p).map
    (Except.map fun found => (.ok p.files.length, p.append ⟨found.getD "", ""⟩)) := by
  simp only [InPlace.newFile, InPlace.execute_append]

theorem of_newFile {r : Except Refusal Nat} {q : Project}
    (ends : InPlace.newFile c tries p = some (.ok (r, q))) :
    ∃ name, name ≠ "" ∧ name ∉ p.files.map SourceFile.name ∧
      r = .ok p.files.length ∧ q = p.append ⟨name, ""⟩ := by
  rw [newFile_eq_map] at ends
  obtain ⟨_ | found, search, result⟩ := Option.map_eq_some_iff.mp ends
  · cases result
  · obtain ⟨name, nonempty, free, rfl⟩ := of_freeName search
    cases result
    exact ⟨name, nonempty, free, rfl, rfl⟩

end NewFile

/-- Whatever names the files have, a new file in place that comes to be has a name that is not empty
and that no other file has. With fewer than `2 ^ 31 - 1` files it comes to be with a certain try, and
not before. The number of that try is the least one whose untitled name is free, and at most one above
the number of files; the file stands at the end, is selected and is to be stored, and everything else
is as it was. Only a counter that fails may do so there, and only where that number would be its
greatest. -/
theorem newFile_takes_least (p : Project) :
    (∀ c tries r q, InPlace.newFile c tries p = some (.ok (r, q)) →
      ∃ name, name ≠ "" ∧ name ∉ p.files.map SourceFile.name ∧
        r = .ok p.files.length ∧ q = p.append ⟨name, ""⟩) ∧
    (p.files.length < 2 ^ 31 - 1 →
      ∃ N, 1 ≤ N ∧ N ≤ p.files.length + 1 ∧ untitled N ≠ "" ∧
        IsLeast {n | 1 ≤ n ∧ untitled n ∉ p.files.map SourceFile.name} N ∧
        (∀ c tries, InPlace.newFile c tries p =
          if tries < N then none
          else if c = .fails ∧ N = 2 ^ 31 - 1 then some (.error ⟨⟩)
          else some (.ok (.ok p.files.length, p.newFile))) ∧
        p.newFile = { p with
          files := p.files ++ [⟨untitled N, ""⟩]
          current := p.files.length
          pending := { p.pending with files := true } }) := by
  refine ⟨fun c tries r q => of_newFile, fun few => ?_⟩
  obtain ⟨positive, bound, -⟩ := p.freeNumber_spec 1 p.files.length
  have small : p.freeNumber 1 p.files.length < 2 ^ 31 := by omega
  have least := p.isLeast_freeNumber
  refine ⟨p.freeNumber 1 p.files.length, positive, by omega, untitled_ne _, least, ?_, rfl⟩
  intro c tries
  rw [newFile_eq_map, freeName_eq least c small]
  split_ifs <;> rfl

/-- The first gap is taken, wherever the numbers around it stand. -/
theorem newFile_takes_least_gap :
    let p := { fresh with
      files := [⟨"untitled-2.wgsl", "a"⟩, ⟨"untitled-1.wgsl", ""⟩, ⟨"untitled-4.wgsl", ""⟩] }
    let q := { p with
      files := p.files ++ [⟨"untitled-3.wgsl", ""⟩], current := 3, pending := { files := true } }
    p.files.length < 2 ^ 31 - 1 ∧
      ∀ c, InPlace.newFile c 2 p = none ∧ InPlace.newFile c 3 p = some (.ok (.ok 3, q)) := by
  intro p q
  have few : p.files.length < 2 ^ 31 - 1 := by decide
  obtain ⟨N, -, -, -, least, search, -⟩ := (newFile_takes_least p).2 few
  have third : p.freeNumber 1 p.files.length = 3 := by decide +kernel
  obtain rfl : N = 3 := (least.unique p.isLeast_freeNumber).trans third
  have made : p.newFile = q := by decide +kernel
  refine ⟨few, fun c => ⟨search c 2, ?_⟩⟩
  rw [search c 3, made, if_neg (by decide), if_neg fun last => absurd last.2 (by decide)]
  rfl

def numberedFiles (n : Nat) : Project :=
  { fresh with files := (List.range' 1 n).map fun i => ⟨untitled i, ""⟩ }

theorem length_numberedFiles (n : Nat) : (numberedFiles n).files.length = n := by
  rw [numberedFiles, List.length_map, List.length_range']

theorem isLeast_numberedFiles (n : Nat) :
    IsLeast {i | 1 ≤ i ∧ untitled i ∉ (numberedFiles n).files.map SourceFile.name} (n + 1) := by
  have names (i : Nat) : untitled i ∈ (numberedFiles n).files.map SourceFile.name ↔
      1 ≤ i ∧ i < 1 + n := by
    rw [numberedFiles, List.map_map, ← List.mem_range'_1]
    exact List.mem_map_of_injective untitled_injective
  refine ⟨⟨Nat.succ_pos n, fun used => ?_⟩, fun i ⟨first, free⟩ => ?_⟩
  · have below := ((names (n + 1)).mp used).2
    omega
  · by_contra below
    exact free ((names i).mpr ⟨first, by omega⟩)

/-- A counter that fails never gives its greatest number, although that would be free: as many files
as there are numbers below it leave no new file, with however many tries. -/
theorem newFile_fails_at_ceiling :
    (numberedFiles (2 ^ 31 - 2)).files.length < 2 ^ 31 - 1 ∧
      ∀ tries, InPlace.newFile .fails tries (numberedFiles (2 ^ 31 - 2)) =
        if tries < 2 ^ 31 - 1 then none else some (.error ⟨⟩) := by
  have least : IsLeast {i | 1 ≤ i ∧
      untitled i ∉ (numberedFiles (2 ^ 31 - 2)).files.map SourceFile.name} (2 ^ 31 - 1) :=
    isLeast_numberedFiles (2 ^ 31 - 2)
  refine ⟨?_, fun tries => ?_⟩
  · rw [length_numberedFiles]
    omega
  · rw [newFile_eq_map, freeName_eq least Ceiling.fails (by omega) tries]
    split
    · rfl
    · rw [if_pos ⟨rfl, rfl⟩]
      rfl

end Project

end Playground
