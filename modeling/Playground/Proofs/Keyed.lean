import Mathlib.Data.String.Basic
import Playground.Keyed

/-!
Sorted entries. `Keyed.sorted` gives entries whose keys ascend, changes nothing where they do
already, and finds under each key what was there before if no key was repeated.
-/

namespace Playground.Keyed

variable {α : Type}

def Ascending (entries : List (String × α)) : Prop := entries.Pairwise fun a b => a.1 < b.1

theorem ascending_iff {entries : List (String × α)} :
    Ascending entries ↔ (entries.map Prod.fst).Pairwise (· < ·) :=
  List.pairwise_map.symm

theorem mem_of_mem_lastOfEach {entries : List (String × α)} {x : String × α}
    (h : x ∈ lastOfEach entries) : x ∈ entries := by
  fun_induction lastOfEach entries with
  | case1 => exact h
  | case2 => exact h
  | case3 a b rest same ih => exact List.mem_cons_of_mem a (ih h)
  | case4 a b rest different ih =>
    rw [List.mem_cons] at h ⊢
    exact h.imp_right ih

theorem ascending_lastOfEach {entries : List (String × α)}
    (ordered : entries.Pairwise fun a b => a.1 ≤ b.1) : Ascending (lastOfEach entries) := by
  fun_induction lastOfEach entries with
  | case1 => exact .nil
  | case2 entry => exact List.pairwise_singleton _ entry
  | case3 a b rest same ih => exact ih (List.pairwise_cons.mp ordered).2
  | case4 a b rest different ih =>
    obtain ⟨least, ordered⟩ := List.pairwise_cons.mp ordered
    have below : a.1 < b.1 := lt_of_le_of_ne (least b List.mem_cons_self) different
    refine List.pairwise_cons.mpr ⟨?_, ih ordered⟩
    intro x member
    obtain rfl | later := List.mem_cons.mp (mem_of_mem_lastOfEach member)
    · exact below
    · exact below.trans_le ((List.pairwise_cons.mp ordered).1 x later)

theorem lastOfEach_of_ascending {entries : List (String × α)} (h : Ascending entries) :
    lastOfEach entries = entries := by
  fun_induction lastOfEach entries with
  | case1 => rfl
  | case2 => rfl
  | case3 a b rest same ih =>
    have below := (List.pairwise_cons.mp h).1 b List.mem_cons_self
    exact absurd same below.ne
  | case4 a b rest different ih => rw [ih (List.pairwise_cons.mp h).2]

theorem pairwise_mergeSort (entries : List (String × α)) :
    (entries.mergeSort fun a b => decide (a.1 ≤ b.1)).Pairwise fun a b => a.1 ≤ b.1 := by
  have trans (a b c : String × α) (first : decide (a.1 ≤ b.1) = true)
      (second : decide (b.1 ≤ c.1) = true) : decide (a.1 ≤ c.1) = true := by
    simp only [decide_eq_true_eq] at first second ⊢
    exact first.trans second
  have total (a b : String × α) : (decide (a.1 ≤ b.1) || decide (b.1 ≤ a.1)) = true := by
    simp only [Bool.or_eq_true, decide_eq_true_eq]
    exact le_total a.1 b.1
  simpa using List.pairwise_mergeSort trans total entries

theorem mem_of_mem_sorted {entries : List (String × α)} {x : String × α} (h : x ∈ sorted entries) :
    x ∈ entries :=
  List.mem_mergeSort.mp (mem_of_mem_lastOfEach h)

theorem ascending_sorted (entries : List (String × α)) : Ascending (sorted entries) :=
  ascending_lastOfEach (pairwise_mergeSort entries)

theorem sorted_of_ascending {entries : List (String × α)} (h : Ascending entries) :
    sorted entries = entries := by
  have ordered : entries.Pairwise fun a b => decide (a.1 ≤ b.1) = true := by
    apply h.imp
    intro a b below
    exact decide_eq_true below.le
  rw [sorted, List.mergeSort_of_pairwise ordered, lastOfEach_of_ascending h]

section Lookup

theorem perm_sorted {entries : List (String × α)} (distinct : (entries.map Prod.fst).Nodup) :
    (sorted entries).Perm entries := by
  have perm := List.mergeSort_perm entries fun a b => decide (a.1 ≤ b.1)
  have strict : Ascending (entries.mergeSort fun a b => decide (a.1 ≤ b.1)) := by
    have apart := List.pairwise_map.mp ((perm.map Prod.fst).nodup_iff.mpr distinct)
    exact ((pairwise_mergeSort entries).and apart).imp fun both => lt_of_le_of_ne both.1 both.2
  rw [sorted, lastOfEach_of_ascending strict]
  exact perm

theorem lookup_eq_some_iff {entries : List (String × α)}
    (distinct : (entries.map Prod.fst).Nodup) (key : String) (value : α) :
    entries.lookup key = some value ↔ (key, value) ∈ entries := by
  induction entries with
  | nil => simp
  | cons entry rest ih =>
    obtain ⟨k, v⟩ := entry
    rw [List.map_cons, List.nodup_cons] at distinct
    by_cases same : key = k
    · subst same
      have alone : (key, value) ∉ rest := by
        intro member
        have repeated : key ∈ rest.map Prod.fst := List.mem_map_of_mem member
        exact distinct.1 repeated
      simp [alone, eq_comm]
    · have miss : (key == k) = false := by simpa using same
      simp [List.lookup_cons, miss, same, ih distinct.2]

theorem lookup_sorted {entries : List (String × α)} (distinct : (entries.map Prod.fst).Nodup)
    (key : String) : (sorted entries).lookup key = entries.lookup key := by
  have perm := perm_sorted distinct
  have distinct' := (perm.map Prod.fst).nodup_iff.mpr distinct
  apply Option.ext
  intro value
  rw [lookup_eq_some_iff distinct', lookup_eq_some_iff distinct, perm.mem_iff]

theorem lookup_eq_none_iff {entries : List (String × α)} {key : String} :
    entries.lookup key = none ↔ key ∉ entries.map Prod.fst := by
  simp only [List.lookup_eq_none_iff, bne_iff_ne, List.mem_map, not_exists, not_and]
  exact forall₂_congr fun entry member => ne_comm

theorem lookup_eq_none {entries : List (String × α)} {key : String}
    (absent : key ∉ entries.map Prod.fst) : entries.lookup key = none :=
  lookup_eq_none_iff.mpr absent

theorem mem_of_lookup {entries : List (String × α)} {key : String} {value : α}
    (found : entries.lookup key = some value) : key ∈ entries.map Prod.fst := by
  by_contra absent
  rw [lookup_eq_none absent] at found
  cases found

theorem map_fst_put {entries : List (String × α)} {key : String}
    (present : key ∈ entries.map Prod.fst) (value : α) :
    (put key value entries).map Prod.fst = entries.map Prod.fst := by
  induction entries with
  | nil => cases present
  | cons entry rest ih =>
    unfold put
    split
    case isTrue same => simp [same]
    case isFalse apart =>
      obtain rfl | later := List.mem_cons.mp present
      · exact absurd rfl apart
      · simp [ih later]

theorem map_fst_put_of_absent {entries : List (String × α)} {key : String}
    (absent : key ∉ entries.map Prod.fst) (value : α) :
    (put key value entries).map Prod.fst = entries.map Prod.fst ++ [key] := by
  induction entries with
  | nil => rfl
  | cons entry rest ih =>
    rw [List.map_cons, List.mem_cons, not_or] at absent
    have apart : entry.1 ≠ key := Ne.symm absent.1
    simp [put, apart, ih absent.2]

theorem nodup_put {entries : List (String × α)} (distinct : (entries.map Prod.fst).Nodup)
    (key : String) (value : α) : ((put key value entries).map Prod.fst).Nodup := by
  by_cases present : key ∈ entries.map Prod.fst
  · rwa [map_fst_put present]
  · rw [map_fst_put_of_absent present, List.nodup_append]
    refine ⟨distinct, by simp, fun k known last new => ?_⟩
    rw [List.mem_singleton.mp new]
    exact ne_of_mem_of_not_mem known present

theorem put_put_of_lookup {entries : List (String × α)} {key : String} {own : α}
    (found : entries.lookup key = some own) (value : α) :
    put key own (put key value entries) = entries := by
  induction entries with
  | nil => cases found
  | cons entry rest ih =>
    obtain ⟨k, v⟩ := entry
    by_cases same : k = key
    · subst same
      have first : v = own := by simpa using found
      simp [put, first]
    · have miss : (key == k) = false := by simpa using Ne.symm same
      have later := ih (by simpa [List.lookup_cons, miss] using found)
      simp [put, same, later]

end Lookup

section Values

variable {β : Type}

theorem lookup_map_value (entries : List (String × α)) (g : String → α → β) (key : String) :
    (entries.map fun m => (m.1, g m.1 m.2)).lookup key = (entries.lookup key).map (g key) := by
  induction entries with
  | nil => rfl
  | cons m entries ih =>
    obtain ⟨k, value⟩ := m
    by_cases same : key = k
    · subst same
      simp
    · have miss : (key == k) = false := by simpa using same
      simpa [List.lookup_cons, miss] using ih

theorem put_eq_map {entries : List (String × α)} (distinct : (entries.map Prod.fst).Nodup)
    {key : String} (present : key ∈ entries.map Prod.fst) (value : α) :
    put key value entries = entries.map fun m => (m.1, if m.1 = key then value else m.2) := by
  induction entries with
  | nil => cases present
  | cons m entries ih =>
    obtain ⟨k, own⟩ := m
    rw [List.map_cons, List.nodup_cons] at distinct
    by_cases same : k = key
    · subst same
      have others : ∀ n ∈ entries, (n.1, if n.1 = k then value else n.2) = n := by
        intro n member
        have known : n.1 ∈ entries.map Prod.fst := List.mem_map_of_mem member
        have apart : n.1 ≠ k := fun same => distinct.1 (same ▸ known)
        simp [apart]
      simp [put, List.map_congr_left others]
    · have later : key ∈ entries.map Prod.fst := by simpa [Ne.symm same] using present
      simp [put, same, ih distinct.2 later]

theorem lastOfEach_map_value (entries : List (String × α)) (g : String → α → β) :
    lastOfEach (entries.map fun m => (m.1, g m.1 m.2)) =
      (lastOfEach entries).map fun m => (m.1, g m.1 m.2) := by
  fun_induction lastOfEach entries with
  | case1 => rfl
  | case2 => rfl
  | case3 a b rest same ih => simpa [lastOfEach, same] using ih
  | case4 a b rest different ih => simpa [lastOfEach, different] using ih

theorem sorted_map_value (entries : List (String × α)) (g : String → α → β) :
    sorted (entries.map fun m => (m.1, g m.1 m.2)) =
      (sorted entries).map fun m => (m.1, g m.1 m.2) := by
  rw [sorted, ← List.map_mergeSort, lastOfEach_map_value, sorted]
  intro a _ b _
  rfl

end Values

end Playground.Keyed
