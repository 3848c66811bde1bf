import Playground.Proofs.Text.Utf8
import Playground.Url.Punycode

/-!
What Punycode writes: the ASCII characters of a label, a hyphen, and digits. Main statement: each code
point that is inserted far behind the one before it takes three digits or more.
-/

namespace Playground.Url.Punycode

def isDigit (c : Char) : Bool := (digitValue? c).isSome && c.toLower == c

theorem isDigit_digit : ∀ n < base, isDigit (digit n) = true := by decide

theorem toNat_lt_of_isDigit {c : Char} (digit : isDigit c = true) : c.toNat < 0x80 := by
  refine Nat.lt_of_not_le fun large => ?_
  have none : digitValue? c = none := by
    have beyond (d : Char) (ascii : d.toNat < 0x80) : ¬ c ≤ d := fun below =>
      Nat.not_le.mpr (Nat.lt_of_le_of_lt (UInt32.le_iff_toNat_le.mp below) ascii) large
    rw [digitValue?, if_neg fun within => beyond 'z' (by decide) within.2,
      if_neg fun within => beyond 'Z' (by decide) within.2,
      if_neg fun within => beyond '9' (by decide) within.2]
  simp [isDigit, none] at digit

theorem isDigit_of_mem_digits {bias place n : Nat} {c : Char} (member : c ∈ digits bias place n) :
    isDigit c = true := by
  fun_induction digits bias place n with
  | case1 place n t small =>
    obtain rfl := List.mem_singleton.mp member
    exact isDigit_digit n (Nat.lt_trans small (threshold_lt_base bias place))
  | case2 place n t large ih =>
    obtain rfl | later := List.mem_cons.mp member
    · have below : t < base := threshold_lt_base bias place
      have rest := Nat.mod_lt (n - t) (Nat.sub_pos_of_lt below)
      exact isDigit_digit _ (by omega)
    · exact ih later

theorem forall_text_visit {p : Char → Prop} (digit : ∀ c, isDigit c = true → p c) {code : Nat}
    {w : Writer} (before : ∀ c ∈ w.text, p c) (c : Char) : ∀ d ∈ (visit code w c).text, p d := by
  unfold visit
  split
  · exact before
  · split
    · exact List.forall_mem_append.mpr
        ⟨before, fun d member => digit d (isDigit_of_mem_digits member)⟩
    · exact before

theorem forall_text_insertAll {p : Char → Prop} (digit : ∀ c, isDigit c = true → p c)
    {w : Writer} (before : ∀ c ∈ w.text, p c) (label : List Char) (code : Nat) :
    ∀ d ∈ (insertAll label w code).text, p d := by
  have each (cs : List Char) {w : Writer} (before : ∀ c ∈ w.text, p c) :
      ∀ d ∈ (cs.foldl (visit code) w).text, p d := by
    induction cs generalizing w with
    | nil => exact before
    | cons c cs ih => exact ih (forall_text_visit digit before c)
  exact each label before

theorem forall_text_foldl_insertAll {p : Char → Prop} (digit : ∀ c, isDigit c = true → p c)
    (label : List Char) (codes : List Nat) {w : Writer} (before : ∀ c ∈ w.text, p c) :
    ∀ d ∈ (codes.foldl (insertAll label) w).text, p d := by
  induction codes generalizing w with
  | nil => exact before
  | cons code codes ih => exact ih (forall_text_insertAll digit before label code)

theorem of_mem_encode {label : List Char} {c : Char} (member : c ∈ encode label) :
    (c ∈ label ∧ isAscii c = true) ∨ c = '-' ∨ isDigit c = true := by
  simp only [encode, List.mem_append] at member
  obtain lead | digits := member
  · split at lead
    · cases lead
    · obtain plain | mark := List.mem_append.mp lead
      · exact .inl (List.mem_filter.mp plain)
      · exact .inr (.inl (List.mem_singleton.mp mark))
  · exact .inr (.inr (forall_text_foldl_insertAll (fun _ own => own) label _ (by simp) c digits))

theorem threshold_le (bias place : Nat) : threshold bias place ≤ greatestThreshold := by
  unfold threshold leastThreshold greatestThreshold
  omega

theorem length_digits {bias place n : Nat} (large : threshold bias place ≤ n) :
    (digits bias place n).length =
      (digits bias (place + base)
        ((n - threshold bias place) / (base - threshold bias place))).length + 1 := by
  rw [digits]
  simp only [if_neg (Nat.not_lt.mpr large), List.length_cons]

theorem digits_ne_nil (bias place n : Nat) : digits bias place n ≠ [] := by
  fun_cases digits bias place n <;> simp

def threeDigits : Nat := 971

theorem three_le_length_digits {n : Nat} (large : threeDigits ≤ n) (bias place : Nat) :
    3 ≤ (digits bias place n).length := by
  have first := threshold_le bias place
  have second := threshold_le bias (place + base)
  rw [threeDigits] at large
  rw [greatestThreshold] at first second
  have left : 26 ≤ (n - threshold bias place) / (base - threshold bias place) := by
    rw [base, Nat.le_div_iff_mul_le (by omega)]
    omega
  rw [length_digits (by omega), length_digits (by omega)]
  have last := List.length_pos_iff.mpr (digits_ne_nil bias (place + base + base)
    (((n - threshold bias place) / (base - threshold bias place) - threshold bias (place + base)) /
      (base - threshold bias (place + base))))
  omega

/-- A writer that goes on from another one, with at least as many characters inserted. -/
structure Longer (w w' : Writer) : Prop where
  text : w.text.length ≤ w'.text.length
  count : w.count ≤ w'.count

theorem Longer.trans {w w' w'' : Writer} (first : Longer w w') (second : Longer w' w'') :
    Longer w w'' :=
  ⟨Nat.le_trans first.text second.text, Nat.le_trans first.count second.count⟩

theorem longer_visit (code : Nat) (w : Writer) (c : Char) : Longer w (visit code w c) := by
  unfold visit
  split
  · exact ⟨Nat.le_refl _, Nat.le_refl _⟩
  · split
    · exact ⟨by simp, Nat.le_succ _⟩
    · exact ⟨Nat.le_refl _, Nat.le_refl _⟩

theorem longer_foldl_visit (code : Nat) (w : Writer) (cs : List Char) :
    Longer w (cs.foldl (visit code) w) := by
  induction cs generalizing w with
  | nil => exact ⟨Nat.le_refl _, Nat.le_refl _⟩
  | cons c cs ih => exact (longer_visit code w c).trans (ih _)

theorem longer_of_mem {code : Nat} {w : Writer} {cs : List Char} (far : threeDigits ≤ w.passed)
    (member : code ∈ cs.map Char.toNat) :
    w.text.length + 3 ≤ (cs.foldl (visit code) w).text.length ∧
      w.count + 1 ≤ (cs.foldl (visit code) w).count := by
  induction cs generalizing w with
  | nil => cases member
  | cons c cs ih =>
    rw [List.foldl_cons]
    by_cases before : c.toNat < code
    · have later : code ∈ cs.map Char.toNat :=
        (List.mem_cons.mp member).resolve_left (Nat.ne_of_gt before)
      have passed : visit code w c = { w with passed := w.passed + 1 } := if_pos before
      rw [passed]
      exact ih (w := { w with passed := w.passed + 1 }) (Nat.le_succ_of_le far) later
    · by_cases own : c.toNat = code
      · have digits := three_le_length_digits far w.bias base
        have inserted : (visit code w c).text = w.text ++ Punycode.digits w.bias base w.passed ∧
            (visit code w c).count = w.count + 1 := by
          rw [visit, if_neg before, if_pos own]
          exact ⟨rfl, rfl⟩
        have rest := longer_foldl_visit code (visit code w c) cs
        have text := rest.text
        have count := rest.count
        rw [inserted.1, List.length_append] at text
        rw [inserted.2] at count
        exact ⟨by omega, count⟩
      · have later : code ∈ cs.map Char.toNat :=
          (List.mem_cons.mp member).resolve_left (Ne.symm own)
        have skipped : visit code w c = w := by rw [visit, if_neg before, if_neg own]
        rw [skipped]
        exact ih far later

theorem eraseReps_of_nodup {ns : List Nat} (distinct : ns.Nodup) : ns.eraseReps = ns := by
  have loop (n : Nat) (ns done : List Nat) (distinct : (n :: ns).Nodup) :
      List.eraseRepsBy.loop (· == ·) n ns done = done.reverse ++ n :: ns := by
    induction ns generalizing n done with
    | nil => simp [List.eraseRepsBy.loop]
    | cons m ns ih =>
      have apart : (n == m) = false := by
        rw [beq_eq_false_iff_ne]
        exact fun same => (List.nodup_cons.mp distinct).1 (same ▸ List.mem_cons_self)
      rw [List.eraseRepsBy.loop, apart, ih m (n :: done) (List.nodup_cons.mp distinct).2]
      simp
  cases ns with
  | nil => rfl
  | cons n ns => exact loop n ns [] distinct

def scattered (plain letters : Nat) : List Char :=
  List.replicate plain 'a' ++ (List.range' 0x4e00 letters 20).map Char.ofNat

section Scattered

variable {plain letters : Nat} (few : letters ≤ 1000)

theorem toNat_of_mem_range' {n : Nat} (few : letters ≤ 1000)
    (member : n ∈ List.range' 0x4e00 letters 20) :
    (Char.ofNat n).toNat = n ∧ 0x4e00 ≤ n ∧ n ≤ 0x9fff := by
  obtain ⟨i, below, rfl⟩ := List.mem_range'.mp member
  have valid : Nat.isValidChar (0x4e00 + 20 * i) := .inl (by omega)
  exact ⟨Text.Utf8.toNat_ofNat_of_isValidChar valid, by omega, by omega⟩

include few

theorem codes_scattered : codes (scattered plain letters) = List.range' 0x4e00 letters 20 := by
  have numbers : ((List.range' 0x4e00 letters 20).map Char.ofNat).map Char.toNat =
      List.range' 0x4e00 letters 20 := by
    rw [List.map_map]
    exact (List.map_congr_left fun n member => (toNat_of_mem_range' few member).1).trans
      (List.map_id _)
  have front : (List.replicate plain 'a').filter (fun c => !isAscii c) = [] := by
    rw [List.filter_eq_nil_iff]
    intro c member
    obtain rfl := List.eq_of_mem_replicate member
    decide
  have back : ((List.range' 0x4e00 letters 20).map Char.ofNat).filter (fun c => !isAscii c) =
      (List.range' 0x4e00 letters 20).map Char.ofNat := by
    rw [List.filter_eq_self]
    intro c member
    obtain ⟨n, inside, rfl⟩ := List.mem_map.mp member
    obtain ⟨value, low, -⟩ := toNat_of_mem_range' few inside
    rw [isAscii, value, firstCode]
    simp
    omega
  have increasing : (List.range' 0x4e00 letters 20).Pairwise (· < ·) :=
    List.pairwise_lt_range' 20
  rw [codes, scattered, List.filter_append, front, List.nil_append, back, numbers,
    List.mergeSort_of_pairwise (increasing.imp fun below => by simpa using Nat.le_of_lt below),
    eraseReps_of_nodup (increasing.imp Nat.ne_of_lt)]

theorem mem_scattered {n : Nat} (member : n ∈ List.range' 0x4e00 letters 20) :
    n ∈ (scattered plain letters).map Char.toNat := by
  rw [scattered, List.map_append, List.map_map, List.mem_append]
  exact .inr (List.mem_map.mpr ⟨n, member, (toNat_of_mem_range' few member).1⟩)

omit few in
theorem length_text_insertAll {label : List Char} {start count : Nat} {w : Writer}
    (known : ∀ n ∈ List.range' start count 20, n ∈ label.map Char.toNat)
    (behind : w.code + 19 ≤ start) (many : 60 ≤ w.count) :
    w.text.length + 3 * count ≤
      ((List.range' start count 20).foldl (insertAll label) w).text.length := by
  induction count generalizing start w with
  | zero => exact Nat.le_refl _
  | succ count ih =>
    rw [List.range'_succ] at known ⊢
    obtain ⟨own, later⟩ := List.forall_mem_cons.mp known
    have gap : 19 * 61 ≤ (start - w.code) * (w.count + 1) :=
      Nat.mul_le_mul (by omega) (by omega)
    have far : threeDigits ≤ w.passed + (start - w.code) * (w.count + 1) := by
      rw [threeDigits]
      omega
    obtain ⟨text, more⟩ := longer_of_mem
      (w := { w with passed := w.passed + (start - w.code) * (w.count + 1) }) far own
    have step : w.text.length + 3 ≤ (insertAll label w start).text.length := text
    have one : w.count + 1 ≤ (insertAll label w start).count := more
    have rest := ih (w := insertAll label w start) later (Nat.le_of_eq rfl) (by omega)
    rw [List.foldl_cons]
    omega

theorem le_length_encode_scattered (many : 60 ≤ plain) :
    plain + 1 + 3 * letters ≤ (encode (scattered plain letters)).length := by
  have front : (scattered plain letters).filter isAscii = List.replicate plain 'a' := by
    have none : ((List.range' 0x4e00 letters 20).map Char.ofNat).filter isAscii = [] := by
      rw [List.filter_eq_nil_iff]
      intro c member
      obtain ⟨n, inside, rfl⟩ := List.mem_map.mp member
      obtain ⟨value, low, -⟩ := toNat_of_mem_range' few inside
      rw [isAscii, value, firstCode]
      simp
      omega
    have all : (List.replicate plain 'a').filter isAscii = List.replicate plain 'a' := by
      rw [List.filter_eq_self]
      intro c member
      obtain rfl := List.eq_of_mem_replicate member
      rfl
    rw [scattered, List.filter_append, all, none, List.append_nil]
  have some : (List.replicate plain 'a').isEmpty = false := by
    rw [List.isEmpty_eq_false_iff, ne_eq, List.replicate_eq_nil_iff]
    omega
  have digits := @length_text_insertAll (scattered plain letters) 0x4e00 letters
    ⟨firstCode, 0, firstBias, plain, true, []⟩ (fun n member => mem_scattered few member)
    (Nat.le_of_ble_eq_true rfl) many
  simp only [encode, front, some, Bool.false_eq_true, if_false, List.length_append,
    List.length_replicate, codes_scattered few, List.length_singleton] at digits ⊢
  simp only [List.length_nil] at digits
  omega

end Scattered

end Playground.Url.Punycode
