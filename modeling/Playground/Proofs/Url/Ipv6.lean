import Mathlib.Algebra.GroupWithZero.Nat
import Mathlib.Data.List.Induction
import Playground.Proofs.Text.Hex
import Playground.Proofs.Url.Reread

/-!
Addresses of eight pieces. The text of an address leaves out one run of zeros, where a double colon
stands. Main statement: an address that was read is read again from its text.
-/

namespace Playground.Url

namespace Ipv4

theorem digits?_concat (base : Nat) (cs : List Char) (c : Char) :
    digits? base (cs ++ [c]) = (digits? base cs).bind fun n => (Text.Hex.value? c).bind fun d =>
      if d < base then some (n * base + d) else none := by
  rw [digits?, List.foldl_append]
  rfl

theorem lt_of_digits? {base : Nat} {cs : List Char} {n : Nat} (read : digits? base cs = some n) :
    n < base ^ cs.length := by
  induction cs using List.reverseRecOn generalizing n with
  | nil =>
    obtain rfl := Option.some.inj read
    exact Nat.one_pos
  | append_singleton cs c ih =>
    rw [digits?_concat] at read
    obtain ⟨m, front, read⟩ := Option.bind_eq_some_iff.mp read
    obtain ⟨d, -, read⟩ := Option.bind_eq_some_iff.mp read
    obtain ⟨small, own⟩ := Option.ite_none_right_eq_some.mp read
    obtain rfl := Option.some.inj own
    have most : m + 1 ≤ base ^ cs.length := ih front
    calc m * base + d < (m + 1) * base := by rw [Nat.add_mul]; omega
      _ ≤ base ^ cs.length * base := Nat.mul_le_mul_right base most
      _ = base ^ (cs ++ [c]).length := by rw [List.length_append, List.length_singleton, Nat.pow_succ]

theorem digits?_ofNat (n : Nat) : digits? 16 (Text.Hex.ofNat n) = some n := by
  fun_induction Text.Hex.ofNat n with
  | case1 n small =>
    have value := Text.Hex.value?_digit n small
    simp [digits?, value, small]
  | case2 n large ih =>
    have small : n % 16 < 16 := Nat.mod_lt n (by decide)
    rw [digits?_concat, ih, Text.Hex.value?_digit _ small, Option.bind_some, Option.bind_some,
      if_pos small, Nat.mul_comm, Nat.div_add_mod]

end Ipv4

namespace Ipv6

def maxPiece : Nat := 16 ^ 4

theorem length_ofNat_le {n k : Nat} (small : n < 16 ^ (k + 1)) :
    (Text.Hex.ofNat n).length ≤ k + 1 := by
  induction k generalizing n with
  | zero =>
    rw [Text.Hex.ofNat, if_pos (by simpa using small)]
    exact Nat.le_refl _
  | succ k ih =>
    rw [Text.Hex.ofNat]
    split
    · simp
    · have rest := ih (n := n / 16) (Nat.div_lt_of_lt_mul (by rwa [Nat.mul_comm, ← Nat.pow_succ]))
      rw [List.length_append, List.length_singleton]
      omega

/-- Pieces that are read so far, in number and size. -/
structure Partial.Small (p : Partial) : Prop where
  few : p.pieces.length ≤ 8
  small : ∀ n ∈ p.pieces, n < maxPiece

theorem small_cons {p : Partial} (own : p.Small) (room : p.pieces.length ≠ 8) {n : Nat}
    (small : n < maxPiece) (gap : Option Nat) : Partial.Small ⟨n :: p.pieces, gap⟩ := by
  have few := own.few
  refine ⟨?_, List.forall_mem_cons.mpr ⟨small, own.small⟩⟩
  simp only [List.length_cons]
  omega

theorem le_of_decimal? {cs : List Char} {n : Nat} (read : decimal? cs = some n) : n ≤ 255 := by
  unfold decimal? at read
  split at read
  · cases read
  · cases read
    decide
  · cases read
  · obtain ⟨-, read⟩ := Option.ite_none_right_eq_some.mp read
    obtain ⟨-, small⟩ := Option.filter_eq_some_iff.mp read
    exact of_decide_eq_true small

theorem small_of_embedded? {cs : List Char} {two : List Nat} (read : embedded? cs = some two) :
    two.length = 2 ∧ ∀ n ∈ two, n < maxPiece := by
  unfold embedded? at read
  split at read
  case h_1 a b c d each =>
    have small : ∀ n ∈ [a, b, c, d], n ≤ 255 := fun n member => by
      obtain ⟨part, -, own⟩ := of_mem_mapM each member
      exact le_of_decimal? own
    simp only [List.forall_mem_cons] at small
    obtain rfl := Option.some.inj read
    simp only [List.forall_mem_cons, List.length_cons, List.length_nil, maxPiece]
    exact ⟨trivial, by omega, by omega, by simp⟩
  case h_2 => cases read

theorem small_piece (cs : List Char) :
    (Ipv4.digits? 16 ((cs.take 4).takeWhile Text.Hex.isDigit)).getD 0 < maxPiece := by
  have length : ((cs.take 4).takeWhile Text.Hex.isDigit).length ≤ 4 :=
    Nat.le_trans (List.takeWhile_sublist _).length_le (List.length_take_le 4 cs)
  cases read : Ipv4.digits? 16 ((cs.take 4).takeWhile Text.Hex.isDigit) with
  | none => decide
  | some n =>
    exact Nat.lt_of_lt_of_le (Ipv4.lt_of_digits? read) (Nat.pow_le_pow_right (by decide) length)

theorem small_of_pieces? {steps : Nat} {p q : Partial} {cs : List Char} (own : p.Small)
    (read : pieces? steps p cs = some q) : q.Small := by
  fun_induction pieces? steps p cs
  case case1 =>
    obtain rfl := Option.some.inj read
    exact own
  case case5 room _ ih => exact ih (small_cons own room (by decide) _) read
  case case6 room _ _ _ _ _ =>
    obtain rfl := Option.some.inj read
    exact small_cons own room (small_piece _) _
  case case9 few =>
    obtain ⟨two, embedded, rfl⟩ := Option.map_eq_some_iff.mp read
    obtain ⟨length, small⟩ := small_of_embedded? embedded
    simp only [Bool.or_eq_true, decide_eq_true_eq, not_or] at few
    refine ⟨?_, List.forall_mem_append.mpr ⟨small, own.small⟩⟩
    rw [List.length_append, length]
    omega
  case case11 room _ _ _ _ _ _ _ ih => exact ih (small_cons own room (small_piece _) _) read
  all_goals cases read

/-- The pieces of an address. -/
structure IsAddress (pieces : List Nat) : Prop where
  eight : pieces.length = 8
  small : ∀ n ∈ pieces, n < maxPiece

theorem isAddress_of_fill {p : Partial} {pieces : List Nat} (own : p.Small)
    (filled : fill p = some pieces) : IsAddress pieces := by
  obtain ⟨few, small⟩ := own
  unfold fill at filled
  simp only at filled
  split at filled
  · obtain ⟨eight, filled⟩ := Option.ite_none_right_eq_some.mp filled
    obtain rfl := Option.some.inj filled
    exact ⟨eight, fun n member => small n (List.mem_reverse.mp member)⟩
  case h_2 gap _ =>
    obtain rfl := Option.some.inj filled
    constructor
    · have whole := congrArg List.length (List.take_append_drop gap p.pieces.reverse)
      rw [List.length_append, List.length_reverse] at whole
      simp only [List.length_append, List.length_replicate, List.length_reverse]
      omega
    · intro n member
      rw [List.mem_append, List.mem_append, List.mem_replicate] at member
      obtain (front | ⟨-, rfl⟩) | back := member
      · exact small n (List.mem_reverse.mp (List.mem_of_mem_take front))
      · decide
      · exact small n (List.mem_reverse.mp (List.mem_of_mem_drop back))

theorem pieces_of_start? {cs rest : List Char} {p : Partial} (start : start? cs = some (p, rest)) :
    p.pieces = [0] ∨ p.pieces = [] := by
  unfold start? at start
  split at start
  · cases start
  · cases start
  · split at start
    · cases start
      exact .inr rfl
    · split at start <;> cases start
      exact .inl rfl

theorem isAddress_of_read {cs : List Char} {pieces : List Nat} (read : read cs = .ok pieces) :
    IsAddress pieces := by
  rw [Ipv6.read] at read
  split at read
  case h_1 all found =>
    cases read
    obtain ⟨⟨p, rest⟩, start, found⟩ := Option.bind_eq_some_iff.mp found
    obtain ⟨q, taken, filled⟩ := Option.bind_eq_some_iff.mp found
    refine isAddress_of_fill (small_of_pieces? ?_ taken) filled
    obtain first | none := pieces_of_start? start
    · exact ⟨by simp [first], by simp [first, maxPiece]⟩
    · exact ⟨by simp [none], by simp [none]⟩
  case h_2 => cases read

def joined (ns : List Nat) : List Char := [':'].intercalate (ns.map Text.Hex.ofNat)

theorem toList_colons (ns : List Nat) : (colons ns).toList = joined ns := by
  rw [colons, joined, String.toList_intercalate, List.map_map]
  congr 1
  exact List.map_congr_left fun n _ => String.toList_ofList

theorem joined_cons (m n : Nat) (ns : List Nat) :
    joined (m :: n :: ns) = Text.Hex.ofNat m ++ ':' :: joined (n :: ns) := by
  rw [joined, List.map_cons, List.map_cons, List.intercalate_cons_cons, List.append_assoc]
  rfl

theorem joined_ne_nil (n : Nat) (ns : List Nat) : joined (n :: ns) ≠ [] := by
  cases ns with
  | nil =>
    have single : joined [n] = Text.Hex.ofNat n := List.intercalate_singleton
    rw [single]
    exact Text.Hex.ofNat_ne_nil n
  | cons m ns =>
    rw [joined_cons]
    simp

section Piece

variable {n : Nat} (small : n < maxPiece)
include small

theorem digits_piece {tail : List Char} (ends : ∀ c ∈ tail.head?, c = ':') :
    ((Text.Hex.ofNat n ++ tail).take 4).takeWhile Text.Hex.isDigit = Text.Hex.ofNat n := by
  have length : (Text.Hex.ofNat n).length ≤ 4 := length_ofNat_le small
  have rest : (tail.take (4 - (Text.Hex.ofNat n).length)).takeWhile Text.Hex.isDigit = [] := by
    cases tail with
    | nil => simp
    | cons c tail =>
      obtain rfl := ends c rfl
      cases 4 - (Text.Hex.ofNat n).length <;> simp [Text.Hex.isDigit]
  rw [List.take_append, List.take_of_length_le length, List.takeWhile_append_of_pos, rest,
    List.append_nil]
  exact fun c member => Text.Hex.isDigit_of_mem_ofNat member

theorem pieces?_digits {p : Partial} (room : p.pieces.length < 8) {tail : List Char}
    (ends : ∀ c ∈ tail.head?, c = ':') (steps : Nat) :
    pieces? (steps + 1) p (Text.Hex.ofNat n ++ tail) =
      match (motive := List Char → Option Partial) tail with
      | [] => some { p with pieces := n :: p.pieces }
      | [_] => none
      | _ :: after => pieces? steps { p with pieces := n :: p.pieces } after := by
  have digits := digits_piece small ends
  have after : (Text.Hex.ofNat n ++ tail).drop (Text.Hex.ofNat n).length = tail := List.drop_left
  have value := Ipv4.digits?_ofNat n
  have isDigit : ∀ c ∈ Text.Hex.ofNat n, c ≠ ':' := by
    rintro c member rfl
    cases Text.Hex.isDigit_of_mem_ofNat member
  cases written : Text.Hex.ofNat n with
  | nil => exact absurd written (Text.Hex.ofNat_ne_nil n)
  | cons c cs =>
    rw [written] at digits after value isDigit
    rw [List.cons_append] at digits after ⊢
    rw [pieces?]
    simp only [if_neg (Nat.ne_of_lt room), if_neg (isDigit c List.mem_cons_self), digits, after,
      value, Option.getD_some]
    cases tail with
    | nil => rfl
    | cons d tail =>
      obtain rfl := ends d rfl
      cases tail <;> rfl

end Piece

theorem pieces?_joined {ns : List Nat} (small : ∀ n ∈ ns, n < maxPiece) {p : Partial}
    (room : p.pieces.length + ns.length ≤ 8) {steps : Nat} (enough : ns.length ≤ steps) :
    pieces? steps p (joined ns) = some { p with pieces := ns.reverse ++ p.pieces } := by
  induction ns generalizing p steps with
  | nil => cases steps <;> rfl
  | cons n ns ih =>
    obtain ⟨own, small⟩ := List.forall_mem_cons.mp small
    rw [List.length_cons] at room enough
    obtain ⟨steps, rfl⟩ := Nat.exists_eq_add_of_le' (Nat.lt_of_lt_of_le (Nat.succ_pos _) enough)
    cases ns with
    | nil =>
      have single : joined [n] = Text.Hex.ofNat n ++ [] := by
        rw [joined, List.map_singleton, List.intercalate_singleton, List.append_nil]
      rw [single]
      exact pieces?_digits own (by omega) (by simp) steps
    | cons m ns =>
      have rest := ih small (p := { p with pieces := n :: p.pieces })
        (by simp only [List.length_cons] at room ⊢; omega) (Nat.le_of_succ_le_succ enough)
      have more := joined_ne_nil m ns
      rw [joined_cons, pieces?_digits own (by omega) (by simp)]
      cases following : joined (m :: ns) with
      | nil => exact absurd following more
      | cons c cs =>
        rw [following] at rest
        simpa using rest

theorem pieces?_joined_append {ns : List Nat} (some : ns ≠ []) (small : ∀ n ∈ ns, n < maxPiece)
    {p : Partial} (room : p.pieces.length + ns.length ≤ 8) {rest : List Char} (more : rest ≠ [])
    (steps : Nat) :
    pieces? (steps + ns.length) p (joined ns ++ ':' :: rest) =
      pieces? steps { p with pieces := ns.reverse ++ p.pieces } rest := by
  induction ns generalizing p with
  | nil => exact absurd rfl some
  | cons n ns ih =>
    obtain ⟨own, small⟩ := List.forall_mem_cons.mp small
    rw [List.length_cons] at room
    obtain ⟨c, cs, rfl⟩ := List.exists_cons_of_ne_nil more
    cases ns with
    | nil =>
      have single : joined [n] = Text.Hex.ofNat n := List.intercalate_singleton
      rw [single, List.length_singleton, pieces?_digits own (by omega) (by simp)]
      rfl
    | cons m ns =>
      have next := ih (List.cons_ne_nil m ns) small (p := { p with pieces := n :: p.pieces })
        (by simp only [List.length_cons] at room ⊢; omega)
      obtain ⟨d, ds, following⟩ := List.exists_cons_of_ne_nil (joined_ne_nil m ns)
      rw [joined_cons, List.append_assoc, List.cons_append, List.length_cons,
        ← Nat.add_assoc, pieces?_digits own (by omega) (by simp)]
      rw [following] at next ⊢
      simpa using next

theorem pieces?_gap {p : Partial} (room : p.pieces.length < 8) (open' : p.gap = none)
    (rest : List Char) (steps : Nat) : pieces? (steps + 1) p (':' :: rest) =
      pieces? steps ⟨0 :: p.pieces, some (p.pieces.length + 1)⟩ rest := by
  rw [pieces?]
  simp [Nat.ne_of_lt room, open']

theorem of_longer {best : Option (Nat × Nat)} {run chosen : Nat × Nat}
    (long : ∀ b ∈ best, 2 ≤ b.2) (found : longer best run = some chosen) :
    best = some chosen ∨ chosen = run ∧ 2 ≤ run.2 := by
  cases best with
  | none =>
    obtain ⟨long, found⟩ := Option.ite_none_right_eq_some.mp found
    exact .inr ⟨(Option.some.inj found).symm, long⟩
  | some b =>
    have least := long b rfl
    rw [longer] at found
    split at found
    · exact .inr ⟨(Option.some.inj found).symm, by omega⟩
    · exact .inl found

theorem of_longestRun {pieces : List Nat} {start length : Nat}
    (found : longestRun pieces = some (start, length)) :
    start < pieces.length ∧ length = zeros (pieces.drop start) ∧ 2 ≤ length := by
  have from' {runs : List (Nat × Nat)} {best : Option (Nat × Nat)} (long : ∀ b ∈ best, 2 ≤ b.2)
      {chosen : Nat × Nat} (found : runs.foldl longer best = some chosen) :
      2 ≤ chosen.2 ∧ (best = some chosen ∨ chosen ∈ runs) := by
    induction runs generalizing best with
    | nil => exact ⟨long chosen found, .inl found⟩
    | cons run runs ih =>
      have longs : ∀ b ∈ longer best run, 2 ≤ b.2 := by
        intro b member
        obtain first | ⟨rfl, own⟩ := of_longer long member
        · exact long b first
        · exact own
      obtain ⟨own, first | later⟩ := ih longs found
      · obtain before | ⟨rfl, -⟩ := of_longer long first
        · exact ⟨own, .inl before⟩
        · exact ⟨own, .inr List.mem_cons_self⟩
      · exact ⟨own, .inr (List.mem_cons_of_mem run later)⟩
  obtain ⟨own, none | member⟩ := from' (by simp) found
  · cases none
  · obtain ⟨i, inside, same⟩ := List.mem_map.mp member
    cases same
    exact ⟨List.mem_range.mp inside, rfl, own⟩

theorem zeros_spec (pieces : List Nat) :
    pieces = List.replicate (zeros pieces) 0 ++ pieces.drop (zeros pieces) := by
  induction pieces with
  | nil => rfl
  | cons n pieces ih =>
    by_cases zero : n = 0
    · have count : zeros (n :: pieces) = zeros pieces + 1 := by simp [zeros, zero]
      rw [count, List.replicate_succ, List.drop_succ_cons, List.cons_append, ← ih, zero]
    · have count : zeros (n :: pieces) = 0 := by simp [zeros, zero]
      rw [count]
      rfl

def inner (pieces : List Nat) : List Char :=
  match longestRun pieces with
  | none => joined pieces
  | some (start, length) =>
    joined (pieces.take start) ++ ':' :: ':' :: joined (pieces.drop (start + length))

theorem toList_text (pieces : List Nat) : (text pieces).toList = '[' :: (inner pieces ++ [']']) := by
  unfold text inner
  cases longestRun pieces with
  | none =>
    show ("[" ++ colons pieces ++ "]").toList = _
    simp [toList_colons]
  | some run =>
    show ("[" ++ colons (pieces.take run.1) ++ "::" ++ colons (pieces.drop (run.1 + run.2)) ++
      "]").toList = _
    simp [toList_colons]

theorem read_of_start? {cs rest : List Char} {p : Partial} {pieces : List Nat}
    (start : start? cs = some (p, rest))
    (found : (pieces? rest.length p rest).bind fill = some pieces) : read cs = .ok pieces := by
  rw [Ipv6.read, start, Option.bind_some]
  simp only [found]

theorem read_digit {c : Char} (digit : c ≠ ':') {rest : List Char} (more : rest ≠ [])
    {pieces : List Nat}
    (found : (pieces? (c :: rest).length ⟨[], none⟩ (c :: rest)).bind fill = some pieces) :
    read (c :: rest) = .ok pieces := by
  obtain ⟨d, ds, rfl⟩ := List.exists_cons_of_ne_nil more
  exact read_of_start? (if_pos digit) found

theorem read_double {rest : List Char} {pieces : List Nat}
    (found : (pieces? rest.length ⟨[0], some 1⟩ rest).bind fill = some pieces) :
    read (':' :: ':' :: rest) = .ok pieces :=
  read_of_start? rfl found

theorem joined_eq (n : Nat) (ns : List Nat) : ∃ c cs, joined (n :: ns) = c :: cs ∧ c ≠ ':' ∧
    (ns ≠ [] → cs ≠ []) := by
  obtain ⟨c, cs, written⟩ := List.exists_cons_of_ne_nil (Text.Hex.ofNat_ne_nil n)
  have digit : c ≠ ':' := by
    rintro rfl
    have own : ':' ∈ Text.Hex.ofNat n := written ▸ List.mem_cons_self
    cases Text.Hex.isDigit_of_mem_ofNat own
  cases ns with
  | nil =>
    refine ⟨c, cs, ?_, digit, by simp⟩
    rw [← written]
    exact List.intercalate_singleton
  | cons m ns =>
    refine ⟨c, cs ++ ':' :: joined (m :: ns), ?_, digit, by simp⟩
    rw [joined_cons, written]
    rfl

theorem length_le_joined (ns : List Nat) : ns.length ≤ (joined ns).length := by
  induction ns with
  | nil => exact Nat.zero_le _
  | cons n ns ih =>
    cases ns with
    | nil => exact List.length_pos_iff.mpr (joined_ne_nil n [])
    | cons m ns =>
      have some := List.length_pos_iff.mpr (Text.Hex.ofNat_ne_nil n)
      rw [joined_cons, List.length_append, List.length_cons (a := ':'), List.length_cons]
      omega

theorem read_joined {pieces : List Nat} (address : IsAddress pieces) :
    read (joined pieces) = .ok pieces := by
  obtain ⟨eight, small⟩ := address
  have filled := pieces?_joined small (p := ⟨[], none⟩) (by simp [eight]) (length_le_joined pieces)
  cases pieces with
  | nil => cases eight
  | cons n ns =>
    obtain ⟨c, cs, written, digit, more⟩ := joined_eq n ns
    rw [written] at filled ⊢
    refine read_digit digit (more ?_) ?_
    · rintro rfl
      cases eight
    · rw [filled, Option.bind_some, fill]
      simp [eight]

theorem fill_gap {front back : List Nat} {more : Nat}
    (eight : front.length + (more + 1 + back.length) = 8) :
    fill ⟨back.reverse ++ 0 :: front.reverse, some (front.length + 1)⟩ =
      some (front ++ (List.replicate (more + 1) 0 ++ back)) := by
  have all : (back.reverse ++ 0 :: front.reverse).reverse = (front ++ [0]) ++ back := by simp
  have size : front.length + 1 = (front ++ [0]).length := by simp
  have left : 8 - ((front ++ [0]) ++ back).length = more := by
    simp only [List.length_append, List.length_singleton]
    omega
  rw [fill, all]
  simp only [left]
  rw [size, List.take_left, List.drop_left, List.replicate_succ]
  simp

theorem read_run {front back : List Nat} {length : Nat} (long : 2 ≤ length)
    (address : IsAddress (front ++ (List.replicate length 0 ++ back))) :
    read (joined front ++ ':' :: ':' :: joined back) =
      .ok (front ++ (List.replicate length 0 ++ back)) := by
  obtain ⟨eight, small⟩ := address
  rw [List.length_append, List.length_append, List.length_replicate] at eight
  rw [List.forall_mem_append, List.forall_mem_append] at small
  obtain ⟨first, -, last⟩ := small
  obtain ⟨more, rfl⟩ := Nat.exists_eq_add_of_le' (Nat.le_trans (by decide) long : 1 ≤ length)
  have filled := fill_gap eight
  cases front with
  | nil =>
    refine read_double ?_
    rw [pieces?_joined last (by simp; omega) (length_le_joined back), Option.bind_some]
    exact filled
  | cons n ns =>
    obtain ⟨c, cs, written, digit, -⟩ := joined_eq n ns
    have room := length_le_joined (n :: ns)
    have enough := length_le_joined back
    obtain ⟨steps, fuel⟩ : ∃ steps, (joined (n :: ns) ++ ':' :: ':' :: joined back).length =
        steps + 1 + (n :: ns).length ∧ back.length ≤ steps := by
      refine ⟨(joined (n :: ns)).length + (joined back).length + 1 - (n :: ns).length, ?_, ?_⟩
      · simp only [List.length_append, List.length_cons (a := ':')]
        omega
      · omega
    have rest : pieces? (steps + 1) ⟨(n :: ns).reverse, none⟩ (':' :: joined back) =
        some ⟨back.reverse ++ 0 :: (n :: ns).reverse, some ((n :: ns).reverse.length + 1)⟩ := by
      rw [pieces?_gap (by simp at eight ⊢; omega) rfl]
      exact pieces?_joined last (by simp at eight ⊢; omega) fuel.2
    have taken := pieces?_joined_append (List.cons_ne_nil n ns) first (p := ⟨[], none⟩)
      (by simp at eight ⊢; omega) (List.cons_ne_nil ':' (joined back)) (steps + 1)
    rw [List.append_nil, rest, ← fuel.1] at taken
    rw [written, List.cons_append] at taken ⊢
    refine read_digit digit (by simp) ?_
    rw [taken, Option.bind_some, List.length_reverse]
    exact filled

theorem read_inner {pieces : List Nat} (address : IsAddress pieces) :
    read (inner pieces) = .ok pieces := by
  unfold inner
  split
  · exact read_joined address
  · rename_i start length found
    obtain ⟨within, own, long⟩ := of_longestRun found
    have back := zeros_spec (pieces.drop start)
    rw [← own, List.drop_drop] at back
    have whole : pieces = pieces.take start ++
        (List.replicate length 0 ++ pieces.drop (start + length)) := by
      rw [← back, List.take_append_drop]
    have again : IsAddress (pieces.take start ++
        (List.replicate length 0 ++ pieces.drop (start + length))) := by rwa [← whole]
    have read := read_run long again
    rwa [← whole] at read

end Ipv6

end Playground.Url
