import Playground.Proofs.Text.Utf8
import Playground.Proofs.Unicode.Parts

/-!
Normal forms. Marks in the order of their classes stay as they are, and taking a composed text apart
and putting its marks in order gives the text that was composed. Main statements: a normal form is
its own normal form, and so is what stands between its dots.
-/

namespace Playground.Unicode

/-- Whether a character may stand right after another one in a text whose marks are in order. -/
def Follows (m n : Nat) : Prop := combiningClass n = 0 ∨ combiningClass m ≤ combiningClass n

section Order

variable {m n : Nat} {ns : List Nat}

theorem placeMark_of_follows (follows : ∀ m ∈ ns.head?, Follows n m) :
    placeMark n ns = n :: ns := by
  cases ns with
  | nil => rfl
  | cons m ns =>
    have next : Follows n m := follows m rfl
    rw [placeMark, if_neg]
    rintro ⟨marked, below⟩
    exact next.elim marked (Nat.not_le.mpr below)

theorem of_mem_head?_placeMark {k : Nat} (member : k ∈ (placeMark n ns).head?) :
    k = n ∨ k ∈ ns.head? := by
  cases ns with
  | nil => exact .inl (Option.some.inj member).symm
  | cons m ns =>
    rw [placeMark] at member
    split at member
    · exact .inr member
    · exact .inl (Option.some.inj member).symm

theorem isChain_placeMark (ordered : ns.IsChain Follows) (n : Nat) :
    (placeMark n ns).IsChain Follows := by
  induction ns with
  | nil => exact .singleton n
  | cons m ns ih =>
    rw [placeMark]
    split
    case isTrue behind =>
      obtain ⟨next, ordered⟩ := List.isChain_cons.mp ordered
      refine List.isChain_cons.mpr ⟨fun k member => ?_, ih ordered⟩
      obtain rfl | later := of_mem_head?_placeMark member
      · exact .inr (Nat.le_of_lt behind.2)
      · exact next k later
    case isFalse before =>
      refine .cons_cons ?_ ordered
      by_cases single : combiningClass m = 0
      · exact .inl single
      · exact .inr (Nat.le_of_not_lt fun below => before ⟨single, below⟩)

theorem isChain_order (ns : List Nat) : (order ns).IsChain Follows := by
  induction ns with
  | nil => exact .nil
  | cons n ns ih => exact isChain_placeMark ih n

theorem order_of_isChain (ordered : ns.IsChain Follows) : order ns = ns := by
  induction ns with
  | nil => rfl
  | cons n ns ih =>
    have rest : order (n :: ns) = placeMark n (order ns) := rfl
    obtain ⟨next, ordered⟩ := List.isChain_cons.mp ordered
    rw [rest, ih ordered, placeMark_of_follows next]

/-- Marks of different classes may be put in their places in either order. -/
theorem placeMark_comm {a b : Nat} (marked : combiningClass a ≠ 0)
    (below : combiningClass a < combiningClass b) (ns : List Nat) :
    placeMark b (placeMark a ns) = placeMark a (placeMark b ns) := by
  have first (ns : List Nat) : placeMark b (a :: ns) = a :: placeMark b ns := by
    rw [placeMark, if_pos ⟨marked, below⟩]
  induction ns with
  | nil =>
    have last : placeMark a [b] = [a, b] :=
      placeMark_of_follows (by simp [Follows, Nat.le_of_lt below])
    rw [placeMark, first, placeMark, last]
  | cons m ns ih =>
    by_cases behind : combiningClass m ≠ 0 ∧ combiningClass m < combiningClass a
    · have both := Nat.lt_trans behind.2 below
      have each (n : Nat) (above : combiningClass m < combiningClass n) (ns : List Nat) :
          placeMark n (m :: ns) = m :: placeMark n ns := by rw [placeMark, if_pos ⟨behind.1, above⟩]
      rw [each a behind.2, each b both, each b both, each a behind.2, ih]
    · have front : placeMark a (m :: ns) = a :: m :: ns := by rw [placeMark, if_neg behind]
      rw [front, first]
      refine (placeMark_of_follows fun k member => ?_).symm
      obtain rfl | own := of_mem_head?_placeMark member
      · exact .inr (Nat.le_of_lt below)
      · obtain rfl := Option.some.inj own
        by_cases single : combiningClass m = 0
        · exact .inl single
        · exact .inr (Nat.le_of_not_lt fun small => behind ⟨single, small⟩)

theorem order_append (ms ns : List Nat) : order (ms ++ ns) = ms.foldr placeMark (order ns) :=
  List.foldr_append

/-- A mark may be put before others of lower classes. -/
theorem order_marks_append {marks : List Nat} (marked : ∀ m ∈ marks, combiningClass m ≠ 0)
    (below : ∀ m ∈ marks, combiningClass m < combiningClass n) (ns : List Nat) :
    order (marks ++ n :: ns) = order (n :: (marks ++ ns)) := by
  induction marks with
  | nil => rfl
  | cons m marks ih =>
    obtain ⟨own, marked⟩ := List.forall_mem_cons.mp marked
    obtain ⟨least, below⟩ := List.forall_mem_cons.mp below
    show placeMark m (order (marks ++ n :: ns)) = placeMark n (placeMark m (order (marks ++ ns)))
    rw [ih marked below, placeMark_comm own least]
    rfl

end Order

def takenApart (ns : List Nat) : List Nat := ns.flatMap (decompose depth)

theorem takenApart_of_flat {ns : List Nat} (flat : ∀ n ∈ ns, Flat n) : takenApart ns = ns := by
  have each : ns.map (decompose depth) = ns.map fun n => [n] :=
    List.map_congr_left fun n member => (flat n member).decompose_eq depth
  rw [takenApart, List.flatMap, each, ← List.flatMap_def]
  exact List.flatMap_singleton' ns

theorem takenApart_cons (n : Nat) (ns : List Nat) :
    takenApart (n :: ns) = decompose depth n ++ takenApart ns := List.flatMap_cons

theorem takenApart_append (ms ns : List Nat) :
    takenApart (ms ++ ns) = takenApart ms ++ takenApart ns := List.flatMap_append

/-- Marks that wait behind a letter, the last one first, and what follows them. -/
structure Waiting (marks rest : List Nat) : Prop where
  marked : ∀ m ∈ marks, combiningClass m ≠ 0
  descending : marks.Pairwise fun m k => combiningClass k ≤ combiningClass m
  next : ∀ m ∈ marks.head?, ∀ n ∈ rest.head?, Follows m n
  ordered : rest.IsChain Follows
  flat : (∀ m ∈ marks, Flat m) ∧ ∀ n ∈ rest, Flat n

section Compose

variable {marks rest : List Nat} {n : Nat}

theorem Waiting.below (waiting : Waiting marks (n :: rest))
    (free : ∀ m ∈ marks.head?, combiningClass m < combiningClass n) :
    ∀ m ∈ marks, combiningClass m < combiningClass n := by
  cases marks with
  | nil => simp
  | cons m marks =>
    have least := free m rfl
    refine List.forall_mem_cons.mpr ⟨least, fun k member => ?_⟩
    exact Nat.lt_of_le_of_lt (List.rel_of_pairwise_cons waiting.descending member) least

theorem Waiting.taken (waiting : Waiting marks (n :: rest))
    (free : ∀ m ∈ marks.head?, combiningClass m < combiningClass n) : Waiting marks rest := by
  obtain ⟨marked, descending, next, ordered, flat, follow⟩ := waiting
  obtain ⟨after, ordered⟩ := List.isChain_cons.mp ordered
  refine ⟨marked, descending, fun m member k later => ?_, ordered, flat,
    (List.forall_mem_cons.mp follow).2⟩
  have least := free m member
  obtain single | above := after k later
  · exact .inl single
  · exact .inr (Nat.le_of_lt (Nat.lt_of_lt_of_le least above))

theorem Waiting.kept (waiting : Waiting marks (n :: rest)) (own : combiningClass n ≠ 0) :
    Waiting (n :: marks) rest := by
  obtain ⟨marked, descending, next, ordered, flat, follow⟩ := waiting
  obtain ⟨after, ordered⟩ := List.isChain_cons.mp ordered
  obtain ⟨alone, follow⟩ := List.forall_mem_cons.mp follow
  refine ⟨List.forall_mem_cons.mpr ⟨own, marked⟩, ?_, by simpa using after, ordered,
    List.forall_mem_cons.mpr ⟨alone, flat⟩, follow⟩
  refine List.pairwise_cons.mpr ⟨?_, descending⟩
  cases marks with
  | nil => simp
  | cons m marks =>
    have least := (next m rfl n rfl).resolve_left own
    refine List.forall_mem_cons.mpr ⟨least, fun k member => ?_⟩
    exact Nat.le_trans (List.rel_of_pairwise_cons descending member) least

theorem waiting_nil (ordered : rest.IsChain Follows) (flat : ∀ n ∈ rest, Flat n) :
    Waiting [] rest :=
  ⟨by simp, .nil, by simp, ordered, by simp, flat⟩

theorem composeFrom_of_together {letter n together : Nat} {marks : List Nat}
    (free : ∀ m ∈ marks.head?, combiningClass m < combiningClass n)
    (whole : composite? letter n = some together) (rest : List Nat) :
    composeFrom letter marks (n :: rest) = composeFrom together marks rest := by
  cases marks with
  | nil => simp only [composeFrom, if_true, whole]
  | cons m marks => simp only [composeFrom, decide_eq_true (free m rfl), if_true, whole]

theorem composeFrom_of_apart {letter n : Nat} {marks : List Nat}
    (apart : (∀ m ∈ marks.head?, combiningClass m < combiningClass n) → composite? letter n = none)
    (rest : List Nat) : composeFrom letter marks (n :: rest) =
      if combiningClass n = 0 then letter :: marks.reverse ++ composeFrom n [] rest
      else composeFrom letter (n :: marks) rest := by
  cases marks with
  | nil => simp only [composeFrom, if_true, apart (by simp)]
  | cons m marks =>
    by_cases free : combiningClass m < combiningClass n
    · simp only [composeFrom, decide_eq_true free, if_true, apart (by simpa using free)]
    · simp only [composeFrom, decide_eq_false free, Bool.false_eq_true, if_false]

/-- What becomes of the character behind a letter and its marks: it is put together with the letter,
or it is a letter of its own, or a mark that waits. -/
theorem composeFrom_cons (letter : Nat) (marks : List Nat) (n : Nat) :
    (∃ together, composite? letter n = some together ∧
      (∀ m ∈ marks.head?, combiningClass m < combiningClass n) ∧
      ∀ rest, composeFrom letter marks (n :: rest) = composeFrom together marks rest) ∨
    (combiningClass n = 0 ∧ ∀ rest,
      composeFrom letter marks (n :: rest) = letter :: (marks.reverse ++ composeFrom n [] rest)) ∨
    (combiningClass n ≠ 0 ∧ ∀ rest,
      composeFrom letter marks (n :: rest) = composeFrom letter (n :: marks) rest) := by
  by_cases joined : (∀ m ∈ marks.head?, combiningClass m < combiningClass n) ∧
      (composite? letter n).isSome
  · obtain ⟨together, whole⟩ := Option.isSome_iff_exists.mp joined.2
    exact .inl ⟨together, whole, joined.1, composeFrom_of_together joined.1 whole⟩
  · have apart : (∀ m ∈ marks.head?, combiningClass m < combiningClass n) →
        composite? letter n = none :=
      fun free => Option.not_isSome_iff_eq_none.mp fun some => joined ⟨free, some⟩
    by_cases single : combiningClass n = 0
    · exact .inr (.inl ⟨single, fun rest =>
        (composeFrom_of_apart apart rest).trans (if_pos single)⟩)
    · exact .inr (.inr ⟨single, fun rest =>
        (composeFrom_of_apart apart rest).trans (if_neg single)⟩)

theorem order_takenApart_composeFrom (waiting : Waiting marks rest) (letter : Nat) :
    order (takenApart (composeFrom letter marks rest)) =
      order (decompose depth letter ++ (marks.reverse ++ rest)) := by
  have apart : takenApart marks.reverse = marks.reverse :=
    takenApart_of_flat fun m member => waiting.flat.1 m (List.mem_reverse.mp member)
  induction rest generalizing letter marks with
  | nil => rw [composeFrom, takenApart_cons, apart, List.append_nil]
  | cons n rest ih =>
    obtain ⟨flat, -⟩ := List.forall_mem_cons.mp waiting.flat.2
    have own := flat.decompose_eq depth
    obtain ⟨together, whole, free, next⟩ | ⟨single, next⟩ | ⟨marked, next⟩ :=
      composeFrom_cons letter marks n
    · have each : ∀ m ∈ marks.reverse, combiningClass m ≠ 0 := fun m member =>
        waiting.marked m (List.mem_reverse.mp member)
      have below : ∀ m ∈ marks.reverse, combiningClass m < combiningClass n := fun m member =>
        waiting.below free m (List.mem_reverse.mp member)
      rw [next, ih (waiting.taken free) together apart, decompose_composite whole, own,
        List.append_assoc, order_append, order_append (decompose depth letter),
        order_marks_append each below]
      rfl
    · obtain ⟨-, ordered⟩ := List.isChain_cons.mp waiting.ordered
      have rest := ih (waiting_nil ordered (List.forall_mem_cons.mp waiting.flat.2).2) n rfl
      rw [own] at rest
      rw [next, takenApart_cons, takenApart_append, apart, order_append, order_append, rest,
        ← order_append, ← order_append]
      rfl
    · have apart : takenApart (n :: marks).reverse = (n :: marks).reverse := by
        rw [List.reverse_cons, takenApart_append, apart, takenApart_of_flat (by simpa using flat)]
      rw [next, ih (waiting.kept marked) letter apart, List.reverse_cons, List.append_assoc]
      rfl

theorem order_takenApart_compose {ns : List Nat} (ordered : ns.IsChain Follows)
    (flat : ∀ n ∈ ns, Flat n) : order (takenApart (compose ns)) = ns := by
  refine Eq.trans ?_ (order_of_isChain ordered)
  induction ns with
  | nil => rfl
  | cons n ns ih =>
    obtain ⟨-, ordered⟩ := List.isChain_cons.mp ordered
    obtain ⟨alone, flat⟩ := List.forall_mem_cons.mp flat
    have own := alone.decompose_eq depth
    rw [compose]
    split
    · rw [order_takenApart_composeFrom (waiting_nil ordered flat), own]
      rfl
    · have rest := ih ordered flat
      rw [takenApart_cons, own]
      show placeMark n (order (takenApart (compose ns))) = placeMark n (order ns)
      rw [rest]

end Compose

theorem mem_placeMark {k n : Nat} {ns : List Nat} : k ∈ placeMark n ns ↔ k = n ∨ k ∈ ns := by
  induction ns with
  | nil => simp [placeMark]
  | cons m ns ih =>
    rw [placeMark]
    split
    · rw [List.mem_cons, ih, List.mem_cons, or_left_comm]
    · rw [List.mem_cons]

theorem mem_order {k : Nat} {ns : List Nat} : k ∈ order ns ↔ k ∈ ns := by
  induction ns with
  | nil => rfl
  | cons n ns ih =>
    show k ∈ placeMark n (order ns) ↔ _
    rw [mem_placeMark, ih, List.mem_cons]

def normalForm (ns : List Nat) : List Nat := compose (order (takenApart ns))

section Closed

variable {P : Nat → Prop} (closed : Closed P)
include closed

theorem Closed.composeFrom {letter : Nat} {marks rest : List Nat} (own : P letter)
    (waiting : ∀ m ∈ marks, P m) (later : ∀ n ∈ rest, P n) :
    ∀ n ∈ composeFrom letter marks rest, P n := by
  induction rest generalizing letter marks with
  | nil =>
    rw [Unicode.composeFrom, List.forall_mem_cons]
    exact ⟨own, fun m member => waiting m (List.mem_reverse.mp member)⟩
  | cons n rest ih =>
    obtain ⟨first, later⟩ := List.forall_mem_cons.mp later
    obtain ⟨together, whole, -, next⟩ | ⟨-, next⟩ | ⟨-, next⟩ := composeFrom_cons letter marks n
    · rw [next]
      exact ih (closed.composite? own first whole) waiting later
    · rw [next, List.forall_mem_cons, List.forall_mem_append]
      exact ⟨own, fun m member => waiting m (List.mem_reverse.mp member), ih first (by simp) later⟩
    · rw [next]
      exact ih own (List.forall_mem_cons.mpr ⟨first, waiting⟩) later

theorem Closed.compose {ns : List Nat} (all : ∀ n ∈ ns, P n) : ∀ n ∈ compose ns, P n := by
  induction ns with
  | nil => exact all
  | cons n ns ih =>
    obtain ⟨own, later⟩ := List.forall_mem_cons.mp all
    rw [Unicode.compose]
    split
    · exact closed.composeFrom own (by simp) later
    · exact List.forall_mem_cons.mpr ⟨own, ih later⟩

theorem Closed.normalForm {ns : List Nat} (all : ∀ n ∈ ns, P n) : ∀ n ∈ normalForm ns, P n := by
  refine closed.compose fun n member => ?_
  obtain ⟨m, inside, own⟩ := List.mem_flatMap.mp (mem_order.mp member)
  exact closed.decompose (all m inside) n own

end Closed

theorem normalForm_normalForm (ns : List Nat) : normalForm (normalForm ns) = normalForm ns := by
  have flat : ∀ n ∈ order (takenApart ns), Flat n := by
    intro n member
    obtain ⟨m, -, own⟩ := List.mem_flatMap.mp (mem_order.mp member)
    exact flat_of_mem_decompose own
  rw [normalForm, normalForm, order_takenApart_compose (isChain_order _) flat]

theorem closed_isValidChar : Closed Nat.isValidChar := by
  refine ⟨by decide +kernel, by decide +kernel, fun n within => .inl ?_⟩
  rw [isIn, List.any_eq_true] at within
  obtain ⟨range, member, within⟩ := within
  have bounds : ∀ range ∈ Hangul.ranges, range.2 < 0xd800 := by decide
  rw [Bool.and_eq_true, decide_eq_true_eq, decide_eq_true_eq] at within
  exact Nat.lt_of_le_of_lt within.2 (bounds range member)

theorem map_toNat_normalize (cs : List Char) :
    (normalize cs).map Char.toNat = normalForm (cs.map Char.toNat) := by
  have apart : cs.flatMap (fun c => decompose depth c.toNat) = takenApart (cs.map Char.toNat) := by
    rw [takenApart, List.flatMap_map]
  have chars : ∀ n ∈ cs.map Char.toNat, n.isValidChar := by
    intro n member
    obtain ⟨c, -, rfl⟩ := List.mem_map.mp member
    exact c.valid
  have valid := closed_isValidChar.normalForm chars
  rw [normalize, apart, List.map_map]
  exact (List.map_congr_left fun n member =>
    Text.Utf8.toNat_ofNat_of_isValidChar (valid n member)).trans (List.map_id _)

theorem Closed.normalize {P : Nat → Prop} (closed : Closed P) {cs : List Char}
    (all : ∀ c ∈ cs, P c.toNat) : ∀ c ∈ normalize cs, P c.toNat := by
  have numbers := closed.normalForm (List.forall_mem_map.mpr all)
  rw [← map_toNat_normalize] at numbers
  exact List.forall_mem_map.mp numbers

/-- A normal form is its own normal form. -/
theorem normalize_normalize (cs : List Char) : normalize (normalize cs) = normalize cs := by
  refine (List.map_inj_right fun _ _ => Char.toNat_inj.mp).mp ?_
  rw [map_toNat_normalize, map_toNat_normalize, normalForm_normalForm]

/-- A character that texts are normal on either side of. -/
structure Separate (n : Nat) : Prop where
  single : combiningClass n = 0
  flat : Flat n
  first : ∀ b, composite? n b = none
  second : ∀ a, composite? a n = none

section Separate

variable {dot : Nat} (separate : Separate dot)
include separate

theorem Separate.placeMark_append (n : Nat) (ms ns : List Nat) :
    placeMark n (ms ++ dot :: ns) = placeMark n ms ++ dot :: ns := by
  induction ms with
  | nil => exact placeMark_of_follows (by simp [Follows, separate.single])
  | cons m ms ih =>
    rw [List.cons_append, placeMark, placeMark, ih]
    split <;> rfl

theorem Separate.order_append (ms ns : List Nat) :
    order (ms ++ dot :: ns) = order ms ++ dot :: order ns := by
  induction ms with
  | nil =>
    exact placeMark_of_follows fun m _ => .inr (separate.single ▸ Nat.zero_le _)
  | cons m ms ih =>
    show placeMark m (order (ms ++ dot :: ns)) = placeMark m (order ms) ++ dot :: order ns
    rw [ih, separate.placeMark_append]

theorem Separate.composeFrom_self (marks ns : List Nat) :
    composeFrom dot marks ns = dot :: (marks.reverse ++ compose ns) := by
  induction ns generalizing marks with
  | nil => rw [composeFrom, compose, List.append_nil]
  | cons n ns ih =>
    obtain ⟨together, whole, -⟩ | ⟨single, next⟩ | ⟨marked, next⟩ := composeFrom_cons dot marks n
    · rw [separate.first] at whole
      cases whole
    · rw [next, compose, if_pos single]
    · rw [next, ih, compose, if_neg marked, List.reverse_cons, List.append_assoc]
      rfl

theorem Separate.composeFrom_append (letter : Nat) (marks ms ns : List Nat) :
    composeFrom letter marks (ms ++ dot :: ns) =
      composeFrom letter marks ms ++ dot :: compose ns := by
  induction ms generalizing letter marks with
  | nil =>
    obtain ⟨together, whole, -⟩ | ⟨-, next⟩ | ⟨marked, -⟩ :=
      composeFrom_cons letter marks dot
    · rw [separate.second] at whole
      cases whole
    · rw [List.nil_append, next, separate.composeFrom_self, composeFrom]
      rfl
    · exact absurd separate.single marked
  | cons m ms ih =>
    rw [List.cons_append]
    obtain ⟨together, -, -, next⟩ | ⟨-, next⟩ | ⟨-, next⟩ := composeFrom_cons letter marks m
    · rw [next, next, ih]
    · rw [next, next, ih, List.cons_append, List.append_assoc]
    · rw [next, next, ih]

theorem Separate.compose_append (ms ns : List Nat) :
    compose (ms ++ dot :: ns) = compose ms ++ dot :: compose ns := by
  induction ms with
  | nil =>
    have whole : compose (dot :: ns) = composeFrom dot [] ns := if_pos separate.single
    rw [List.nil_append, whole, separate.composeFrom_self]
    rfl
  | cons m ms ih =>
    rw [List.cons_append, compose, compose]
    split
    · exact separate.composeFrom_append m [] ms ns
    · rw [ih, List.cons_append]

theorem Separate.normalForm_append (ms ns : List Nat) :
    normalForm (ms ++ dot :: ns) = normalForm ms ++ dot :: normalForm ns := by
  have apart : takenApart (ms ++ dot :: ns) = takenApart ms ++ dot :: takenApart ns := by
    rw [takenApart_append, takenApart_cons, separate.flat.decompose_eq]
    rfl
  rw [normalForm, apart, separate.order_append, separate.compose_append]
  rfl

end Separate

end Playground.Unicode
