import Playground.Proofs.Toml.Literal
import Playground.Toml.Reader

/-!
Configuration files of plain lines. A file that gives each of some plain names a text or a whole
number, one in a line, is read as the table of these names.
-/

namespace Playground.Toml

open Printer Text

namespace Scalar

section Digits

variable {cs : List Char} (digits : ∀ c ∈ cs, c.isDigit = true)
include digits

theorem not_mem_of_digits {c : Char} (other : c.isDigit = false) : c ∉ cs := by
  intro member
  rw [digits c member] at other
  cases other

theorem grouped_of_digits (some : cs ≠ []) : grouped Char.isDigit cs = Option.some cs := by
  induction cs with
  | nil => exact absurd rfl some
  | cons d cs ih =>
    have first := digits d List.mem_cons_self
    have later : ∀ c ∈ cs, c.isDigit = true := fun c member => digits c (List.mem_cons_of_mem d member)
    cases cs with
    | nil => simp [grouped, first]
    | cons e cs =>
      have digit := later e List.mem_cons_self
      have gap : ∀ rest, e :: cs ≠ '_' :: rest := by
        rintro rest same
        obtain ⟨rfl, -⟩ := List.cons.inj same
        cases digit
      rw [grouped.eq_4 _ _ _ (List.cons_ne_nil e cs) gap, if_pos first,
        ih later (List.cons_ne_nil e cs)]
      rfl

theorem valueIn_of_digits : valueIn 10 cs = Nat.ofDigitChars 10 cs 0 := by
  have value : ∀ c ∈ cs, (Hex.value? c).getD 0 = c.toNat - 48 := by
    intro c member
    have digit := digits c member
    simp only [Char.isDigit, Bool.and_eq_true, decide_eq_true_eq] at digit
    have between : '0' ≤ c ∧ c ≤ '9' := digit
    simp [Hex.value?, between]
  have fold (n : Nat) : cs.foldl (fun n d => n * 10 + (Hex.value? d).getD 0) n =
      Nat.ofDigitChars 10 cs n := by
    induction cs generalizing n with
    | nil => rfl
    | cons c cs ih =>
      rw [List.foldl_cons, Nat.ofDigitChars_cons, value c List.mem_cons_self, Nat.mul_comm]
      exact ih (fun c' member => digits c' (List.mem_cons_of_mem c member))
        (fun c' member => value c' (List.mem_cons_of_mem c member)) _
  exact fold 0

theorem day?_of_digits : day? cs = none := by
  unfold day?
  split
  · exact absurd (by simp) (not_mem_of_digits digits (c := '-') rfl)
  · rfl

theorem time?_of_digits : time? cs = none := by
  unfold time?
  split
  · exact absurd (by simp) (not_mem_of_digits digits (c := ':') rfl)
  · rfl

end Digits

theorem eq_zero_of_head? (n : Nat) (front : (Nat.toDigits 10 n).head? = some '0') : n = 0 := by
  induction n using Nat.strongRecOn with
  | ind n ih =>
    by_cases small : n < 10
    · rw [Nat.toDigits_of_lt_base small] at front
      have digit : ∀ n < 10, Nat.digitChar n = '0' → n = 0 := by decide
      exact digit n small (by simpa using front)
    · rw [Nat.toDigits_of_base_le (by decide) (Nat.le_of_not_lt small),
        List.head?_append, List.head?_eq_some_head Nat.toDigits_ne_nil, Option.some_or,
        ← List.head?_eq_some_head] at front
      have zero := ih (n / 10) (by omega) front
      omega

theorem integer?_toDigits {n : Nat} (small : n < 0x8000000000000000) :
    integer? (Nat.toDigits 10 n) = some (n : Int) := by
  have digits : ∀ c ∈ Nat.toDigits 10 n, c.isDigit = true :=
    fun c member => Nat.isDigit_of_mem_toDigits (by decide) (by decide) member
  have whole : whole? (Nat.toDigits 10 n) = some (Nat.toDigits 10 n) := by
    have one : ¬ ((Nat.toDigits 10 n).head? = some '0' ∧ 1 < (Nat.toDigits 10 n).length) := by
      rintro ⟨front, long⟩
      rw [eq_zero_of_head? n front] at long
      exact absurd long (by decide)
    simp [whole?, grouped_of_digits digits Nat.toDigits_ne_nil, one]
  have value : valueIn 10 (Nat.toDigits 10 n) = n := by
    rw [valueIn_of_digits digits, Nat.ofDigitChars_ten_toDigits]
  have unsigned : signed (Nat.toDigits 10 n) = (false, Nat.toDigits 10 n) := by
    unfold signed
    split
    case h_1 same => exact absurd (same ▸ List.mem_cons_self) (not_mem_of_digits digits (c := '-') rfl)
    case h_2 same => exact absurd (same ▸ List.mem_cons_self) (not_mem_of_digits digits (c := '+') rfl)
    case h_3 => rfl
  have range : inRange? (n : Int) = some (n : Int) := by
    unfold inRange?
    rw [if_pos]
    omega
  have decimal : decimal? (Nat.toDigits 10 n) = some (n : Int) := by
    unfold decimal?
    rw [unsigned]
    dsimp only
    rw [whole, Option.bind_eq_bind, Option.bind_some, value, if_neg (by decide)]
    exact range
  have inner {c : Char} (rest : List Char) {rest' : List Char}
      (same : Nat.toDigits 10 n = rest ++ c :: rest')
      (other : c.isDigit = false) : False :=
    not_mem_of_digits digits other (by rw [same]; simp)
  unfold integer?
  split
  case h_1 same => exact (inner ['0'] same rfl).elim
  case h_2 same => exact (inner ['0'] same rfl).elim
  case h_3 same => exact (inner ['0'] same rfl).elim
  case h_4 => exact decimal

theorem read_toString {n : Nat} (small : n < 0x8000000000000000) (rest : List Char) :
    read ((toString n).toList ++ '\n' :: rest) = some (.integer n, '\n' :: rest) := by
  have digits : ∀ c ∈ Nat.toDigits 10 n, c.isDigit = true :=
    fun c member => Nat.isDigit_of_mem_toDigits (by decide) (by decide) member
  have scalars : ∀ c ∈ Nat.toDigits 10 n, isScalar c = true := by
    intro c member
    simp [isScalar, Char.isAlphanum, digits c member]
  have taken : (Nat.toDigits 10 n ++ '\n' :: rest).takeWhile isScalar = Nat.toDigits 10 n := by
    rw [List.takeWhile_append_of_pos scalars]
    simp [show isScalar '\n' = false from rfl]
  have left : (Nat.toDigits 10 n ++ '\n' :: rest).dropWhile isScalar = '\n' :: rest := by
    rw [List.dropWhile_append_of_pos scalars]
    simp [show isScalar '\n' = false from rfl]
  have letters {c : Char} {rest : List Char} (other : c.isDigit = false) :
      Nat.toDigits 10 n ≠ c :: rest :=
    fun same => not_mem_of_digits digits other (by rw [same]; exact List.mem_cons_self)
  have value : ofChars? (Nat.toDigits 10 n) = some (.integer n) := by
    rw [ofChars?, if_neg (letters rfl), if_neg (letters rfl), isDate, day?_of_digits digits,
      time?_of_digits digits, integer?_toDigits small]
    rfl
  rw [Nat.toString_eq_repr, Nat.toList_repr]
  simp [read, taken, left, day?_of_digits digits, value]

end Scalar

/-- A line of a file: a plain name, and a value that is read as what it stands for. -/
structure Line where
  name : String
  value : String
  content : Toml
  named : name ≠ ""
  bare : ∀ c ∈ name.toList, Reader.isBare c = true
  filled : ∃ first rest, value.toList = first :: rest ∧ Literal.isBlank first = false
  read : ∀ levels fuel rest, Reader.value levels (fuel + 1) (value.toList ++ '\n' :: rest) =
    some (content, '\n' :: rest)

namespace Line

theorem exists_quoted (s : String) :
    ∃ rest, (quoted s).toList = '"' :: rest ∨ (quoted s).toList = '\'' :: rest := by
  unfold quoted
  extract_lets chars control backslash newline doubles singles
  rw [String.toList_ofList]
  split
  · exact ⟨_, .inl rfl⟩
  split
  · exact ⟨_, .inr rfl⟩
  split
  · exact ⟨_, .inl rfl⟩
  split
  · exact ⟨_, .inr rfl⟩
  split
  · exact ⟨_, .inl rfl⟩
  · exact ⟨_, .inl rfl⟩

def ofText (name : String) (named : name ≠ "")
    (bare : ∀ c ∈ name.toList, Reader.isBare c = true) (s : String) : Line where
  name := name
  value := quoted s
  content := .text s
  named := named
  bare := bare
  filled := by
    obtain ⟨rest, double | single⟩ := exists_quoted s
    · exact ⟨_, _, double, rfl⟩
    · exact ⟨_, _, single, rfl⟩
  read levels fuel rest := by
    have text : Literal.read ((quoted s).toList ++ '\n' :: rest) = some (s.toList, '\n' :: rest) :=
      Literal.read_quoted s (by simp) (by simp)
    obtain ⟨chars, double | single⟩ := exists_quoted s
    · rw [double] at text ⊢
      rw [List.cons_append, Reader.value, ← List.cons_append, text, Option.map_some]
      simp only [String.ofList_toList]
    · rw [single] at text ⊢
      rw [List.cons_append, Reader.value, ← List.cons_append, text, Option.map_some]
      simp only [String.ofList_toList]

def ofNatural (name : String) (named : name ≠ "")
    (bare : ∀ c ∈ name.toList, Reader.isBare c = true) (n : Nat)
    (small : n < 0x8000000000000000) : Line where
  name := name
  value := toString n
  content := .integer n
  named := named
  bare := bare
  filled := by
    obtain ⟨first, rest, digits⟩ := List.exists_cons_of_ne_nil (Nat.toDigits_ne_nil (n := n) (b := 10))
    have digit : first.isDigit = true := Nat.isDigit_of_mem_toDigits (b := 10) (n := n) (by decide)
      (by decide) (digits ▸ List.mem_cons_self)
    refine ⟨first, rest, by rw [Nat.toString_eq_repr, Nat.toList_repr, digits], ?_⟩
    rw [Literal.isBlank]
    by_cases blank : first = ' ' ∨ first = '\t'
    · obtain rfl | rfl := blank <;> cases digit
    · simpa using blank
  read levels fuel rest := by
    obtain ⟨first, digits, written⟩ :=
      List.exists_cons_of_ne_nil (Nat.toDigits_ne_nil (n := n) (b := 10))
    have digit : first.isDigit = true := Nat.isDigit_of_mem_toDigits (b := 10) (n := n) (by decide)
      (by decide) (written ▸ List.mem_cons_self)
    have scalar := Scalar.read_toString small rest
    rw [Nat.toString_eq_repr, Nat.toList_repr, written, List.cons_append] at scalar ⊢
    rw [Reader.value, scalar]
    all_goals
      intro _ same
      obtain ⟨rfl, -⟩ := List.cons.inj same
      cases digit

variable (l : Line)

def text : String := line l.name l.value

theorem toList_text :
    l.text.toList = l.name.toList ++ ' ' :: '=' :: ' ' :: (l.value.toList ++ ['\n']) := by
  have written : l.text = l.name ++ " = " ++ l.value ++ "\n" := rfl
  simp [written]

theorem exists_name : ∃ first rest, l.name.toList = first :: rest ∧ Reader.isBare first = true := by
  obtain ⟨first, rest, chars⟩ := List.exists_cons_of_ne_nil (l := l.name.toList) (by simpa using l.named)
  exact ⟨first, rest, chars, l.bare first (chars ▸ List.mem_cons_self)⟩

theorem isBlank_of_isBare {c : Char} (h : Reader.isBare c = true) : Literal.isBlank c = false := by
  rw [Literal.isBlank]
  by_cases blank : c = ' ' ∨ c = '\t'
  · obtain rfl | rfl := blank <;> cases h
  · simpa using blank

theorem skipBlank_cons {c : Char} (filled : Literal.isBlank c = false) (rest : List Char) :
    Reader.skipBlank (c :: rest) = c :: rest := by
  simp [Reader.skipBlank, filled]

theorem skipBlank_text (rest : List Char) :
    Reader.skipBlank (l.text.toList ++ rest) = l.text.toList ++ rest := by
  obtain ⟨first, chars, name, bare⟩ := l.exists_name
  rw [toList_text, name, List.cons_append, List.cons_append]
  exact skipBlank_cons (isBlank_of_isBare bare) _

theorem part_text (rest : List Char) : Reader.part (l.text.toList ++ rest) =
    some (l.name, ' ' :: '=' :: ' ' :: (l.value.toList ++ '\n' :: rest)) := by
  have text : l.text.toList ++ rest =
      l.name.toList ++ ' ' :: '=' :: ' ' :: (l.value.toList ++ '\n' :: rest) := by
    simp [toList_text]
  have taken : (l.text.toList ++ rest).takeWhile Reader.isBare = l.name.toList := by
    rw [text, List.takeWhile_append_of_pos l.bare]
    simp [show Reader.isBare ' ' = false from rfl]
  have some : l.name.toList.isEmpty = false := by simpa using l.named
  obtain ⟨first, chars, name, bare⟩ := l.exists_name
  unfold Reader.part
  simp only [taken]
  split
  case h_1 same =>
    rw [text, name] at same
    obtain ⟨rfl, -⟩ := List.cons.inj same
    cases bare
  case h_2 same =>
    rw [text, name] at same
    obtain ⟨rfl, -⟩ := List.cons.inj same
    cases bare
  case h_3 => simp [some, text]

theorem target_text (rest : List Char) :
    Reader.target (l.text.toList ++ rest) = some ([l.name], l.value.toList ++ '\n' :: rest) := by
  have named : Reader.name Reader.maxDepth (l.text.toList ++ rest) =
      some ([l.name], '=' :: ' ' :: (l.value.toList ++ '\n' :: rest)) := by
    rw [Reader.maxDepth, Reader.name, skipBlank_text, part_text]
    rfl
  obtain ⟨first, chars, value, filled⟩ := l.filled
  have skipped : Reader.skipBlank (' ' :: (l.value.toList ++ '\n' :: rest)) =
      l.value.toList ++ '\n' :: rest := by
    rw [value, List.cons_append]
    exact skipBlank_cons filled _
  rw [Reader.target, named, Option.bind_eq_bind, Option.bind_some]
  simp only [skipped]
  rfl

theorem assignment_text {s : Section} (free : s.lookup l.name = none) (rest : List Char) :
    Reader.assignment ⟨[], .root, s⟩ (l.text.toList ++ rest) =
      some (⟨[], .root, s ++ [(l.name, .value l.content)]⟩, rest) := by
  have assigned : Draft.assign ⟨[], .root, s⟩ [l.name] l.content =
      some ⟨[], .root, s ++ [(l.name, .value l.content)]⟩ := by
    simp [Draft.assign, Section.assign, Section.within, Section.define, free]
  have ends : Reader.lineEnd ('\n' :: rest) = some rest := rfl
  rw [Reader.assignment, target_text]
  simp only [Option.bind_eq_bind, Option.bind_some, l.read, assigned, ends]
  rfl

theorem statements_text {s : Section} (free : s.lookup l.name = none) (fuel : Nat)
    (rest : List Char) :
    Reader.statements ⟨[], .root, s⟩ (fuel + 1) (l.text.toList ++ rest) =
      Reader.statements ⟨[], .root, s ++ [(l.name, .value l.content)]⟩ fuel rest := by
  obtain ⟨first, chars, name, bare⟩ := l.exists_name
  have chars' : l.text.toList ++ rest =
      first :: (chars ++ ' ' :: '=' :: ' ' :: (l.value.toList ++ '\n' :: rest)) := by
    simp [toList_text, name]
  have plain : ¬ (first = '#' ∨ first = '\n' ∨ first = '\r') := by
    rintro (rfl | rfl | rfl) <;> cases bare
  have read := l.assignment_text free rest
  rw [Reader.statements, skipBlank_text]
  rw [chars'] at read ⊢
  split
  case h_1 none => cases none
  case h_2 same =>
    obtain ⟨rfl, -⟩ := List.cons.inj same
    cases bare
  case h_3 c rest' same =>
    obtain ⟨rfl, rfl⟩ := List.cons.inj same
    simp only [if_neg plain, read, Option.bind_eq_bind, Option.bind_some]

end Line

theorem statements_lines (ls : List Line) {s : Section} {fuel : Nat} (enough : ls.length < fuel)
    (distinct : (ls.map Line.name).Nodup) (free : ∀ l ∈ ls, s.lookup l.name = none) :
    Reader.statements ⟨[], .root, s⟩ fuel (ls.flatMap fun l => l.text.toList) =
      some ⟨[], .root, s ++ ls.map fun l => (l.name, .value l.content)⟩ := by
  induction ls generalizing s fuel with
  | nil =>
    obtain ⟨fuel, rfl⟩ : ∃ n, fuel = n + 1 := ⟨fuel - 1, by simp at enough; omega⟩
    simp [Reader.statements, Reader.skipBlank]
  | cons l ls ih =>
    obtain ⟨fuel, rfl⟩ : ∃ n, fuel = n + 1 := ⟨fuel - 1, by simp at enough; omega⟩
    obtain ⟨other, distinct⟩ := List.nodup_cons.mp distinct
    have later : ∀ l' ∈ ls, (s ++ [(l.name, Entry.value l.content)]).lookup l'.name = none := by
      intro l' member
      have different : (l'.name == l.name) = false := by
        rw [beq_eq_false_iff_ne]
        exact fun same => other (List.mem_map.mpr ⟨l', member, same⟩)
      rw [List.lookup_append, free l' (List.mem_cons_of_mem l member)]
      simp [List.lookup_cons, different]
    rw [List.flatMap_cons, l.statements_text (free l List.mem_cons_self),
      ih (by simp at enough; omega) distinct later]
    simp

theorem members_values (entries : List (String × Toml)) :
    Entry.members (entries.map fun (name, v) => (name, .value v)) = entries := by
  induction entries with
  | nil => rfl
  | cons entry entries ih =>
    rw [List.map_cons, Entry.members, ih]
    rfl

theorem read?_lines (ls : List Line) (distinct : (ls.map Line.name).Nodup) :
    Toml.read? (String.join (ls.map Line.text)) =
      some (.table (ls.map fun l => (l.name, l.content))) := by
  have chars : (String.join (ls.map Line.text)).toList = ls.flatMap fun l => l.text.toList := by
    rw [String.toList_join, List.flatMap_map]
  have long : ls.length ≤ (ls.flatMap fun l => l.text.toList).length := by
    clear distinct chars
    induction ls with
    | nil => exact Nat.le_refl 0
    | cons l ls ih =>
      rw [List.flatMap_cons, List.length_append, Line.toList_text]
      simp only [List.length_cons, List.length_append]
      omega
  have unmarked : Reader.dropMark (ls.flatMap fun l => l.text.toList) =
      ls.flatMap fun l => l.text.toList := by
    cases ls with
    | nil => rfl
    | cons l ls =>
      obtain ⟨first, chars, name, bare⟩ := l.exists_name
      rw [List.flatMap_cons, Line.toList_text, name, List.cons_append, List.cons_append,
        Reader.dropMark]
      rintro _ same
      obtain ⟨rfl, -⟩ := List.cons.inj same
      cases bare
  have read := statements_lines ls (s := []) (Nat.lt_succ_of_le long) distinct (by simp)
  have values : (ls.map fun l => (l.name, Entry.value l.content)) =
      (ls.map fun l => (l.name, l.content)).map fun (name, v) => (name, .value v) := by simp
  rw [Toml.read?, chars]
  simp only [unmarked]
  rw [Draft.empty, read, Option.bind_some, Draft.toml?, Draft.close, Option.map_some, Section.toml,
    List.nil_append, values, members_values]

end Playground.Toml
