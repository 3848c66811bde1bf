import Playground.Toml.Printer

/-!
Texts in configuration files are read as they were written. There are four ways in which a text is
written; one escape is read by the same rules in one line and over several lines, and quotes that
stand in a text are told from those that close it by how many stand in a row.
-/

namespace Playground.Toml.Literal

open Printer Text

theorem isPlain_of_isControl {c : Char} (h : isControl c = false) (newline : c ≠ '\n') :
    isPlain c = true := by
  by_cases tab : c = '\t'
  · simp [isPlain, tab]
  · simp only [isControl, Bool.and_eq_false_iff, Bool.or_eq_false_iff, decide_eq_false_iff_not,
      bne_eq_false_iff_eq, tab, newline, or_false, beq_eq_false_iff_ne] at h
    simp only [isPlain, Bool.or_eq_true, Bool.and_eq_true, decide_eq_true_eq]
    exact .inr ⟨by omega, h.2⟩

theorem ne_return_of_isControl {c : Char} (h : isControl c = false) : c ≠ '\r' := by
  rintro rfl
  cases h

/-- What an escape consists of: a letter of its own, a code point, or the character itself. -/
theorem escape_cases (c : Char) :
    (∃ letter, escape c = ['\\', letter] ∧ unescape? letter = some c) ∨
      (∃ high low, escape c = ['\\', 'u', '0', '0', high, low] ∧
        codePoint? ['0', '0', high, low] = some c) ∨
      escape c = [c] ∧ isPlain c = true ∧ c ≠ '\\' ∧ c ≠ '\n' ∧ c ≠ '\r' := by
  have code : ∀ n < 128, codePoint? ['0', '0', Hex.upperDigit (n / 16), Hex.upperDigit (n % 16)] =
      some (Char.ofNat n) := by decide +kernel
  unfold escape
  split
  case h_7 _ newline _ return' backslash =>
    split
    case isTrue control =>
      refine .inr (.inl ⟨_, _, rfl, ?_⟩)
      have small : c.toNat < 128 := by
        simp only [isControl, Bool.and_eq_true, Bool.or_eq_true, decide_eq_true_eq,
          beq_iff_eq] at control
        omega
      rw [code c.toNat small, Char.ofNat_toNat]
    case isFalse plain =>
      exact .inr (.inr ⟨rfl, isPlain_of_isControl (by simpa using plain) newline, backslash, newline,
        return'⟩)
  all_goals exact .inl ⟨_, rfl, rfl⟩

theorem exists_escape {c : Char} (inside : c ≠ '"') :
    ∃ first others, escape c = first :: others ∧ first ≠ '"' ∧ first ≠ '\n' ∧ first ≠ '\r' := by
  obtain ⟨letter, written, -⟩ | ⟨high, low, written, -⟩ | ⟨written, -, -, lines⟩ := escape_cases c
  · exact ⟨_, _, written, by decide⟩
  · exact ⟨_, _, written, by decide⟩
  · exact ⟨_, _, written, inside, lines⟩

theorem ne_of_unescape? {letter c : Char} (read : unescape? letter = some c) :
    letter ≠ 'u' ∧ letter ≠ 'U' := by
  constructor <;> rintro rfl <;> cases read

theorem basic_escape {c : Char} (inside : c ≠ '"') (rest : List Char) :
    basic (escape c ++ rest) = (basic rest).push c := by
  obtain ⟨letter, written, read⟩ | ⟨high, low, written, read⟩ | ⟨written, plain, backslash, -⟩ :=
    escape_cases c
  · obtain ⟨short, long⟩ := ne_of_unescape? read
    rw [written, List.cons_append, List.cons_append, List.nil_append, basic, read]
    · rfl
    all_goals simp [short, long]
  · simp only [written, List.cons_append, List.nil_append, basic, read]
    rfl
  · rw [written, List.cons_append, List.nil_append, basic]
    · simp [plain, backslash]
    all_goals simp_all

theorem basic_escaped (cs rest : List Char) :
    basic (escaped false 0 0 cs ++ '"' :: rest) = some (cs, rest) := by
  induction cs with
  | nil => rfl
  | cons c cs ih =>
    by_cases quote : c = '"'
    · subst quote
      show ((basic (escaped false 0 0 cs ++ '"' :: rest)).push '"') = _
      rw [ih]
      rfl
    · rw [escaped.eq_3 _ _ _ _ _ quote]
      simp only [Bool.false_eq_true, and_false, if_false, List.append_assoc]
      rw [basic_escape quote, ih]
      rfl

theorem literal_of_plain {cs : List Char} (plain : ∀ c ∈ cs, isPlain c = true)
    (unquoted : '\'' ∉ cs) (rest : List Char) :
    literal (cs ++ '\'' :: rest) = some (cs, rest) := by
  induction cs with
  | nil => rfl
  | cons c cs ih =>
    obtain ⟨different, later⟩ := not_or.mp (mt List.mem_cons.mpr unquoted)
    rw [List.cons_append, literal, if_pos (plain c List.mem_cons_self),
      ih (fun c' member => plain c' (List.mem_cons_of_mem c member)) later]
    · rfl
    · exact fun same => different same.symm

theorem lines_escape {c : Char} (inside : c ≠ '"') (rest : List Char) :
    lines .inside (escape c ++ rest) = (lines .inside rest).push c := by
  obtain ⟨letter, written, read⟩ | ⟨high, low, written, read⟩ |
    ⟨written, plain, backslash, newline, return'⟩ := escape_cases c
  · obtain ⟨short, long⟩ := ne_of_unescape? read
    rw [written, List.cons_append, List.cons_append, List.nil_append, lines, read]
    all_goals simp [short, long]
  · simp only [written, List.cons_append, List.nil_append]
    rw [lines, read]
    · rfl
    all_goals simp
  · rw [written, List.cons_append, List.nil_append, lines]
    · simp [plain, backslash]
    all_goals simp_all

/-- Quotes that stand in a text over several lines: three in a row close it, others belong to it. -/
structure Quotes (quote : Char) (reader : List Char → Reading) : Prop where
  step : ∀ rest, (∀ rest', rest ≠ quote :: quote :: rest') →
    reader (quote :: rest) = (reader rest).push quote
  stop : ∀ rest, reader (quote :: quote :: quote :: rest) = closing quote rest

section Quotes

variable {quote : Char} {reader : List Char → Reading} (h : Quotes quote reader)
include h

theorem Quotes.before {c : Char} (other : c ≠ quote) {rest left cs : List Char}
    (read : reader (c :: rest) = some (cs, left)) {n : Nat} (few : n ≤ 2) :
    reader (List.replicate n quote ++ c :: rest) = some (List.replicate n quote ++ cs, left) := by
  have one : reader (quote :: c :: rest) = some (quote :: cs, left) := by
    rw [h.step _ (by simp [other]), read]
    rfl
  have two : reader (quote :: quote :: c :: rest) = some (quote :: quote :: cs, left) := by
    rw [h.step _ (by simp [other]), one]
    rfl
  obtain rfl | rfl | rfl : n = 0 ∨ n = 1 ∨ n = 2 := by omega
  · exact read
  · exact one
  · exact two

theorem Quotes.last {rest : List Char} (apart : rest.head? ≠ some quote) {n : Nat} (few : n ≤ 2) :
    reader (List.replicate n quote ++ quote :: quote :: quote :: rest) =
      some (List.replicate n quote, rest) := by
  have none : rest.takeWhile (· == quote) = [] := by
    cases rest with
    | nil => rfl
    | cons c rest =>
      have other : c ≠ quote := by simpa using apart
      simp [other]
  obtain rfl | rfl | rfl : n = 0 ∨ n = 1 ∨ n = 2 := by omega
  · simp [h.stop, closing, none]
  · simp [h.stop, closing, none]
  · show reader (quote :: quote :: quote :: quote :: quote :: rest) = _
    simp [h.stop, closing, none, List.replicate]

end Quotes

theorem quotes_lines : Quotes '"' (lines .inside) where
  step rest few := by
    rw [lines]
    · rfl
    all_goals simp_all
  stop rest := rfl

theorem quotes_literalLines : Quotes '\'' literalLines where
  step rest few := by
    rw [literalLines]
    · rfl
    all_goals simp_all
  stop rest := rfl

/-- What was escaped for several lines is read over several lines, behind quotes that the escaping
has counted. -/
theorem lines_escaped (cs : List Char) {run : Nat} (few : run ≤ 2) {rest : List Char}
    (apart : rest.head? ≠ some '"') :
    lines .inside (List.replicate run '"' ++ (escaped true 2 run cs ++ '"' :: '"' :: '"' :: rest)) =
      some (List.replicate run '"' ++ cs, rest) := by
  induction cs generalizing run with
  | nil =>
    rw [escaped, List.nil_append, List.append_nil]
    exact quotes_lines.last apart few
  | cons c cs ih =>
    have later := ih (Nat.zero_le 2)
    by_cases quote : c = '"'
    · subst quote
      rw [escaped]
      split
      case isTrue more =>
        -- One more quote can stand as it is: the run before it grows.
        have counted := ih (show run + 1 ≤ 2 by omega)
        simpa [List.replicate_succ'] using counted
      case isFalse full =>
        -- A third quote would end the text, so that it is escaped and the run starts anew.
        refine quotes_lines.before (by decide) ?_ few
        show ((lines .inside (escaped true 2 0 cs ++ '"' :: '"' :: '"' :: rest)).push '"') = _
        rw [show lines .inside (escaped true 2 0 cs ++ '"' :: '"' :: '"' :: rest) = _ from later]
        rfl
    · rw [escaped.eq_3 _ _ _ _ _ quote, List.append_assoc]
      obtain ⟨first, others, written, outside⟩ :
          ∃ first others, (if c = '\n' ∧ true = true then [c] else escape c) = first :: others ∧
            first ≠ '"' := by
        split
        · exact ⟨c, [], rfl, quote⟩
        · obtain ⟨first, others, written, outside, -⟩ := exists_escape quote
          exact ⟨first, others, written, outside⟩
      have read : lines .inside ((if c = '\n' ∧ true = true then [c] else escape c) ++
          (escaped true 2 0 cs ++ '"' :: '"' :: '"' :: rest)) = some (c :: cs, rest) := by
        have pushed : (lines .inside (escaped true 2 0 cs ++ '"' :: '"' :: '"' :: rest)).push c =
            some (c :: cs, rest) := by
          rw [show lines .inside (escaped true 2 0 cs ++ '"' :: '"' :: '"' :: rest) = _ from later]
          rfl
        split
        case isTrue newline =>
          obtain ⟨rfl, -⟩ := newline
          exact pushed
        case isFalse => rw [lines_escape quote, pushed]
      rw [written] at read ⊢
      exact quotes_lines.before outside read few

def runStep (c : Char) : Nat × Nat → Char → Nat × Nat := fun (run, longest) d =>
  if d = c then (run + 1, max longest (run + 1)) else (0, longest)

theorem longestRun_eq (c : Char) (cs : List Char) :
    longestRun c cs = (cs.foldl (runStep c) (0, 0)).2 := rfl

theorem le_foldl_runStep (c : Char) (cs : List Char) (run longest : Nat) :
    longest ≤ (cs.foldl (runStep c) (run, longest)).2 := by
  induction cs generalizing run longest with
  | nil => exact Nat.le_refl _
  | cons d cs ih =>
    rw [List.foldl_cons, runStep]
    split
    · exact Nat.le_trans (Nat.le_max_left _ _) (ih _ _)
    · exact ih _ _

theorem not_mem_of_longestRun {c : Char} {cs : List Char} (none : longestRun c cs = 0) : c ∉ cs := by
  rw [longestRun_eq] at none
  intro member
  obtain ⟨before, after, rfl⟩ := List.append_of_mem member
  rw [List.foldl_append, List.foldl_cons, runStep, if_pos rfl] at none
  have some := le_foldl_runStep c after ((before.foldl (runStep c) (0, 0)).1 + 1)
    (max (before.foldl (runStep c) (0, 0)).2 ((before.foldl (runStep c) (0, 0)).1 + 1))
  omega

theorem literalLines_of_run (cs : List Char) {run longest : Nat}
    (plain : ∀ c ∈ cs, isControl c = false)
    (few : (cs.foldl (runStep '\'') (run, longest)).2 ≤ 2) (counted : run ≤ longest)
    {rest : List Char} (apart : rest.head? ≠ some '\'') :
    literalLines (List.replicate run '\'' ++ (cs ++ '\'' :: '\'' :: '\'' :: rest)) =
      some (List.replicate run '\'' ++ cs, rest) := by
  -- The run in progress is never longer than the longest one, which is at most two.
  induction cs generalizing run longest with
  | nil =>
    rw [List.nil_append, List.append_nil]
    exact quotes_literalLines.last apart (Nat.le_trans counted few)
  | cons c cs ih =>
    have plain' : ∀ c ∈ cs, isControl c = false :=
      fun c' member => plain c' (List.mem_cons_of_mem c member)
    have short := Nat.le_trans (le_foldl_runStep '\'' (c :: cs) run longest) few
    rw [List.foldl_cons, runStep] at few
    by_cases quote : c = '\''
    · subst quote
      rw [if_pos rfl] at few
      have later := ih plain' few (Nat.le_max_right _ _)
      simpa [List.replicate_succ'] using later
    · rw [if_neg quote] at few
      have later := ih plain' few (Nat.zero_le _)
      have control := plain c List.mem_cons_self
      have pushed : literalLines (c :: (cs ++ '\'' :: '\'' :: '\'' :: rest)) =
          (literalLines (cs ++ '\'' :: '\'' :: '\'' :: rest)).push c := by
        by_cases newline : c = '\n'
        · subst newline
          rfl
        · rw [literalLines]
          · rw [if_pos (isPlain_of_isControl control newline)]
          all_goals simp_all [ne_return_of_isControl control]
      have read : literalLines (c :: (cs ++ '\'' :: '\'' :: '\'' :: rest)) = some (c :: cs, rest) := by
        rw [pushed, show literalLines (cs ++ '\'' :: '\'' :: '\'' :: rest) = _ from later]
        rfl
      exact quotes_literalLines.before quote read (Nat.le_trans counted short)

section Read

variable {cs rest : List Char}

theorem read_inLine (apart : rest.head? ≠ some '"') (cs : List Char) :
    read (inLine cs ++ rest) = some (cs, rest) := by
  have text : inLine cs ++ rest = '"' :: (escaped false 0 0 cs ++ '"' :: rest) := by simp [inLine]
  have oneLine : ∀ rest', escaped false 0 0 cs ++ '"' :: rest ≠ '"' :: '"' :: rest' := by
    intro rest' same
    cases cs with
    | nil =>
      have next : rest = '"' :: rest' := (List.cons.inj same).2
      exact apart (by rw [next]; rfl)
    | cons c cs =>
      by_cases quote : c = '"'
      · subst quote
        exact absurd (List.cons.inj same).1 (by decide)
      · obtain ⟨first, others, written, outside, -⟩ := exists_escape quote
        rw [escaped.eq_3 _ _ _ _ _ quote] at same
        simp only [Bool.false_eq_true, and_false, if_false, written, List.cons_append] at same
        exact outside (List.cons.inj same).1
  rw [text, read.eq_2 _ oneLine, basic_escaped]

theorem read_literal (apart : rest.head? ≠ some '\'') (plain : ∀ c ∈ cs, isPlain c = true)
    (unquoted : '\'' ∉ cs) : read (Printer.literal cs ++ rest) = some (cs, rest) := by
  have text : Printer.literal cs ++ rest = '\'' :: (cs ++ '\'' :: rest) := by
    simp [Printer.literal]
  have oneLine : ∀ rest', cs ++ '\'' :: rest ≠ '\'' :: '\'' :: rest' := by
    intro rest' same
    cases cs with
    | nil =>
      have next : rest = '\'' :: rest' := (List.cons.inj same).2
      exact apart (by rw [next]; rfl)
    | cons c cs => exact unquoted ((List.cons.inj same).1 ▸ List.mem_cons_self)
  rw [text, read.eq_4 _ oneLine, literal_of_plain plain unquoted]

theorem skipLineEnd_firstBreak {text : List Char} (cs : List Char)
    (one : '\n' ∉ cs → text.head? ≠ some '\n' ∧ text.head? ≠ some '\r') :
    skipLineEnd (firstBreak cs ++ text) = text := by
  unfold firstBreak
  split
  case isTrue => rfl
  case isFalse none =>
    obtain ⟨newline, return'⟩ := one (by simpa using none)
    rw [List.nil_append, skipLineEnd]
    · rintro rest rfl
      exact newline rfl
    · rintro rest rfl
      exact return' rfl

theorem read_overLines (apart : rest.head? ≠ some '"') (cs : List Char) :
    read (overLines cs ++ rest) = some (cs, rest) := by
  have text : overLines cs ++ rest = '"' :: '"' :: '"' ::
      (firstBreak cs ++ (escaped true 2 0 cs ++ '"' :: '"' :: '"' :: rest)) := by simp [overLines]
  rw [text, read, skipLineEnd_firstBreak]
  · exact lines_escaped cs (Nat.zero_le 2) apart
  · intro none
    cases cs with
    | nil => simp [escaped]
    | cons c cs =>
      by_cases quote : c = '"'
      · subst quote
        simp [escaped]
      · obtain ⟨first, others, written, -, newline, return'⟩ := exists_escape quote
        have inside : c ≠ '\n' := fun same => none (same ▸ List.mem_cons_self)
        simp [escaped.eq_3 _ _ _ _ _ quote, inside, written, newline, return']

theorem read_literalLines (apart : rest.head? ≠ some '\'') (plain : ∀ c ∈ cs, isControl c = false)
    (few : longestRun '\'' cs ≤ 2) :
    read (Printer.literalLines cs ++ rest) = some (cs, rest) := by
  have text : Printer.literalLines cs ++ rest = '\'' :: '\'' :: '\'' ::
      (firstBreak cs ++ (cs ++ '\'' :: '\'' :: '\'' :: rest)) := by simp [Printer.literalLines]
  rw [text, read, skipLineEnd_firstBreak]
  · exact literalLines_of_run cs plain few (Nat.le_refl 0) apart
  · intro none
    cases cs with
    | nil => simp
    | cons c cs =>
      have control := plain c List.mem_cons_self
      exact ⟨by simpa using fun same : c = '\n' => none (same ▸ List.mem_cons_self),
        by simpa using ne_return_of_isControl control⟩

theorem read_quoted (s : String) {rest : List Char} (double : rest.head? ≠ some '"')
    (single : rest.head? ≠ some '\'') :
    read ((quoted s).toList ++ rest) = some (s.toList, rest) := by
  unfold quoted
  generalize s.toList = cs
  extract_lets chars control backslash newline doubles singles
  have plain (none : control = false) : ∀ c ∈ cs, isControl c = false := by
    simpa [control, hasControl] using none
  rw [String.toList_ofList]
  split
  · exact read_inLine double cs
  split
  case isTrue oneLine =>
    simp only [Bool.and_eq_true, Bool.not_eq_true', beq_iff_eq] at oneLine
    obtain ⟨⟨none, unquoted⟩, whole⟩ := oneLine
    refine read_literal single (fun c member => ?_) (not_mem_of_longestRun unquoted)
    refine isPlain_of_isControl (plain none c member) ?_
    rintro rfl
    simp [newline, member] at whole
  split
  · exact read_overLines double cs
  split
  case isTrue several =>
    simp only [Bool.and_eq_true, Bool.not_eq_true', decide_eq_true_eq] at several
    exact read_literalLines single (plain several.1) several.2
  split
  · exact read_overLines double cs
  · exact read_inLine double cs

end Read

end Playground.Toml.Literal
