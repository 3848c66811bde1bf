import Playground.Proofs.Url.Folding
import Playground.Proofs.Url.HostText
import Playground.Proofs.Url.Insertions
import Playground.Proofs.Url.Reread

/-!
Names that are brought into ASCII again. The labels of a name are normal forms of characters that
are written as they are, so that the ASCII form of a label, once it is read, is the form of the same
label. Main statement: a name in ASCII is its own ASCII form if none of its encoded labels is longer
than what is decoded, and otherwise it has none.
-/

namespace Playground.Url.Domain

open Unicode

def dot : Nat := 0x2e

theorem separate_dot : Separate dot := by
  refine ⟨by decide, ⟨by decide, by decide +kernel⟩, fun b => ?_, fun a => if_pos (by decide)⟩
  have korean : Hangul.syllable? dot b = none := by
    rw [Hangul.syllable?, if_neg fun within => absurd within.1 (by decide)]
    rfl
  have unpaired : ∀ row ∈ composites, row.2.1 ≠ dot := by decide +kernel
  rw [composite?, korean, List.find?_eq_none.mpr fun row member => ?_]
  · simp
  · simp [unpaired row member]

theorem toNat_eq_dot {c : Char} : c.toNat = dot ↔ c = '.' := Char.toNat_inj (d := '.')

theorem closed_dotless : Closed (· ≠ dot) := by
  refine ⟨by decide +kernel, by decide +kernel, ?_⟩
  rintro n within rfl
  revert within
  decide

theorem dotless_normalize {cs : List Char} (dotless : ∀ c ∈ cs, c ≠ '.') :
    ∀ c ∈ normalize cs, c ≠ '.' := by
  have numbers := closed_dotless.normalize fun c member => mt toNat_eq_dot.mp (dotless c member)
  exact fun c member => mt toNat_eq_dot.mpr (numbers c member)

theorem normalize_append (front back : List Char) :
    normalize (front ++ '.' :: back) = normalize front ++ '.' :: normalize back := by
  refine (List.map_inj_right fun _ _ => Char.toNat_inj.mp).mp ?_
  have whole := separate_dot.normalForm_append (front.map Char.toNat) (back.map Char.toNat)
  rw [map_toNat_normalize, List.map_append, List.map_append, List.map_cons, List.map_cons,
    map_toNat_normalize, map_toNat_normalize]
  exact whole

theorem splitDots_eq_splitOn (cs : List Char) : splitDots cs = splitOn (· == '.') cs := by
  induction cs with
  | nil => rfl
  | cons c cs ih =>
    rw [splitDots, splitOn, ih]
    split
    case h_1 none => exact absurd none (splitOn_ne_nil _ cs)
    case h_2 label labels parts =>
      simp only [parts, beq_iff_eq]

section Dots

variable {front : List Char} (dotless : ∀ c ∈ front, c ≠ '.')
include dotless

theorem splitDots_append (back : List Char) :
    splitDots (front ++ '.' :: back) = front :: splitDots back := by
  rw [splitDots_eq_splitOn, splitDots_eq_splitOn]
  exact splitOn_append (fun c member => by simpa using dotless c member) rfl back

theorem splitDots_single : splitDots front = [front] := by
  rw [splitDots_eq_splitOn]
  exact splitOn_free fun c member => by simpa using dotless c member

end Dots

/-- A property of texts that holds of texts without dots and goes over a dot. -/
theorem dots_induction {P : List Char → Prop} (single : ∀ cs, (∀ c ∈ cs, c ≠ '.') → P cs)
    (append : ∀ front back, (∀ c ∈ front, c ≠ '.') → P back → P (front ++ '.' :: back))
    (cs : List Char) : P cs := by
  by_cases dotted : '.' ∈ cs
  · obtain ⟨front, back, whole, first⟩ := List.eq_append_cons_of_mem dotted
    have shorter : back.length < cs.length := by
      rw [whole, List.length_append, List.length_cons]
      omega
    rw [whole]
    exact append front back (fun c member => ne_of_mem_of_not_mem member first)
      (dots_induction single append back)
  · exact single cs fun c member => ne_of_mem_of_not_mem member dotted
termination_by cs.length

theorem splitDots_normalize (cs : List Char) :
    splitDots (normalize cs) = (splitDots cs).map normalize := by
  induction cs using dots_induction with
  | single cs dotless =>
    rw [splitDots_single dotless, splitDots_single (dotless_normalize dotless)]
    rfl
  | append front back dotless ih =>
    rw [normalize_append, splitDots_append (dotless_normalize dotless), splitDots_append dotless, ih]
    rfl

theorem normalize_of_mem_splitDots {cs label : List Char} (normal : normalize cs = cs)
    (member : label ∈ splitDots cs) : normalize label = label := by
  have labels := splitDots_normalize cs
  rw [normal] at labels
  have same := (List.map_id (splitDots cs)).trans labels
  exact (List.map_inj_left.mp same label member).symm

theorem dotless_of_mem_splitDots {cs label : List Char} (member : label ∈ splitDots cs) :
    ∀ c ∈ label, c ≠ '.' := by
  rw [splitDots_eq_splitOn] at member
  exact fun c inside => by simpa using sep_of_mem_splitOn member c inside

theorem dot_or_mem_splitDots {cs : List Char} {c : Char} (member : c ∈ cs) :
    c = '.' ∨ ∃ label ∈ splitDots cs, c ∈ label := by
  induction cs using dots_induction with
  | single cs dotless =>
    rw [splitDots_single dotless]
    exact .inr ⟨cs, List.mem_singleton_self cs, member⟩
  | append front back dotless ih =>
    rw [splitDots_append dotless]
    obtain first | later := List.mem_append.mp member
    · exact .inr ⟨front, List.mem_cons_self, first⟩
    · obtain own | rest := List.mem_cons.mp later
      · exact .inl own
      · exact (ih rest).imp_right fun ⟨label, inside, own⟩ =>
          ⟨label, List.mem_cons_of_mem front inside, own⟩

theorem splitDots_intercalate {labels : List (List Char)} (some : labels ≠ [])
    (dotless : ∀ cs ∈ labels, ∀ c ∈ cs, c ≠ '.') :
    splitDots (['.'].intercalate labels) = labels := by
  induction labels with
  | nil => exact absurd rfl some
  | cons cs labels ih =>
    obtain ⟨own, later⟩ := List.forall_mem_cons.mp dotless
    cases labels with
    | nil => rw [List.intercalate_singleton, splitDots_single own]
    | cons next labels =>
      have rest := ih (List.cons_ne_nil next labels) later
      rw [List.intercalate_cons_cons, List.append_assoc]
      show splitDots (cs ++ '.' :: ['.'].intercalate (next :: labels)) = _
      rw [splitDots_append own, rest]

/-- Whether a label that stands in a name in ASCII is not too long to be decoded. -/
def isReadable (label : List Char) : Bool :=
  label.take asciiMark.length != asciiMark || label.length ≤ asciiMark.length + maxForm

def isWritten (c : Char) : Bool := Punycode.isAscii c && c.toLower == c && c != '.'

theorem isWritten_iff {c : Char} :
    isWritten c = true ↔ Punycode.isAscii c = true ∧ c.toLower = c ∧ c ≠ '.' := by
  simp [isWritten, and_assoc]

theorem isWritten_of_isDigit {c : Char} (digit : Punycode.isDigit c = true) :
    isWritten c = true := by
  have all : ∀ n < 128, Punycode.isDigit (Char.ofNat n) = true →
      isWritten (Char.ofNat n) = true := by
    decide
  have own := all c.toNat (Punycode.toNat_lt_of_isDigit digit)
  rw [Char.ofNat_toNat] at own
  exact own digit

theorem isWritten_of_kept {c : Char} (ascii : Punycode.isAscii c = true)
    (kept : Folding.Kept c.toNat) (dotless : c ≠ '.') : isWritten c = true := by
  have small : c.toNat < 0x80 := of_decide_eq_true ascii
  have folded : Folding.fold? c = some [c.toLower] := if_pos small
  have own := eq_of_beq (Folding.isPlain_of_kept kept)
  rw [folded, Option.some.injEq, List.cons.injEq] at own
  exact isWritten_iff.mpr ⟨ascii, own.1, dotless⟩

/-- A form that is written in small letters, and is read as the form of the same label unless it is
too long. -/
structure Reread (f : Form) : Prop where
  written : ∀ c ∈ f.ascii, isWritten c = true
  again : form? f.ascii = if isReadable f.ascii then some f else none

section Labels

variable {label : List Char} (kept : ∀ c ∈ label, Folding.Kept c.toNat)
  (dotless : ∀ c ∈ label, c ≠ '.')
include kept dotless

theorem reread_of_ascii {letters : List Char} (form : form? label = some ⟨letters, label⟩)
    (ascii : ∀ c ∈ label, Punycode.isAscii c = true) (readable : isReadable label = true) :
    Reread ⟨letters, label⟩ :=
  ⟨fun c member => isWritten_of_kept (ascii c member) (kept c member) (dotless c member), by
    rw [form, if_pos readable]⟩

theorem reread_of_encode (normal : normalize label = label)
    (foreign : label.all Punycode.isAscii = false) (short : label.length ≤ maxLetters) :
    Reread ⟨label, asciiMark ++ Punycode.encode label⟩ := by
  have written : ∀ c ∈ asciiMark ++ Punycode.encode label, isWritten c = true := by
    intro c member
    obtain mark | encoded := List.mem_append.mp member
    · have all : asciiMark.all isWritten = true := by decide
      exact List.all_eq_true.mp all c mark
    · obtain ⟨inside, ascii⟩ | rfl | digit := Punycode.of_mem_encode encoded
      · exact isWritten_of_kept ascii (kept c inside) (dotless c inside)
      · decide
      · exact isWritten_of_isDigit digit
  refine ⟨written, ?_⟩
  have proper : areProper label = true := by
    have plain : label.all Folding.isPlain = true :=
      List.all_eq_true.mpr fun c member => Folding.isPlain_of_kept (kept c member)
    simp [areProper, foreign, plain, normal, short]
  have ascii : (Punycode.encode label).all Punycode.isAscii = true :=
    List.all_eq_true.mpr fun c member =>
      (isWritten_iff.mp (written c (List.mem_append_right asciiMark member))).1
  have marked : (asciiMark ++ Punycode.encode label).take asciiMark.length = asciiMark :=
    List.take_left
  have rest : (asciiMark ++ Punycode.encode label).drop asciiMark.length = Punycode.encode label :=
    List.drop_left
  have readable : isReadable (asciiMark ++ Punycode.encode label) =
      decide ((Punycode.encode label).length ≤ maxForm) := by
    simp [isReadable, marked]
  rw [form?, if_pos marked, rest, readable, read?, ascii, Bool.true_and,
    Punycode.decode_encode short]
  simp only [Option.filter_some, proper, if_true]
  split <;> rfl

theorem reread_of_form? (normal : normalize label = label) {f : Form}
    (form : form? label = some f) : Reread f := by
  have own := form
  unfold form? at own
  split at own
  case isTrue marked =>
    obtain ⟨letters, read, rfl⟩ := Option.map_eq_some_iff.mp own
    obtain ⟨checked, -⟩ := Option.ite_none_right_eq_some.mp read
    rw [Bool.and_eq_true, List.all_eq_true, decide_eq_true_eq] at checked
    refine reread_of_ascii kept dotless form (fun c member => ?_) ?_
    · rw [← List.take_append_drop asciiMark.length label, List.mem_append, marked] at member
      obtain mark | rest := member
      · have all : asciiMark.all Punycode.isAscii = true := by decide
        exact List.all_eq_true.mp all c mark
      · exact checked.1 c rest
    · have short := checked.2
      rw [List.length_drop] at short
      rw [isReadable, Bool.or_eq_true, decide_eq_true_eq]
      omega
  case isFalse unmarked =>
    split at own
    case isTrue ascii =>
      obtain rfl := Option.some.inj own
      exact reread_of_ascii kept dotless form (List.all_eq_true.mp ascii)
        (by simp [isReadable, unmarked])
    case isFalse foreign =>
      obtain ⟨short, own⟩ := Option.ite_none_right_eq_some.mp own
      obtain rfl := Option.some.inj own
      exact reread_of_encode kept dotless normal (Bool.eq_false_iff.mpr foreign) short

end Labels

theorem mapM_form?_ascii {forms : List Form} (reread : ∀ f ∈ forms, Reread f) :
    (forms.map Form.ascii).mapM form? =
      if (forms.map Form.ascii).all isReadable then some forms else none := by
  induction forms with
  | nil => rfl
  | cons f forms ih =>
    obtain ⟨own, later⟩ := List.forall_mem_cons.mp reread
    rw [List.map_cons, List.mapM_cons, own.again, ih later, List.all_cons]
    by_cases readable : isReadable f.ascii = true
    · rw [if_pos readable, readable, Bool.true_and]
      split <;> rfl
    · rw [if_neg readable, Bool.eq_false_iff.mpr readable]
      rfl

theorem kept_of_fold {cs : List Char} {folded : List (List Char)}
    (fold : cs.mapM Folding.fold? = some folded) :
    ∀ c ∈ normalize folded.flatten, Folding.Kept c.toNat := by
  refine Folding.closed_kept.normalize fun c member => ?_
  obtain ⟨image, inside, own⟩ := List.mem_flatten.mp member
  obtain ⟨d, -, written⟩ := of_mem_mapM fold inside
  exact Folding.kept_of_fold? written c own

theorem forms_ne_nil {cs : List Char} {forms : List Form}
    (read : (splitDots cs).mapM form? = some forms) : forms ≠ [] := by
  rintro rfl
  cases labels : splitDots cs with
  | nil => exact splitOn_ne_nil _ _ ((splitDots_eq_splitOn _).symm.trans labels)
  | cons label rest =>
    rw [labels, List.mapM_cons] at read
    obtain ⟨f, -, read⟩ := Option.bind_eq_some_iff.mp read
    obtain ⟨fs, -, read⟩ := Option.bind_eq_some_iff.mp read
    cases read

/-- A name in ASCII is its own ASCII form, unless it has a label that is too long to be decoded. -/
theorem ascii?_ascii? {cs name : List Char} (named : ascii? cs = some name) :
    ascii? name = if (splitDots name).all isReadable then some name else none := by
  obtain ⟨folded, fold, named⟩ := Option.bind_eq_some_iff.mp named
  obtain ⟨forms, mapped, checked⟩ := Option.bind_eq_some_iff.mp named
  have kept := kept_of_fold fold
  have reread : ∀ f ∈ forms, Reread f := by
    intro f member
    obtain ⟨label, inside, form⟩ := of_mem_mapM mapped member
    exact reread_of_form? (fun c own => kept c (of_mem_splitDots inside c own))
      (dotless_of_mem_splitDots inside)
      (normalize_of_mem_splitDots (normalize_normalize folded.flatten) inside) form
  have written : ∀ label ∈ forms.map Form.ascii, ∀ c ∈ label, isWritten c = true := by
    intro label member
    obtain ⟨f, inside, rfl⟩ := List.mem_map.mp member
    exact (reread f inside).written
  have some : forms.map Form.ascii ≠ [] := mt List.map_eq_nil_iff.mp (forms_ne_nil mapped)
  have own : ofForms forms = Option.some name := checked
  obtain ⟨whole, -⟩ := eq_of_ofForms own
  have labels : splitDots name = forms.map Form.ascii := by
    rw [whole]
    exact splitDots_intercalate some fun label member c inside =>
      (isWritten_iff.mp (written label member c inside)).2.2
  have small : ∀ c ∈ name, Punycode.isAscii c = true ∧ c.toLower = c := by
    intro c member
    obtain rfl | ⟨label, inside, own⟩ := dot_or_mem_splitDots member
    · decide
    · rw [labels] at inside
      have own := isWritten_iff.mp (written label inside c own)
      exact ⟨own.1, own.2.1⟩
  have lower : name.map Char.toLower = name :=
    (List.map_congr_left fun c member => (small c member).2).trans (List.map_id name)
  rw [ascii?_of_isAscii fun c member => (small c member).1, lower, labels, mapM_form?_ascii reread]
  split
  · exact own
  · rfl

end Playground.Url.Domain
