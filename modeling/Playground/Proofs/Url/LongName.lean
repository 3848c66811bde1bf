import Playground.Proofs.Url.HostAgain
import Playground.Proofs.Url.Punycode

/-!
Names that are written but not read. A label that is brought into ASCII may have a thousand letters,
and its ASCII form may then have more characters than are read again. Main statement: a name of one
label that is not in ASCII is the host of a URL, and there are such names whose form is too long.
-/

namespace Playground.Url

open Unicode

namespace Domain

theorem ascii?_of_isPlain {cs : List Char} (plain : ∀ c ∈ cs, Folding.isPlain c = true)
    (normal : normalize cs = cs) : ascii? cs = (splitDots cs).mapM form? >>= ofForms := by
  have folded : cs.mapM Folding.fold? = some (cs.map fun c => [c]) := by
    clear normal
    induction cs with
    | nil => rfl
    | cons c cs ih =>
      obtain ⟨own, later⟩ := List.forall_mem_cons.mp plain
      rw [List.mapM_cons, eq_of_beq own, ih later]
      rfl
  have flat : (cs.map fun c => [c]).flatten = cs := by
    rw [← List.flatMap_def]
    exact List.flatMap_singleton' cs
  rw [ascii?, folded]
  show (splitDots (normalize (List.flatten _))).mapM form? >>= _ = _
  rw [flat, normal]
  rfl

/-- A label with letters that are not ASCII, all of them written as they are. -/
structure Foreign (cs : List Char) : Prop where
  kept : ∀ c ∈ cs, Folding.Kept c.toNat
  normal : normalize cs = cs
  ordinary : ∀ c ∈ cs, Label.IsOrdinary c
  allowed : ∀ c ∈ cs, isForbidden c = false ∧ c ≠ '.'
  foreign : cs.all Punycode.isAscii = false
  unmarked : cs.take asciiMark.length ≠ asciiMark
  short : cs.length ≤ maxLetters

section Foreign

variable {cs : List Char} (label : Foreign cs)
include label

theorem Foreign.written {c : Char} (member : c ∈ asciiMark ++ Punycode.encode cs) :
    isWritten c = true ∧ isForbidden c = false := by
  have form := reread_of_encode label.kept (fun c inside => (label.allowed c inside).2) label.normal
    label.foreign label.short
  refine ⟨form.written c member, ?_⟩
  obtain mark | encoded := List.mem_append.mp member
  · have all : asciiMark.all (fun c => !isForbidden c) = true := by decide
    simpa using List.all_eq_true.mp all c mark
  · obtain ⟨inside, -⟩ | rfl | digit := Punycode.of_mem_encode encoded
    · exact (label.allowed c inside).1
    · decide
    · have all : ∀ n < 128, Punycode.isDigit (Char.ofNat n) = true →
          isForbidden (Char.ofNat n) = false := by decide
      have own := all c.toNat (Punycode.toNat_lt_of_isDigit digit)
      rw [Char.ofNat_toNat] at own
      exact own digit

theorem Foreign.form?_eq : form? cs = some ⟨cs, asciiMark ++ Punycode.encode cs⟩ := by
  rw [form?, if_neg label.unmarked, if_neg (Bool.eq_false_iff.mp label.foreign),
    if_pos label.short]

theorem Foreign.ascii?_eq : ascii? cs = some (asciiMark ++ Punycode.encode cs) := by
  have single := splitDots_single fun c member => (label.allowed c member).2
  have formed : [cs].mapM form? = some [⟨cs, asciiMark ++ Punycode.encode cs⟩] := by
    rw [List.mapM_cons, label.form?_eq]
    rfl
  have wellFormed := Label.isWellFormed_of_isOrdinary label.ordinary
  have oneWay : Label.areOneWay [cs] = true := by
    refine Label.areOneWay_of_isOrdinary fun ds member => ?_
    obtain rfl := List.mem_singleton.mp member
    exact label.ordinary
  have allowed : (asciiMark ++ Punycode.encode cs).any isForbidden = false := by
    rw [List.any_eq_false]
    exact fun c member => by simp [(label.written member).2]
  rw [ascii?_of_isPlain (fun c member => Folding.isPlain_of_kept (label.kept c member)) label.normal,
    single, formed]
  simp [ofForms, wellFormed, oneWay, allowed]

theorem Foreign.isReadable_eq :
    (Host.domain (String.ofList (asciiMark ++ Punycode.encode cs))).isReadable =
      decide ((Punycode.encode cs).length ≤ maxForm) := by
  have single := splitDots_single fun c member =>
    (isWritten_iff.mp (label.written (c := c) member).1).2.2
  have marked : (asciiMark ++ Punycode.encode cs).take asciiMark.length = asciiMark :=
    List.take_left
  rw [Host.isReadable, String.toList_ofList, single]
  simp [isReadable, marked]

end Foreign

theorem settled_ideographs : Settled 0x4e00 0x9fff := by constructor <;> decide +kernel

theorem ordinary_ideographs : Label.Ordinary 0x4e00 0x9fff := by constructor <;> decide +kernel

theorem allowed_of_large {c : Char} (large : 0x80 ≤ c.toNat) : isForbidden c = false ∧ c ≠ '.' := by
  have other {d : Char} (ascii : d.toNat < 0x80) : c ≠ d := by
    rintro rfl
    omega
  refine ⟨?_, other (by decide)⟩
  have unlisted : ['%', '#', '/', ':', '<', '>', '?', '@', '[', '\\', ']', '^', '|'].contains c =
      false := by
    rw [List.contains_eq_mem, decide_eq_false_iff_not]
    intro listed
    have small : ['%', '#', '/', ':', '<', '>', '?', '@', '[', '\\', ']', '^', '|'].all
        fun d => decide (d.toNat < 0x80) := by decide
    exact other (of_decide_eq_true (List.all_eq_true.mp small c listed)) rfl
  rw [isForbidden, unlisted, Bool.or_false, Bool.or_eq_false_iff, decide_eq_false_iff_not,
    beq_eq_false_iff_ne]
  constructor <;> omega

theorem of_mem_scattered {plain letters : Nat} (few : letters ≤ 1000) {c : Char}
    (member : c ∈ Punycode.scattered plain letters) :
    c = 'a' ∨ 0x4e00 ≤ c.toNat ∧ c.toNat ≤ 0x9fff := by
  obtain first | other := List.mem_append.mp member
  · exact .inl (List.eq_of_mem_replicate first)
  · obtain ⟨n, inside, rfl⟩ := List.mem_map.mp other
    obtain ⟨value, range⟩ := Punycode.toNat_of_mem_range' few inside
    rw [value]
    exact .inr range

theorem foreign_scattered {plain letters : Nat} (many : 4 ≤ plain) (some : 0 < letters)
    (short : plain + letters ≤ maxLetters) : Foreign (Punycode.scattered plain letters) := by
  rw [maxLetters] at short
  have few : letters ≤ 1000 := by omega
  constructor
  case kept =>
    intro c member
    obtain rfl | ⟨low, high⟩ := of_mem_scattered few member
    · exact Folding.kept_of_ascii (by decide) (by decide)
    · exact Folding.kept_of_ideograph low high
  case normal =>
    refine normalize_of_settled fun c member => ?_
    obtain rfl | ⟨low, high⟩ := of_mem_scattered few member
    · exact ⟨0, 0x7f, settled_ascii, by decide, by decide⟩
    · exact ⟨_, _, settled_ideographs, low, high⟩
  case ordinary =>
    intro c member
    obtain rfl | ⟨low, high⟩ := of_mem_scattered few member
    · exact isOrdinary_of_isAscii rfl
    · exact ⟨_, _, ordinary_ideographs, low, high⟩
  case allowed =>
    intro c member
    obtain rfl | ⟨low, -⟩ := of_mem_scattered few member
    · decide
    · exact allowed_of_large (by omega)
  case foreign =>
    rw [List.all_eq_false]
    refine ⟨Char.ofNat 0x4e00, List.mem_append_right _ ?_, by decide⟩
    exact List.mem_map_of_mem (List.mem_range'.mpr ⟨0, some, rfl⟩)
  case unmarked =>
    obtain ⟨more, rfl⟩ := Nat.exists_eq_add_of_le' many
    intro marked
    rw [Punycode.scattered] at marked
    simp [List.replicate_succ, asciiMark] at marked
  case short =>
    simp only [Punycode.scattered, List.length_append, List.length_replicate, List.length_map,
      List.length_range']
    exact short

end Domain

theorem Ipv4.endsInNumber_marked {rest : List Char} (single : ∀ c ∈ 'x' :: rest, c ≠ '.') :
    endsInNumber ('x' :: rest) = false := by
  have whole : splitOn (· == '.') ('x' :: rest) = ['x' :: rest] :=
    splitOn_free fun c member => by simpa using single c member
  have none : digits? 10 ('x' :: rest) = none := by
    have stays (cs : List Char) : cs.foldl (fun n c => do
        let n ← n
        let d ← Text.Hex.value? c
        if d < 10 then some (n * 10 + d) else none) none = none := by
      induction cs with
      | nil => rfl
      | cons c cs ih => exact ih
    exact stays rest
  have part : part? ('x' :: rest) = digits? 10 ('x' :: rest) := rfl
  have letter : Char.isDigit 'x' = false := rfl
  simp [endsInNumber, whole, part, none, letter]

namespace Reader

variable {cs : List Char} (label : Domain.Foreign cs)
include label

theorem specialHost_foreign :
    specialHost cs = .ok (.domain (String.ofList (Domain.asciiMark ++ Punycode.encode cs))) := by
  have bare : ∀ c ∈ cs, c ≠ '%' ∧ c ≠ '[' := by
    intro c member
    constructor <;> rintro rfl <;> cases (label.allowed _ member).1
  have word : Ipv4.endsInNumber (Domain.asciiMark ++ Punycode.encode cs) = false :=
    Ipv4.endsInNumber_marked fun c member => (Domain.isWritten_iff.mp (label.written member).1).2.2
  rw [specialHost_of_plain bare, label.ascii?_eq]
  simp only [word, Bool.false_eq_true, if_false]
  rfl

end Reader

theorem parse_foreign {cs : List Char} (label : Domain.Foreign cs) :
    Url.parse ("http://" ++ String.ofList cs ++ "/") = .ok ⟨"http", some ⟨"", "",
      .domain (String.ofList (Domain.asciiMark ++ Punycode.encode cs)), none⟩, .segments [""], none,
      none⟩ := by
  have some : cs ≠ [] := by
    rintro rfl
    cases label.foreign
  let spelled : Url := ⟨"http", Option.some ⟨"", "", .domain (String.ofList cs), none⟩,
    .segments [""], none, none⟩
  have text : spelled.text = "http://" ++ String.ofList cs ++ "/" := by
    refine String.toList_injective ?_
    simp [spelled, toList_text, authorityChars, pathChars, markedChars, Authority.credentials,
      Host.text, portText]
  have host : Host.Spelled (Host.domain (String.ofList cs)).text.toList := by
    rw [Host.text, String.toList_ofList]
    exact .name some fun c member => (label.allowed c member).1
  have legible : spelled.Legible := by
    refine ⟨.inl rfl, ⟨_, rfl, ⟨by simp, by simp, host, by simp⟩⟩, ⟨_, rfl, by simp, ?_⟩, ?_, ?_⟩
    · simpa using isSegment_nil
    · rintro q ⟨⟩
    · rintro f ⟨⟩
  rw [← text, parse_text legible rfl, Host.text, String.toList_ofList,
    Reader.specialHost_foreign label]
  rfl

end Playground.Url
