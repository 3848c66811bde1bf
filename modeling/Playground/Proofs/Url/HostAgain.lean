import Playground.Proofs.Url.Ipv6
import Playground.Proofs.Url.NameForm

/-!
Hosts that are read again from their texts. Main statement: the text of a host that was read is read
as this host, unless it is a name with a label that is too long to be decoded, and then it is no
host.
-/

namespace Playground.Url

open Unicode

namespace Ipv4

def octets (address : Nat) : List Nat :=
  [address / 16777216, address / 65536 % 256, address / 256 % 256, address % 256]

def written (address : Nat) : List (List Char) := (octets address).map (Nat.toDigits 10)

theorem toList_text (address : Nat) :
    (text address).toList = ['.'].intercalate (written address) := by
  have whole : text address = toString (address / 16777216) ++ "." ++
      toString (address / 65536 % 256) ++ "." ++ toString (address / 256 % 256) ++ "." ++
        toString (address % 256) := rfl
  rw [whole]
  simp [written, octets, List.intercalate_cons_cons, Nat.toString_eq_repr]

theorem part?_toDigits : ∀ n < 256, part? (Nat.toDigits 10 n) = some n := by decide +kernel

def maxAddress : Nat := 256 ^ 4

theorem length_of_mapM {α β : Type} {f : α → Option β} {xs : List α} {ys : List β}
    (mapped : xs.mapM f = some ys) : ys.length = xs.length := by
  induction xs generalizing ys with
  | nil =>
    cases mapped
    rfl
  | cons x xs ih =>
    rw [List.mapM_cons] at mapped
    obtain ⟨y, -, mapped⟩ := Option.bind_eq_some_iff.mp mapped
    obtain ⟨rest, later, mapped⟩ := Option.bind_eq_some_iff.mp mapped
    cases mapped
    rw [List.length_cons, List.length_cons, ih later]

theorem sum_le {first : List Nat} (each : ∀ n ∈ first, n ≤ 255) {k : Nat}
    (few : k + first.length ≤ 3) (start : Nat) :
    (first.zipIdx k).foldl (fun sum (n, i) => sum + n * Nat.pow 256 (3 - i)) start +
      256 ^ (4 - (k + first.length)) ≤ start + 256 ^ (4 - k) := by
  induction first generalizing k start with
  | nil => exact Nat.le_refl _
  | cons n first ih =>
    obtain ⟨own, each⟩ := List.forall_mem_cons.mp each
    rw [List.length_cons] at few
    have rest := ih each (k := k + 1) (by omega) (start + n * 256 ^ (3 - k))
    have place : 256 ^ (4 - k) = 256 ^ (3 - k) * 256 := by
      rw [← Nat.pow_succ]
      congr 1
      omega
    have most : n * 256 ^ (3 - k) ≤ 255 * 256 ^ (3 - k) := Nat.mul_le_mul_right _ own
    rw [show 4 - (k + 1) = 3 - k by omega] at rest
    rw [List.zipIdx_cons, List.foldl_cons, List.length_cons,
      show k + (first.length + 1) = k + 1 + first.length by omega]
    refine Nat.le_trans rest ?_
    omega

theorem lt_of_read {domain : List Char} {address : Nat} (read : read domain = .ok address) :
    address < maxAddress := by
  unfold Ipv4.read at read
  simp only at read
  split at read
  case isTrue => cases read
  case isFalse few =>
    split at read
    case h_1 => cases read
    case h_2 numbers each =>
      have length := length_of_mapM each
      split at read
      case h_1 => cases read
      case h_2 last final =>
        split at read
        case isTrue => cases read
        case isFalse within =>
          obtain rfl := Except.ok.inj read
          obtain ⟨first, rfl⟩ := List.getLast?_eq_some_iff.mp final
          have size : first.length ≤ 3 := by
            rw [List.length_append, List.length_singleton] at length
            omega
          rw [List.dropLast_concat] at within ⊢
          simp only [Bool.or_eq_true, decide_eq_true_eq, List.any_eq_true, not_or, not_exists,
            not_and] at within
          obtain ⟨lastSmall, firstSmall⟩ := within
          have sum := sum_le (fun n member => Nat.le_of_not_lt (firstSmall n member))
            (k := 0) (by omega) last
          rw [Nat.zero_add] at sum
          rw [maxAddress]
          simp only [Nat.pow_eq] at lastSmall sum ⊢
          omega

section Address

variable {address : Nat} (small : address < maxAddress)
include small

theorem octets_lt : ∀ n ∈ octets address, n < 256 := by
  rw [maxAddress] at small
  simp only [octets, List.forall_mem_cons]
  refine ⟨by omega, by omega, by omega, by omega, by simp⟩

omit small in
theorem isDigit_of_mem_written {address : Nat} {part : List Char} (member : part ∈ written address) :
    part ≠ [] ∧ ∀ c ∈ part, c.isDigit = true := by
  obtain ⟨n, -, rfl⟩ := List.mem_map.mp member
  exact ⟨Nat.toDigits_ne_nil, fun c inside =>
    Nat.isDigit_of_mem_toDigits (by decide) (by decide) inside⟩

omit small in
theorem splitDots_text (address : Nat) :
    Domain.splitDots (text address).toList = written address := by
  rw [toList_text, Domain.splitDots_intercalate (by simp [written, octets])]
  rintro part member c inside rfl
  cases (isDigit_of_mem_written member).2 _ inside

theorem mapM_written : (written address).mapM part? = some (octets address) := by
  have each (ns : List Nat) (small : ∀ n ∈ ns, n < 256) :
      (ns.map (Nat.toDigits 10)).mapM part? = some ns := by
    induction ns with
    | nil => rfl
    | cons n ns ih =>
      obtain ⟨own, small⟩ := List.forall_mem_cons.mp small
      rw [List.map_cons, List.mapM_cons, part?_toDigits n own, ih small]
      rfl
  exact each _ (octets_lt small)

omit small in
theorem getLast?_written (address : Nat) :
    (written address).getLast? = some (Nat.toDigits 10 (address % 256)) := rfl

theorem read_text : read (text address).toList = .ok address := by
  have split := splitDots_text address
  rw [Domain.splitDots_eq_splitOn] at split
  have parts : parts (text address).toList = written address := by
    rw [Ipv4.parts, split, getLast?_written]
    exact if_neg fun none => Nat.toDigits_ne_nil (Option.some.inj none)
  have last : (octets address).getLast? = some (address % 256) := rfl
  have front : (octets address).dropLast =
      [address / 16777216, address / 65536 % 256, address / 256 % 256] := rfl
  have most : (octets address).dropLast.any (255 < ·) = false := by
    rw [List.any_eq_false]
    intro n member
    have below := octets_lt small n ((List.dropLast_sublist _).mem member)
    simp only [decide_eq_true_eq]
    omega
  have fits : ¬ Nat.pow 256 (4 - (octets address).dropLast.length) ≤ address % 256 := by
    rw [front]
    show ¬ 256 ≤ address % 256
    omega
  have sum : address % 256 + address / 16777216 * Nat.pow 256 3 +
      address / 65536 % 256 * Nat.pow 256 2 + address / 256 % 256 * Nat.pow 256 1 = address := by
    have powers : Nat.pow 256 1 = 256 ∧ Nat.pow 256 2 = 65536 ∧ Nat.pow 256 3 = 16777216 := by
      decide
    obtain ⟨one, two, three⟩ := powers
    rw [one, two, three]
    omega
  rw [Ipv4.read, parts, mapM_written small]
  simp only [last, most, decide_eq_false fits, Bool.or_false, Bool.false_eq_true, if_false]
  rw [if_neg (by simp [written, octets])]
  exact congrArg Except.ok sum

omit small in
theorem endsInNumber_text (address : Nat) : endsInNumber (text address).toList = true := by
  have split := splitDots_text address
  rw [Domain.splitDots_eq_splitOn] at split
  have member : Nat.toDigits 10 (address % 256) ∈ written address :=
    List.mem_of_getLast? (getLast?_written address)
  have last := isDigit_of_mem_written member
  have order : (written address).reverse =
      Nat.toDigits 10 (address % 256) :: (written address).dropLast.reverse := rfl
  rw [endsInNumber, split, order]
  cases digits : Nat.toDigits 10 (address % 256) with
  | nil => exact absurd digits last.1
  | cons c cs =>
    have each : (c :: cs).all Char.isDigit = true := by
      rw [← digits, List.all_eq_true]
      exact last.2
    simp [each]

end Address

end Ipv4

theorem Domain.ascii?_of_unmarked {cs : List Char}
    (small : ∀ c ∈ cs, Punycode.isAscii c = true ∧ c.toLower = c)
    (allowed : ∀ c ∈ cs, isForbidden c = false)
    (unmarked : ∀ label ∈ splitDots cs, label.take asciiMark.length ≠ asciiMark) :
    ascii? cs = some cs := by
  have lower : cs.map Char.toLower = cs :=
    (List.map_congr_left fun c member => (small c member).2).trans (List.map_id cs)
  have ascii : ∀ label ∈ splitDots cs, ∀ c ∈ label, Punycode.isAscii c = true := fun label member c
    inside => (small c (of_mem_splitDots member c inside)).1
  have formed : (splitDots cs).mapM form? =
      some ((splitDots cs).map fun label => ⟨label, label⟩) := by
    generalize splitDots cs = labels at unmarked ascii
    induction labels with
    | nil => rfl
    | cons label labels ih =>
      obtain ⟨own, unmarked⟩ := List.forall_mem_cons.mp unmarked
      obtain ⟨plain, ascii⟩ := List.forall_mem_cons.mp ascii
      have form : form? label = some ⟨label, label⟩ := by
        rw [form?, if_neg own, if_pos (List.all_eq_true.mpr plain)]
      rw [List.mapM_cons, form, ih unmarked ascii]
      rfl
  have each : ((splitDots cs).map fun label => (⟨label, label⟩ : Form)).map Form.letters =
      splitDots cs ∧ ((splitDots cs).map fun label => (⟨label, label⟩ : Form)).map Form.ascii =
        splitDots cs := by
    simp only [List.map_map]
    exact ⟨List.map_id _, List.map_id _⟩
  have ordinary : ∀ label ∈ splitDots cs, ∀ c ∈ label, Label.IsOrdinary c := fun label member c
    inside => isOrdinary_of_isAscii (ascii label member c inside)
  have wellFormed : (splitDots cs).all Label.isWellFormed = true :=
    List.all_eq_true.mpr fun label member => Label.isWellFormed_of_isOrdinary (ordinary label member)
  have free : cs.any isForbidden = false := by
    rw [List.any_eq_false]
    exact fun c member => by simp [allowed c member]
  rw [ascii?_of_isAscii fun c member => (small c member).1, lower, formed]
  simp [ofForms, each, wellFormed, Label.areOneWay_of_isOrdinary ordinary, intercalate_splitDots, free]

theorem Ipv4.of_mem_text {address : Nat} {c : Char} (member : c ∈ (text address).toList) :
    Punycode.isAscii c = true ∧ c.toLower = c ∧ Domain.isForbidden c = false := by
  have digits : ∀ n < 58, (Char.ofNat n).isDigit = true → Punycode.isAscii (Char.ofNat n) = true ∧
      (Char.ofNat n).toLower = Char.ofNat n ∧ Domain.isForbidden (Char.ofNat n) = false := by decide
  obtain rfl | ⟨part, inside, own⟩ := Domain.dot_or_mem_splitDots member
  · decide
  · rw [splitDots_text] at inside
    have digit := (isDigit_of_mem_written inside).2 c own
    have small : c.toNat < 58 := by
      simp only [Char.isDigit, Bool.and_eq_true, decide_eq_true_eq, UInt32.le_iff_toNat_le] at digit
      exact Nat.lt_succ_of_le digit.2
    have facts := digits c.toNat small
    rw [Char.ofNat_toNat] at facts
    exact facts digit

theorem Domain.ascii?_ipv4 (address : Nat) :
    ascii? (Ipv4.text address).toList = some (Ipv4.text address).toList := by
  refine ascii?_of_unmarked (fun c member => ?_) (fun c member => (Ipv4.of_mem_text member).2.2) ?_
  · exact ⟨(Ipv4.of_mem_text member).1, (Ipv4.of_mem_text member).2.1⟩
  · rintro part member marked
    rw [Ipv4.splitDots_text] at member
    have mark : 'x' ∈ part.take asciiMark.length := by
      rw [marked]
      exact List.mem_cons_self
    cases (Ipv4.isDigit_of_mem_written member).2 'x' (List.mem_of_mem_take mark)

/-- Whether a host is no name, or one whose labels are not too long to be read. -/
def Host.isReadable : Host → Bool
  | .domain name => (Domain.splitDots name.toList).all Domain.isReadable
  | .ipv4 _ | .ipv6 _ => true

namespace Reader

theorem specialHost_ipv6 {pieces : List Nat} (address : Ipv6.IsAddress pieces) :
    specialHost (Ipv6.text pieces).toList = .ok (.ipv6 pieces) := by
  have read := Ipv6.read_inner address
  have last : ('[' :: (Ipv6.inner pieces ++ [']'])).getLast? = some ']' :=
    List.getLast?_concat (l := '[' :: Ipv6.inner pieces)
  have within : bracketed ('[' :: (Ipv6.inner pieces ++ [']'])) = .ok (.ipv6 pieces) := by
    rw [bracketed, if_pos last, List.drop_succ_cons, List.drop_zero, List.dropLast_concat, read]
    rfl
  rw [specialHost, Ipv6.toList_text, List.head?_cons, if_pos rfl, within]

theorem specialHost_ipv4 {address : Nat} (small : address < Ipv4.maxAddress) :
    specialHost (Ipv4.text address).toList = .ok (.ipv4 address) := by
  have plain : ∀ c ∈ (Ipv4.text address).toList, c ≠ '%' ∧ c ≠ '[' := by
    intro c member
    constructor <;> rintro rfl <;> cases (Ipv4.of_mem_text member).2.2
  have number := Ipv4.endsInNumber_text address
  have some : (Ipv4.text address).toList.isEmpty = false := by
    cases text : (Ipv4.text address).toList with
    | nil =>
      rw [text] at number
      cases number
    | cons => rfl
  rw [specialHost_of_plain plain, Domain.ascii?_ipv4]
  simp only [some, number, Ipv4.read_text small, Bool.false_eq_true, if_false, if_true]
  rfl

/-- The text of a host is read as the host, unless it has a label that is too long to be read. -/
theorem specialHost_text {cs : List Char} {host : Host} (read : specialHost cs = .ok host) :
    specialHost host.text.toList = if host.isReadable then .ok host else .error .invalidDomain := by
  cases readAs_of_specialHost read with
  | ipv6 _ address => exact specialHost_ipv6 (Ipv6.isAddress_of_read address)
  | ipv4 _ _ address => exact specialHost_ipv4 (Ipv4.lt_of_read address)
  | @domain name _ named some noNumber =>
    have allowed := plain_of_toAscii named
    have plain : ∀ c ∈ name, c ≠ '%' ∧ c ≠ '[' := by
      intro c member
      constructor <;> rintro rfl <;> cases allowed _ member
    obtain ⟨chars, own⟩ : ∃ chars, Domain.ascii? chars = Option.some name := by
      unfold Domain.toAscii at named
      split at named
      · cases named
        exact ⟨_, ‹_›⟩
      · cases named
    have filled : name.isEmpty = false := List.isEmpty_eq_false_iff.mpr some
    rw [Host.text, String.toList_ofList, specialHost_of_plain plain, Domain.ascii?_ascii? own,
      Host.isReadable, String.toList_ofList]
    by_cases readable : (Domain.splitDots name).all Domain.isReadable = true
    · simp only [if_pos readable, filled, noNumber, Bool.false_eq_true, if_false]
    · simp only [if_neg readable]

end Reader

theorem specialHost_of_parse {s : String} {u : Url} (read : Url.parse s = .ok u)
    (web : u.scheme = "http" ∨ u.scheme = "https") {a : Authority} (served : u.authority = some a) :
    Reader.specialHost a.host.text.toList =
      if a.host.isReadable then .ok a.host else .error .invalidDomain := by
  obtain ⟨_, _, _, _, a', _, authorized, served', _⟩ := of_parse read web
  obtain rfl := Option.some.inj (served'.symm.trans served)
  obtain ⟨host, own⟩ := (legible_authority web authorized).2
  exact Reader.specialHost_text own

end Playground.Url
