import Playground.Proofs.Text.Utf8
import Playground.Proofs.Unicode.Settled
import Playground.Proofs.Url.Form
import Playground.Proofs.Url.Legible

/-!
Hosts in characters that stand for themselves. Such a host is read by bringing it into ASCII as it
stands, and what is in ASCII already is folded, taken apart and composed to its small letters.
-/

namespace Playground.Url

open Unicode

theorem Domain.toAscii_of_plain {cs : List Char} (plain : ∀ c ∈ cs, c ≠ '%') :
    Domain.toAscii (Percent.decodeText (String.ofList cs)) =
      match Domain.ascii? cs with
      | some name => .ok name
      | none => .error .invalidDomain := by
  have bytes : Percent.decodeText (String.ofList cs) = Text.Utf8.encode (String.ofList cs) := by
    refine Percent.decode_of_forall fun b member => ?_
    rw [Text.Utf8.encode_eq_flatMap, String.toList_ofList, List.mem_flatMap] at member
    obtain ⟨c, inside, own⟩ := member
    rintro rfl
    exact Percent.ne_of_mem_encodeChar (by decide) (plain c inside) own rfl
  have chars : Text.Utf8.lossyChars (Text.Utf8.encode (String.ofList cs)) = cs := by
    have whole := congrArg String.toList (Text.Utf8.lossy_encode (String.ofList cs))
    rwa [Text.Utf8.lossy, String.toList_ofList, String.toList_ofList] at whole
  rw [bytes]
  cases own : Domain.ascii? cs with
  | none => simp only [Domain.toAscii, chars, own]
  | some name => simp only [Domain.toAscii, chars, own]

namespace Domain

theorem settled_ascii : Settled 0 0x7f := by constructor <;> decide +kernel

theorem ordinary_ascii : Label.Ordinary 0 0x7f := by constructor <;> decide +kernel

section Ascii

variable {cs : List Char} (ascii : ∀ c ∈ cs, Punycode.isAscii c = true)

theorem toNat_of_isAscii {c : Char} (ascii : Punycode.isAscii c = true) : c.toNat ≤ 0x7f := by
  have small := of_decide_eq_true ascii
  rw [Punycode.firstCode] at small
  omega

theorem isOrdinary_of_isAscii {c : Char} (ascii : Punycode.isAscii c = true) :
    Label.IsOrdinary c :=
  ⟨0, 0x7f, ordinary_ascii, Nat.zero_le _, toNat_of_isAscii ascii⟩

theorem isAscii_toLower {c : Char} (ascii : Punycode.isAscii c = true) :
    Punycode.isAscii c.toLower = true := by
  have all : ∀ n < 0x80, Punycode.isAscii (Char.ofNat n).toLower = true := by decide
  have own := all c.toNat (by have small := toNat_of_isAscii ascii; omega)
  rwa [Char.ofNat_toNat] at own

include ascii

theorem normalize_of_isAscii : normalize cs = cs :=
  normalize_of_settled fun c member =>
    ⟨0, 0x7f, settled_ascii, Nat.zero_le _, toNat_of_isAscii (ascii c member)⟩

theorem fold_of_isAscii : cs.mapM Folding.fold? = some (cs.map fun c => [c.toLower]) := by
  induction cs with
  | nil => rfl
  | cons c cs ih =>
    obtain ⟨first, later⟩ := List.forall_mem_cons.mp ascii
    have own : Folding.fold? c = some [c.toLower] := by
      have small := toNat_of_isAscii first
      exact if_pos (by omega)
    rw [List.mapM_cons, own, ih later]
    rfl

end Ascii

def ofForms (forms : List Form) : Option (List Char) :=
  let labels := forms.map Form.letters
  let name := ['.'].intercalate (forms.map Form.ascii)
  if labels.all Label.isWellFormed && Label.areOneWay labels && !name.any isForbidden then some name
  else none

theorem ascii?_of_isAscii {cs : List Char} (ascii : ∀ c ∈ cs, Punycode.isAscii c = true) :
    ascii? cs = (splitDots (cs.map Char.toLower)).mapM form? >>= ofForms := by
  have lower : ∀ c ∈ cs.map Char.toLower, Punycode.isAscii c = true := by
    intro c member
    obtain ⟨d, inside, rfl⟩ := List.mem_map.mp member
    exact isAscii_toLower (ascii d inside)
  have flat : (cs.map fun c => [c.toLower]).flatten = cs.map Char.toLower := by
    rw [List.map_eq_flatMap (f := Char.toLower), List.flatMap]
  rw [ascii?, fold_of_isAscii ascii]
  show (splitDots (normalize (List.flatten _))).mapM form? >>= _ = _
  rw [flat, normalize_of_isAscii lower]
  rfl

theorem intercalate_splitDots (cs : List Char) : ['.'].intercalate (splitDots cs) = cs := by
  induction cs with
  | nil => rfl
  | cons c cs ih =>
    rw [splitDots]
    cases parts : splitDots cs with
    | nil =>
      rw [parts] at ih
      obtain rfl : [] = cs := ih
      cases parts
    | cons label labels =>
      rw [parts] at ih
      simp only
      split
      case isTrue dot =>
        rw [List.intercalate_cons_cons, ih, dot]
        rfl
      case isFalse other =>
        cases labels with
        | nil =>
          rw [List.intercalate_singleton] at ih ⊢
          rw [ih]
        | cons next labels =>
          rw [List.intercalate_cons_cons] at ih ⊢
          rw [List.cons_append, List.cons_append, ← ih]

theorem of_mem_splitDots {cs label : List Char} (member : label ∈ splitDots cs) :
    ∀ c ∈ label, c ∈ cs := by
  induction cs generalizing label with
  | nil =>
    obtain rfl := List.mem_singleton.mp member
    simp
  | cons d cs ih =>
    rw [splitDots] at member
    cases parts : splitDots cs with
    | nil =>
      rw [parts] at member
      obtain rfl := List.mem_singleton.mp member
      simp
    | cons first labels =>
      rw [parts] at member ih
      simp only at member
      split at member
      · obtain rfl | later := List.mem_cons.mp member
        · simp
        · exact fun c inside => List.mem_cons_of_mem d (ih later c inside)
      · obtain rfl | later := List.mem_cons.mp member
        · rw [List.forall_mem_cons]
          exact ⟨List.mem_cons_self, fun c inside =>
            List.mem_cons_of_mem d (ih List.mem_cons_self c inside)⟩
        · exact fun c inside =>
            List.mem_cons_of_mem d (ih (List.mem_cons_of_mem first later) c inside)

theorem eq_of_ofForms {forms : List Form} {name : List Char} (named : ofForms forms = some name) :
    name = ['.'].intercalate (forms.map Form.ascii) ∧ ∀ c ∈ name, isForbidden c = false := by
  unfold ofForms at named
  simp only at named
  split at named
  · rename_i checks
    cases named
    simp only [Bool.and_eq_true, Bool.not_eq_true', List.any_eq_false] at checks
    exact ⟨rfl, fun c member => by simpa using checks.2 c member⟩
  · cases named

end Domain

namespace Reader

theorem specialHost_of_plain {cs : List Char} (plain : ∀ c ∈ cs, c ≠ '%' ∧ c ≠ '[') :
    specialHost cs =
      match Domain.ascii? cs with
      | none => .error .invalidDomain
      | some name =>
        if name.isEmpty then .error .emptyHost
        else if Ipv4.endsInNumber name then (Ipv4.read name).map .ipv4
        else .ok (.domain (String.ofList name)) := by
  have noBracket : cs.head? ≠ some '[' := by
    intro first
    exact (plain '[' (List.mem_of_mem_head? first)).2 rfl
  rw [specialHost, if_neg noBracket, Domain.toAscii_of_plain fun c member => (plain c member).1]
  cases Domain.ascii? cs with
  | none => rfl
  | some name =>
    simp only [bind, Except.bind]
    split
    · rfl
    · split
      · cases Ipv4.read name <;> rfl
      · rfl

end Reader

end Playground.Url
