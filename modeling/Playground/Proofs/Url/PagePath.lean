import Mathlib.Data.List.TakeWhile
import Playground.Location
import Playground.Proofs.Handle
import Playground.Session.Basic

/-!
Paths on the page's own host. A path of letters and digits is read back as it stands, so that the
path of a share leads to its handle, and the root to none.
-/

namespace Playground.Url.Reader

/-- Characters that keep their place where a URL is cleaned and its query and fragment are split
off. -/
def isSolid (c : Char) : Bool := 0x20 < c.toNat && c != '#' && c != '?'

theorem ne_of_solid {cs : List Char} (solid : ∀ c ∈ cs, isSolid c = true) {mark : Char}
    (gone : isSolid mark = false) : ∀ c ∈ cs, decide (c ≠ mark) = true := by
  intro c member
  have : c ≠ mark := fun same => by simp [← same, solid c member] at gone
  simpa using this

theorem isBreak_of_large {c : Char} (large : 0x20 < c.toNat) : isBreak c = false := by
  have : c ≠ '\t' ∧ c ≠ '\n' ∧ c ≠ '\r' := by
    refine ⟨?_, ?_, ?_⟩ <;> rintro rfl <;> exact absurd large (by decide)
  simp [isBreak, this]

theorem clean_of_large {s : String} (large : ∀ c ∈ s.toList, 0x20 < c.toNat) :
    clean s = s.toList := by
  rw [clean, Text.strip_of_forall]
  · apply List.filter_eq_self.mpr
    intro c member
    rw [isBreak_of_large (large c member)]
    rfl
  · intro c member
    have := large c member
    simp only [decide_eq_false_iff_not]
    omega

theorem large_of_solid {c : Char} (solid : isSolid c = true) : 0x20 < c.toNat := by
  simp only [isSolid, Bool.and_eq_true, decide_eq_true_eq] at solid
  exact solid.1.1

theorem clean_of_solid {s : String} (solid : ∀ c ∈ s.toList, isSolid c = true) :
    clean s = s.toList :=
  clean_of_large fun c member => large_of_solid (solid c member)

theorem tail_of_solid {cs : List Char} (solid : ∀ c ∈ cs, isSolid c = true) (scheme : String) :
    tail scheme cs = (cs, none, none) := by
  have hash : ∀ c ∈ cs, decide (c ≠ '#') = true := ne_of_solid solid rfl
  have question : ∀ c ∈ cs, decide (c ≠ '?') = true := ne_of_solid solid rfl
  simp only [tail, List.takeWhile_eq_self_iff.mpr hash, List.dropWhile_eq_nil_iff.mpr hash,
    List.takeWhile_eq_self_iff.mpr question, List.dropWhile_eq_nil_iff.mpr question]

theorem plain_of_isAlphanum {c : Char} (h : c.isAlphanum = true) :
    isSolid c = true ∧ isSlash true c = false ∧ Percent.inPath c = false ∧
      c.toLower ≠ '.' ∧ c.toLower ≠ '%' := by
  have all : ∀ n < 123, (Char.ofNat n).isAlphanum = true →
      isSolid (Char.ofNat n) = true ∧ isSlash true (Char.ofNat n) = false ∧
        Percent.inPath (Char.ofNat n) = false ∧
        (Char.ofNat n).toLower ≠ '.' ∧ (Char.ofNat n).toLower ≠ '%' := by decide
  have small : c.toNat < 123 := by
    rw [Text.isAlphanum_iff] at h
    omega
  have := all c.toNat small
  rw [Char.ofNat_toNat] at this
  exact this h

def IsPlain (cs : List Char) : Prop := ∀ c ∈ cs, c.isAlphanum = true

theorem IsPlain.isSolid {cs : List Char} (plain : IsPlain cs) : ∀ c ∈ cs, isSolid c = true :=
  fun c member => (plain_of_isAlphanum (plain c member)).1

theorem splitOn_plain {cs : List Char} (plain : IsPlain cs) : splitOn (isSlash true) cs = [cs] := by
  induction cs with
  | nil => rfl
  | cons c rest ih =>
    have noSlash := (plain_of_isAlphanum (plain c (by simp))).2.1
    simp [splitOn, noSlash, ih fun d member => plain d (by simp [member])]

theorem splitOn_plain_slash {cs : List Char} (plain : IsPlain cs) (rest : List Char) :
    splitOn (isSlash true) (cs ++ '/' :: rest) = cs :: splitOn (isSlash true) rest := by
  induction cs with
  | nil => simp [splitOn, isSlash]
  | cons c cs ih =>
    have noSlash := (plain_of_isAlphanum (plain c (by simp))).2.1
    simp [splitOn, noSlash, ih fun d member => plain d (by simp [member])]

theorem not_dots {cs : List Char} (plain : IsPlain cs) :
    isDot cs = false ∧ isDoubleDot cs = false := by
  cases cs with
  | nil => decide
  | cons c rest =>
    have lower := (plain_of_isAlphanum (plain c (by simp))).2.2.2
    have here : c ≠ '.' := fun same => lower.1 (by rw [same]; rfl)
    simp [isDot, isDoubleDot, lower.1, lower.2, here]

theorem encode_plain {cs : List Char} (plain : IsPlain cs) :
    Percent.encode Percent.inPath cs = String.ofList cs := by
  have each (cs : List Char) (plain : IsPlain cs) :
      cs.flatMap (Percent.encodeChar Percent.inPath) = cs := by
    induction cs with
    | nil => rfl
    | cons c rest ih =>
      have keep := (plain_of_isAlphanum (plain c (by simp))).2.2.1
      simp [Percent.encodeChar, keep, ih fun d member => plain d (by simp [member])]
  rw [Percent.encode, each cs plain]

theorem segments_plain {first last : List Char} (head : IsPlain first) (tail : IsPlain last) :
    segments "http" [] (first ++ '/' :: last) = [String.ofList first, String.ofList last] := by
  have special : isSpecial "http" = true := by decide
  have web : ("http" == "file") = false := by decide
  simp [segments, allSegments, special, web, splitOn_plain_slash head, splitOn_plain tail, resolve,
    not_dots head, not_dots tail, segment, encode_plain head, encode_plain tail]

theorem scheme?_http (rest : List Char) :
    scheme? ('h' :: 't' :: 't' :: 'p' :: ':' :: rest) = some ("http", rest) := by
  rfl

section Host

variable {text : List Char} (plain : IsPlain text)
include plain

theorem ne_of_plain {mark : Char} (gone : mark.isAlphanum = false) : ∀ c ∈ text, c ≠ mark := by
  rintro c member rfl
  rw [plain c member] at gone
  cases gone

theorem inAuthority_of_plain : ∀ c ∈ text, (!endsAuthority true c) = true := by
  intro c member
  obtain ⟨solid, noSlash, -⟩ := plain_of_isAlphanum (plain c member)
  simp only [isSolid, Bool.and_eq_true, bne_iff_ne, ne_eq] at solid
  simp [endsAuthority, noSlash, solid.1.2, solid.2]

theorem splitHost_plain : splitHost false text = (text, []) := by
  induction text with
  | nil => rfl
  | cons c rest ih =>
    have colon : c ≠ ':' := ne_of_plain plain rfl c List.mem_cons_self
    have opened : c ≠ '[' := ne_of_plain plain rfl c List.mem_cons_self
    have later := ih fun d member => plain d (List.mem_cons_of_mem c member)
    simp [splitHost, colon, opened, later]

theorem authority_plain {host : Host} (found : specialHost text = .ok host)
    (filled : text ≠ []) (rest : List Char) :
    authority "http" (text ++ '/' :: rest) = .ok (⟨"", "", host, none⟩, '/' :: rest) := by
  have special : isSpecial "http" = true := by decide
  have inside := inAuthority_of_plain plain
  have before : (text ++ '/' :: rest).takeWhile (fun c => !endsAuthority true c) = text := by
    rw [List.takeWhile_append_of_pos inside]
    simp [endsAuthority, isSlash]
  have after : (text ++ '/' :: rest).dropWhile (fun c => !endsAuthority true c) = '/' :: rest := by
    rw [List.dropWhile_append_of_pos inside]
    simp [endsAuthority, isSlash]
  have whole : text.reverse.takeWhile (fun c => decide (c ≠ '@')) = text.reverse := by
    apply List.takeWhile_eq_self_iff.mpr
    intro c member
    exact decide_eq_true (ne_of_plain plain rfl c (List.mem_reverse.mp member))
  have bare : credentials true (text ++ '/' :: rest) = .ok ("", "", text ++ '/' :: rest) := by
    simp only [credentials, before, whole, List.reverse_reverse, if_true]
  simp [authority, special, bare, bind, Except.bind, before, after, splitHost_plain plain, filled,
    found, pure, Except.pure]

theorem afterScheme_plain {host : Host} (found : specialHost text = .ok host)
    (filled : text ≠ []) (cs : List Char) :
    afterScheme "http" ('/' :: '/' :: (text ++ '/' :: cs)) =
      .ok (some ⟨"", "", host, none⟩, .segments (segments "http" [] cs)) := by
  have special : isSpecial "http" = true := by decide
  have slashes : ('/' :: '/' :: (text ++ '/' :: cs)).dropWhile (isSlash true) =
      text ++ '/' :: cs := by
    cases text with
    | nil => exact absurd rfl filled
    | cons c rest =>
      have noSlash := (plain_of_isAlphanum (plain c List.mem_cons_self)).2.1
      have slash : isSlash true '/' = true := rfl
      simp [slash, noSlash]
  simp only [afterScheme, special, slashes, bind, Except.bind, authority_plain plain found filled]
  rfl

theorem parse_of_plain {host : Host} (found : specialHost text = .ok host)
    (filled : text ≠ []) {cs : List Char}
    (solid : ∀ c ∈ cs, isSolid c = true) {s : String}
    (spelled : s.toList = 'h' :: 't' :: 't' :: 'p' :: ':' :: '/' :: '/' :: (text ++ '/' :: cs)) :
    Url.parse s = .ok {
      scheme := "http"
      authority := some ⟨"", "", host, none⟩
      path := .segments (segments "http" [] cs)
      query := none
      fragment := none } := by
  have body : ∀ c ∈ text ++ '/' :: cs, isSolid c = true :=
    List.forall_mem_append.mpr ⟨plain.isSolid, List.forall_mem_cons.mpr ⟨rfl, solid⟩⟩
  have below : ∀ c ∈ '/' :: '/' :: (text ++ '/' :: cs), isSolid c = true := by
    simp only [List.forall_mem_cons]
    exact ⟨rfl, rfl, body⟩
  have whole : ∀ c ∈ s.toList, isSolid c = true := by
    rw [spelled]
    simp only [List.forall_mem_cons] at below ⊢
    exact ⟨rfl, rfl, rfl, rfl, rfl, below⟩
  rw [Url.parse, clean_of_solid whole, spelled, scheme?_http]
  simp only [tail_of_solid below, afterScheme_plain plain found filled]
  rfl

end Host

def localhost : List Char := ['l', 'o', 'c', 'a', 'l', 'h', 'o', 's', 't']

theorem specialHost_localhost : specialHost localhost = .ok (.domain "localhost") := by
  decide +kernel

def onLocalhost : Authority := ⟨"", "", .domain "localhost", none⟩

theorem parse_localhost {cs : List Char} (solid : ∀ c ∈ cs, isSolid c = true) :
    Url.parse ("http://localhost/" ++ String.ofList cs) = .ok {
      scheme := "http"
      authority := some onLocalhost
      path := .segments (segments "http" [] cs)
      query := none
      fragment := none } := by
  have plain : IsPlain localhost := List.all_eq_true.mp rfl
  have filled : localhost ≠ [] := by decide
  exact parse_of_plain plain specialHost_localhost filled solid (by simp [localhost])

end Playground.Url.Reader

namespace Playground

open Url.Reader

namespace Handle

theorem isPlain_token (h : Handle) : IsPlain h.token.toList :=
  fun _ member => Text.Hex.isAlphanum_of_isDigit (h.isDigit_of_mem member)

theorem isPlain_s : IsPlain ['s'] := List.all_eq_true.mp rfl

theorem isSolid_path (h : Handle) : ∀ c ∈ ['s'] ++ '/' :: h.token.toList, isSolid c = true :=
  List.forall_mem_append.mpr
    ⟨isPlain_s.isSolid, List.forall_mem_cons.mpr ⟨by decide, h.isPlain_token.isSolid⟩⟩

theorem text_segments (h : Handle) :
    (Url.Path.segments [String.ofList ['s'], String.ofList h.token.toList]).text = h.path := by
  apply String.toList_inj.mp
  simp [Url.Path.text, Handle.path]

theorem ofPath?_path (h : Handle) : ofPath? h.path = some h := by
  have text : h.path.toList = '/' :: 's' :: '/' :: h.token.toList := by simp [path]
  have noSlash : h.token.toList.getLast? ≠ some '/' := by
    intro last
    have plain := isPlain_token h '/' (List.mem_of_getLast? last)
    exact absurd plain (by decide)
  simp [ofPath?, text, dropSlash, noSlash, ofString?_token]

end Handle

namespace Location

theorem parse_of_rooted {s : String} {cs : List Char} (rooted : s = "/" ++ String.ofList cs)
    (solid : ∀ c ∈ cs, isSolid c = true) :
    parse s = .ok (ofUrl {
      scheme := "http"
      authority := some onLocalhost
      path := .segments (segments "http" [] cs)
      query := none
      fragment := none }) := by
  have first : s.startsWith "/" = true := by
    rw [String.startsWith_string_iff, rooted]
    simp
  have text : "http://localhost" ++ s = "http://localhost/" ++ String.ofList cs := by
    apply String.toList_inj.mp
    simp [rooted]
  rw [parse, if_pos first, text, parse_localhost solid]
  rfl

theorem parse_path (h : Handle) : parse h.path = .ok ⟨h.path, some h, []⟩ := by
  have rooted : h.path = "/" ++ String.ofList (['s'] ++ '/' :: h.token.toList) := by
    apply String.toList_inj.mp
    simp [Handle.path]
  rw [parse_of_rooted rooted h.isSolid_path, segments_plain Handle.isPlain_s h.isPlain_token, ofUrl,
    h.text_segments, h.ofPath?_path]
  rfl

theorem parse_rootPath : parse History.rootPath = .ok ⟨"/", none, []⟩ := by
  have rooted : History.rootPath = "/" ++ String.ofList [] := rfl
  have solid : ∀ c ∈ ([] : List Char), isSolid c = true := by simp
  rw [parse_of_rooted rooted solid]
  rfl

end Location

namespace Session

theorem handleOf?_of_parse {path : String} {l : Location} (parsed : Location.parse path = .ok l) :
    handleOf? path = l.handle := by
  simp only [handleOf?, parsed]

@[simp] theorem handleOf?_path (h : Handle) : handleOf? h.path = some h :=
  handleOf?_of_parse (Location.parse_path h)

@[simp] theorem handleOf?_rootPath : handleOf? History.rootPath = none :=
  handleOf?_of_parse Location.parse_rootPath

end Session

end Playground
