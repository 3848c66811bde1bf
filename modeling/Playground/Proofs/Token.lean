import Mathlib.Data.List.Forall2
import Playground.Token
import Playground.Proofs.Base64
import Playground.Proofs.Gzip.Window
import Playground.Proofs.Text.Utf8

/-!
Tokens in all their spellings. A token may lose padding, have either alphabet symbol by symbol, and
stand between blanks. Main statement: each of these is read as the text of the token, as long as the
text is not beyond the limit.
-/

namespace Playground

namespace Text

theorem strip_append {p : Char → Bool} {before cs after : List Char} (some : cs ≠ [])
    (left : ∀ c ∈ before, p c = true) (right : ∀ c ∈ after, p c = true)
    (inner : ∀ c ∈ cs, p c = false) : strip p (before ++ cs ++ after) = cs := by
  have kept (cs rest : List Char) (some : cs ≠ []) (inner : ∀ c ∈ cs, p c = false) :
      (cs ++ rest).dropWhile p = cs ++ rest := by
    cases cs with
    | nil => exact absurd rfl some
    | cons c cs => simp [inner c List.mem_cons_self]
  have back := kept cs.reverse [] (by simpa using some) (by simpa using inner)
  rw [List.append_nil] at back
  rw [strip, List.append_assoc, List.dropWhile_append_of_pos left, kept cs after some inner,
    List.reverse_append, List.dropWhile_append_of_pos (by simpa using right), back,
    List.reverse_reverse]

namespace Utf8

theorem encode_ofList {cs : List Char} (small : ∀ c ∈ cs, c.toNat < 128) :
    encode (String.ofList cs) = cs.map Char.toUInt8 := by
  rw [encode_eq_flatMap, String.toList_ofList]
  induction cs with
  | nil => rfl
  | cons c cs ih =>
    have own : String.utf8EncodeChar c = [c.toUInt8] := by
      apply String.utf8EncodeChar_eq_singleton
      rw [Char.utf8Size_eq_one_iff, UInt32.le_iff_toNat_le]
      exact Nat.le_of_lt_succ (small c List.mem_cons_self)
    rw [List.flatMap_cons, own, ih fun d member => small d (List.mem_cons_of_mem c member)]
    rfl

end Utf8

end Text

namespace Token

def Spelling (c d : Char) : Prop := d = c ∨ c = '-' ∧ d = '+' ∨ c = '_' ∧ d = '/'

instance : DecidableRel Spelling := fun c d =>
  inferInstanceAs (Decidable (d = c ∨ c = '-' ∧ d = '+' ∨ c = '_' ∧ d = '/'))

/-- A token with part of its padding, spelled symbol by symbol, between blanks. -/
inductive Respelled (token : String) : String → Prop
  | intro {before kept spelled after : List Char} {k : Nat}
      (padding : kept ++ List.replicate k '=' = token.toList)
      (spelling : List.Forall₂ Spelling kept spelled)
      (left : ∀ c ∈ before, Text.isBlank c = true)
      (right : ∀ c ∈ after, Text.isBlank c = true) :
      Respelled token (String.ofList (before ++ spelled ++ after))

section Spelling

variable {c d : Char}

theorem Spelling.respell_eq (h : Spelling c d) (written : Base64.isWritten c = true) :
    respell d = c := by
  obtain rfl | ⟨rfl, rfl⟩ | ⟨rfl, rfl⟩ := h
  · have plus : d ≠ '+' := by rintro rfl; cases written
    have slash : d ≠ '/' := by rintro rfl; cases written
    rw [respell, if_neg plus, if_neg slash]
  · rfl
  · rfl

theorem Spelling.isBlank_eq (h : Spelling c d) (written : Base64.isWritten c = true) :
    Text.isBlank d = false := by
  obtain rfl | ⟨rfl, rfl⟩ | ⟨rfl, rfl⟩ := h
  · exact Base64.isBlank_of_isWritten written
  · rfl
  · rfl

theorem map_respell {kept spelled : List Char} (spelling : List.Forall₂ Spelling kept spelled)
    (written : ∀ c ∈ kept, Base64.isWritten c = true) : spelled.map respell = kept := by
  induction spelling with
  | nil => rfl
  | cons first rest ih =>
    rw [List.map_cons, first.respell_eq (written _ List.mem_cons_self),
      ih fun c member => written c (List.mem_cons_of_mem _ member)]

theorem isBlank_of_spelling {kept spelled : List Char}
    (spelling : List.Forall₂ Spelling kept spelled)
    (written : ∀ c ∈ kept, Base64.isWritten c = true) :
    ∀ d ∈ spelled, Text.isBlank d = false := by
  induction spelling with
  | nil => simp
  | cons first rest ih =>
    have later := ih fun c member => written c (List.mem_cons_of_mem _ member)
    intro d member
    obtain rfl | member := List.mem_cons.mp member
    · exact first.isBlank_eq (written _ List.mem_cons_self)
    · exact later d member

end Spelling

theorem bytes_ne_nil (data : ByteArray) : Gzip.Member.encode data ≠ [] := by
  simp [Gzip.Member.encode, Gzip.Member.header]

theorem toList_encode (s : String) :
    (encode s).toList = Base64.encode (Gzip.Member.encode s.toUTF8) :=
  String.toList_ofList

theorem ofBytes_encode (s : String) :
    ofBytes (Gzip.Member.encode s.toUTF8) =
      if s.utf8ByteSize ≤ maxLength then .ok s else .error .tooLong := by
  have size : s.toUTF8.size = s.utf8ByteSize := rfl
  rw [ofBytes, Gzip.Member.decode_encode, size]
  by_cases within : s.utf8ByteSize ≤ maxLength
  · simp only [if_pos within, Text.Utf8.decode_toUTF8]
  · simp only [if_neg within]

def payload (t : String) : Except Base64.Fault (List UInt8) :=
  Base64.decode (Text.Utf8.encode (String.ofList ((Text.trim t).toList.map respell)))

def spell (bytes : List UInt8) : String := String.ofList (Base64.encode bytes)

section Payload

variable {bytes : List UInt8} {t : String}

theorem decode_of_payload (some : bytes ≠ []) (spelled : payload t = .ok bytes) :
    decode t = ofBytes bytes := by
  have symbols : Text.trim t ≠ "" := by
    intro none
    rw [payload, none] at spelled
    exact some (Except.ok.inj spelled).symm
  unfold payload at spelled
  simp only [decode, if_neg symbols, spelled]

theorem payload_of_respelled (some : bytes ≠ []) (h : Respelled (spell bytes) t) :
    payload t = .ok bytes := by
  obtain ⟨padding, spelling, left, right⟩ := h
  rename_i before kept spelled after k
  rw [spell, String.toList_ofList] at padding
  have written : ∀ c ∈ kept, Base64.isWritten c = true := by
    intro c member
    apply Base64.isWritten_of_mem_encode
    rw [← padding]
    exact List.mem_append_left _ member
  have read := Base64.decode_of_append_replicate some padding
  have symbols : spelled ≠ [] := by
    rintro rfl
    cases spelling
    have none : Except.ok [] = Except.ok bytes := read
    exact some (Except.ok.inj none).symm
  have trimmed : Text.trim (String.ofList (before ++ spelled ++ after)) = String.ofList spelled := by
    rw [Text.trim, String.toList_ofList,
      Text.strip_append symbols left right (isBlank_of_spelling spelling written)]
  rw [payload, trimmed, String.toList_ofList, map_respell spelling written,
    Text.Utf8.encode_ofList fun c member => Base64.toNat_lt_of_isWritten (written c member), read]

end Payload

theorem decode_of_respelled {s t : String} (h : Respelled (encode s) t) :
    decode t = if s.utf8ByteSize ≤ maxLength then .ok s else .error .tooLong := by
  have some := bytes_ne_nil s.toUTF8
  rw [decode_of_payload some (payload_of_respelled some h), ofBytes_encode]

theorem respelled_self (token : String) : Respelled token token := by
  have padding : token.toList ++ List.replicate 0 '=' = token.toList := by simp
  have spelling : List.Forall₂ Spelling token.toList token.toList :=
    List.forall₂_same.mpr fun _ _ => .inl rfl
  have whole : String.ofList ([] ++ token.toList ++ []) = token := by simp
  have respelled : Respelled token (String.ofList ([] ++ token.toList ++ [])) :=
    .intro padding spelling (by simp) (by simp)
  rwa [whole] at respelled

theorem payload_spell {bytes : List UInt8} (some : bytes ≠ []) : payload (spell bytes) = .ok bytes :=
  payload_of_respelled some (respelled_self _)

theorem decode_encode {s : String} (small : s.utf8ByteSize ≤ maxLength) :
    decode (encode s) = .ok s := by
  rw [decode_of_respelled (respelled_self _), if_pos small]

theorem encode_ne_empty (s : String) : encode s ≠ "" := by
  intro none
  have chars := toList_encode s
  rw [none] at chars
  exact Base64.encode_ne_nil (bytes_ne_nil s.toUTF8) chars.symm

/-- A token has at least one symbol, only symbols that are safe in URLs, and whole groups of them;
each of its spellings is read as its text, and a text beyond the limit is refused. -/
theorem decode_every_spelling (s : String) :
    (encode s ≠ "" ∧ (encode s).length % 4 = 0 ∧
      ∀ c ∈ (encode s).toList, c.isAlphanum = true ∨ c = '-' ∨ c = '_' ∨ c = '=') ∧
    ∀ t, Respelled (encode s) t →
      (s.utf8ByteSize ≤ maxLength → decode t = .ok s) ∧
      (maxLength < s.utf8ByteSize → decode t = .error .tooLong) := by
  have chars := toList_encode s
  refine ⟨⟨encode_ne_empty s, ?groups, ?symbols⟩, ?spellings⟩
  case groups =>
    rw [← String.length_toList, chars]
    exact Base64.length_encode_mod _
  case symbols =>
    intro c member
    rw [chars] at member
    have written := Base64.isWritten_of_mem_encode member
    simpa [Base64.isWritten, or_assoc] using written
  case spellings =>
    intro t respelled
    have read := decode_of_respelled respelled
    constructor
    · intro within
      rw [read, if_pos within]
    · intro beyond
      rw [read, if_neg (Nat.not_le_of_lt beyond)]

section Accented

open Gzip Deflate

def accented : ByteArray := ⟨#[0xc3, 0xa9]⟩

theorem tokens_accented : tokens accented ∅ 0 = [.literal 0xc3, .literal 0xa9] := by
  have unseen : ((∅ : Std.HashMap Nat Nat).insert (key accented 0) 0)[key accented 1]? = none := by
    rw [Std.HashMap.getElem?_insert, if_neg (by decide), Std.HashMap.getElem?_empty]
  rw [tokens, dif_pos (by decide)]
  simp only [Std.HashMap.getElem?_empty, candidate]
  rw [dif_neg (by decide), tokens, dif_pos (by decide)]
  simp only [unseen, candidate]
  rw [dif_neg (by decide), tokens, dif_neg (by decide)]
  rfl

theorem run_accented : run accented = [true, true, false, true, true, true, false, false, false,
    false, true, true, true, true, false, true, false, true, false, false, true, false, false,
    false, false, false, false, false] := by
  rw [run, tokens_accented]
  decide +kernel

theorem encode_accented : encode "é" = "H4sIAAAAAAAC_zu8EgA-jQQOAgAAAA==" := by
  have bytes : "é".toUTF8 = accented := by decide +kernel
  have stream : Bits.toBytes (run accented) = [0x3b, 0xbc, 0x12, 0x00] := by
    rw [run_accented]
    simp [Bits.toBytes, Bits.toNat]
  rw [encode, bytes, Member.encode, stream]
  decide +kernel

theorem respelled_accented :
    Respelled (encode "é") "\u3000H4sIAAAAAAAC/zu8EgA+jQQOAgAAAA=\n" := by
  have padding : "H4sIAAAAAAAC_zu8EgA-jQQOAgAAAA=".toList ++ List.replicate 1 '=' =
      (encode "é").toList := by
    rw [encode_accented]
    decide
  have spelling : List.Forall₂ Spelling "H4sIAAAAAAAC_zu8EgA-jQQOAgAAAA=".toList
      "H4sIAAAAAAAC/zu8EgA+jQQOAgAAAA=".toList := by decide
  have left : ∀ c ∈ ['\u3000'], Text.isBlank c = true := List.forall_mem_singleton.mpr rfl
  have right : ∀ c ∈ ['\n'], Text.isBlank c = true := List.forall_mem_singleton.mpr rfl
  exact .intro padding spelling left right

theorem decode_every_spelling_accented :
    Respelled (encode "é") "\u3000H4sIAAAAAAAC/zu8EgA+jQQOAgAAAA=\n" ∧
      "é".utf8ByteSize ≤ maxLength ∧
      decode "\u3000H4sIAAAAAAAC/zu8EgA+jQQOAgAAAA=\n" = .ok "é" := by
  have within : "é".utf8ByteSize ≤ maxLength := by decide
  have read := ((decode_every_spelling "é").2 _ respelled_accented).1 within
  exact ⟨respelled_accented, within, read⟩

end Accented

end Token

end Playground
