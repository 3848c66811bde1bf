/-!
UTF-8 bytes that may not be text. `head` reads one character and tells an ill-formed sequence from
one that the bytes break off; `fault?` locates the first sequence that is no character, and `lossy`
puts U+FFFD in place of each.
-/

namespace Playground.Text.Utf8

inductive Head where
  | char (c : Char) (width : Nat)
  | broken (width : Nat)
  | cut
deriving Repr, DecidableEq

def isTail (b : UInt8) : Bool := 0x80 ≤ b && b ≤ 0xbf

def tailBits (b : UInt8) : Nat := b.toNat % 64

def isSecond (first second : UInt8) : Bool :=
  if first == 0xe0 then 0xa0 ≤ second && second ≤ 0xbf
  else if first == 0xed then 0x80 ≤ second && second ≤ 0x9f
  else if first == 0xf0 then 0x90 ≤ second && second ≤ 0xbf
  else if first == 0xf4 then 0x80 ≤ second && second ≤ 0x8f
  else isTail second

def head (first : UInt8) (rest : List UInt8) : Head :=
  if first < 0x80 then .char (Char.ofNat first.toNat) 1
  else if first < 0xc2 || 0xf4 < first then .broken 1
  else match rest with
  | [] => .cut
  | b :: rest =>
    if !isSecond first b then .broken 1
    else if first < 0xe0 then .char (Char.ofNat (first.toNat % 32 * 64 + tailBits b)) 2
    else match rest with
    | [] => .cut
    | c :: rest =>
      if !isTail c then .broken 2
      else if first < 0xf0 then
        .char (Char.ofNat ((first.toNat % 16 * 64 + tailBits b) * 64 + tailBits c)) 3
      else match rest with
      | [] => .cut
      | d :: _ =>
        if !isTail d then .broken 3
        else .char (Char.ofNat
          (((first.toNat % 8 * 64 + tailBits b) * 64 + tailBits c) * 64 + tailBits d)) 4

inductive Fault where
  | invalid (offset width : Nat)
  | incomplete (offset : Nat)
deriving Repr, DecidableEq

def Fault.message : Fault → String
  | .invalid offset width => s!"invalid utf-8 sequence of {width} bytes from index {offset}"
  | .incomplete offset => s!"incomplete utf-8 byte sequence from index {offset}"

def fault? (offset : Nat) : List UInt8 → Option Fault
  | [] => none
  | first :: rest =>
    match head first rest with
    | .char _ width => fault? (offset + width) (rest.drop (width - 1))
    | .broken width => some (.invalid offset width)
    | .cut => some (.incomplete offset)
termination_by bytes => bytes.length
decreasing_by simp only [List.length_drop, List.length_cons]; omega

def lossyChars : List UInt8 → List Char
  | [] => []
  | first :: rest =>
    match head first rest with
    | .char c width => c :: lossyChars (rest.drop (width - 1))
    | .broken width => '\ufffd' :: lossyChars (rest.drop (width - 1))
    | .cut => ['\ufffd']
termination_by bytes => bytes.length
decreasing_by all_goals simp only [List.length_drop, List.length_cons]; omega

def lossy (bytes : List UInt8) : String := String.ofList (lossyChars bytes)

def decode (bytes : ByteArray) : Except Fault String :=
  match String.fromUTF8? bytes with
  | some text => .ok text
  | none => .error ((fault? 0 bytes.data.toList).getD (.incomplete 0))

def encode (s : String) : List UInt8 := s.toUTF8.data.toList

theorem encode_eq_flatMap (s : String) : encode s = s.toList.flatMap String.utf8EncodeChar := by
  have bytes : s.toUTF8 = s.toList.utf8Encode := String.utf8Encode_toList.symm
  rw [encode, bytes, List.utf8Encode, List.data_toByteArray]

theorem encode_append (s t : String) : encode (s ++ t) = encode s ++ encode t := by
  simp [encode_eq_flatMap]

end Playground.Text.Utf8
