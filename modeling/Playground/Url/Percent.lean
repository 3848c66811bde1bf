import Playground.Text.Hex
import Playground.Text.Utf8

/-!
Percent-encoding. Each part of a URL has a set of characters that may not stand in it; those are
written as the bytes of their UTF-8 form, two digits a byte. Reading leaves alone a percent sign
that no two digits follow.
-/

namespace Playground.Url.Percent

def isControl (c : Char) : Bool := c.toNat < 0x20 || 0x7e < c.toNat

def inFragment (c : Char) : Bool := isControl c || [' ', '"', '<', '>', '\x60'].contains c

def inPath (c : Char) : Bool := inFragment c || ['#', '?', '\x7b', '\x7d'].contains c

def inUserinfo (c : Char) : Bool :=
  inPath c || ['/', ':', ';', '=', '@', '[', '\\', ']', '^', '|'].contains c

def inQuery (c : Char) : Bool := isControl c || [' ', '"', '#', '<', '>'].contains c

def inSpecialQuery (c : Char) : Bool := inQuery c || c == '\''

def encodeByte (b : UInt8) : List Char :=
  ['%', Text.Hex.upperDigit (b.toNat / 16), Text.Hex.upperDigit (b.toNat % 16)]

def encodeChar (mustEncode : Char → Bool) (c : Char) : List Char :=
  if mustEncode c then (String.utf8EncodeChar c).flatMap encodeByte else [c]

def encode (mustEncode : Char → Bool) (cs : List Char) : String :=
  String.ofList (cs.flatMap (encodeChar mustEncode))

def digit? (b : UInt8) : Option Nat := Text.Hex.value? (Char.ofNat b.toNat)

def decode : List UInt8 → List UInt8
  | 0x25 :: high :: low :: rest =>
    match digit? high, digit? low with
    | some h, some l => UInt8.ofNat (16 * h + l) :: decode rest
    | _, _ => 0x25 :: decode (high :: low :: rest)
  | b :: rest => b :: decode rest
  | [] => []

def decodeText (s : String) : List UInt8 := decode (Text.Utf8.encode s)

end Playground.Url.Percent
