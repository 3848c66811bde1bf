import Playground.Url.Percent

/-!
Form data: pairs of names and values in one line of ASCII text. A space is written as a plus sign.
-/

namespace Playground.Url.Form

def isPlain (b : UInt8) : Bool :=
  let n := b.toNat
  (48 ≤ n && n ≤ 57) || (65 ≤ n && n ≤ 90) || (97 ≤ n && n ≤ 122) ||
    n == 42 || n == 45 || n == 46 || n == 95

def encodeByte (b : UInt8) : List Char :=
  if isPlain b then [Char.ofNat b.toNat]
  else if b = 0x20 then ['+']
  else Percent.encodeByte b

def encode (s : String) : String := String.ofList ((Text.Utf8.encode s).flatMap encodeByte)

def encodePair (pair : String × String) : String := encode pair.1 ++ "=" ++ encode pair.2

def write (pairs : List (String × String)) : String :=
  String.intercalate "&" (pairs.map encodePair)

def decode (bytes : List UInt8) : String :=
  Text.Utf8.lossy (Percent.decode (bytes.map fun b => if b = 0x2b then 0x20 else b))

def splitAll (separator : UInt8) : List UInt8 → List (List UInt8)
  | [] => [[]]
  | b :: rest =>
    if b = separator then [] :: splitAll separator rest
    else
      match splitAll separator rest with
      | [] => [[b]]
      | part :: parts => (b :: part) :: parts

def decodePair (bytes : List UInt8) : String × String :=
  (decode (bytes.takeWhile (· ≠ 0x3d)), decode ((bytes.dropWhile (· ≠ 0x3d)).drop 1))

def read (bytes : List UInt8) : List (String × String) :=
  ((splitAll 0x26 bytes).filter fun part => !part.isEmpty).map decodePair

end Playground.Url.Form
