import Playground.Text.Utf8
import Playground.Unicode.Composition
import Playground.Url.Folding
import Playground.Url.Host
import Playground.Url.Label
import Playground.Url.Punycode

/-!
Domain names. A name is brought into its ASCII form, label by label; names that cannot be and names
with characters that have a meaning in URLs are refused.
-/

namespace Playground.Url.Domain

def isForbidden (c : Char) : Bool :=
  c.toNat ≤ 0x20 || c.toNat == 0x7f ||
    ['%', '#', '/', ':', '<', '>', '?', '@', '[', '\\', ']', '^', '|'].contains c

def asciiMark : List Char := ['x', 'n', '-', '-']

def maxLetters : Nat := 1000

def maxForm : Nat := 2000

structure Form where
  letters : List Char
  ascii : List Char

/-- Whether the letters are those of a label that needs an ASCII form, written as they have to
be. -/
def areProper (letters : List Char) : Bool :=
  !letters.all Punycode.isAscii && letters.all Folding.isPlain &&
    Unicode.normalize letters == letters && decide (letters.length ≤ maxLetters)

def read? (cs : List Char) : Option (List Char) :=
  if cs.all Punycode.isAscii && decide (cs.length ≤ maxForm) then
    (Punycode.decode cs).filter areProper
  else none

def form? (cs : List Char) : Option Form :=
  if cs.take asciiMark.length = asciiMark then
    (read? (cs.drop asciiMark.length)).map fun letters => ⟨letters, cs⟩
  else if cs.all Punycode.isAscii then some ⟨cs, cs⟩
  else if cs.length ≤ maxLetters then some ⟨cs, asciiMark ++ Punycode.encode cs⟩
  else none

def splitDots : List Char → List (List Char)
  | [] => [[]]
  | c :: rest =>
    match splitDots rest with
    | [] => [[c]]
    | label :: labels => if c = '.' then [] :: label :: labels else (c :: label) :: labels

def ascii? (cs : List Char) : Option (List Char) := do
  let folded ← cs.mapM Folding.fold?
  let forms ← (splitDots (Unicode.normalize folded.flatten)).mapM form?
  let labels := forms.map Form.letters
  let name := ['.'].intercalate (forms.map Form.ascii)
  if labels.all Label.isWellFormed && Label.areOneWay labels && !name.any isForbidden then some name
  else none

def toAscii (bytes : List UInt8) : Except Fault (List Char) :=
  match ascii? (Text.Utf8.lossyChars bytes) with
  | some name => .ok name
  | none => .error .invalidDomain

end Playground.Url.Domain
