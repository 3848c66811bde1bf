import Playground.Text.Hex

/-!
Texts in configuration files. A basic text stands between double quotes and has escapes, a literal
one between single quotes and has none. Between three quotes either may go over several lines.
-/

namespace Playground.Toml.Literal

open Playground.Text

abbrev Reading := Option (List Char × List Char)

def Reading.push (c : Char) (r : Reading) : Reading := r.map fun (cs, rest) => (c :: cs, rest)

def isBlank (c : Char) : Bool := c == ' ' || c == '\t'

def isPlain (c : Char) : Bool := c == '\t' || (0x20 ≤ c.toNat && c.toNat ≠ 0x7f)

def unescape? : Char → Option Char
  | 'b' => some '\x08'
  | 't' => some '\t'
  | 'n' => some '\n'
  | 'f' => some '\x0c'
  | 'r' => some '\r'
  | '"' => some '"'
  | '\\' => some '\\'
  | _ => none

def codePoint? (digits : List Char) : Option Char := do
  let n ← digits.foldlM (fun n d => (Hex.value? d).map (16 * n + ·)) 0
  if n.isValidChar then some (Char.ofNat n) else none

def basic : List Char → Reading
  | '"' :: rest => some ([], rest)
  | '\\' :: 'u' :: a :: b :: c :: d :: rest => do
    (basic rest).push (← codePoint? [a, b, c, d])
  | '\\' :: 'U' :: a :: b :: c :: d :: e :: f :: g :: h :: rest => do
    (basic rest).push (← codePoint? [a, b, c, d, e, f, g, h])
  | '\\' :: c :: rest => do (basic rest).push (← unescape? c)
  | c :: rest => if isPlain c && c != '\\' then (basic rest).push c else none
  | [] => none

def literal : List Char → Reading
  | '\'' :: rest => some ([], rest)
  | c :: rest => if isPlain c then (literal rest).push c else none
  | [] => none

def closing (quote : Char) (rest : List Char) : Reading :=
  let extra := (rest.takeWhile (· == quote)).take 2
  some (extra, rest.drop extra.length)

/-- Where the reader is in a basic text of several lines: in the text, behind a backslash at the end
of a line, or behind that line's end, where blanks and further line ends are skipped. -/
inductive Position where
  | inside
  | lineEnd
  | skipping
deriving DecidableEq

def endsLine (cs : List Char) : Bool :=
  match cs.dropWhile isBlank with
  | '\n' :: _ => true
  | '\r' :: '\n' :: _ => true
  | _ => false

def lines : Position → List Char → Reading
  | .lineEnd, '\n' :: rest => lines .skipping rest
  | .lineEnd, '\r' :: '\n' :: rest => lines .skipping rest
  | .lineEnd, c :: rest => if isBlank c then lines .lineEnd rest else none
  | .skipping, ' ' :: rest => lines .skipping rest
  | .skipping, '\t' :: rest => lines .skipping rest
  | .skipping, '\n' :: rest => lines .skipping rest
  | .skipping, '\r' :: '\n' :: rest => lines .skipping rest
  | _, '"' :: '"' :: '"' :: rest => closing '"' rest
  | _, '\n' :: rest => (lines .inside rest).push '\n'
  | _, '\r' :: '\n' :: rest => (lines .inside rest).push '\n'
  | _, '\\' :: 'u' :: a :: b :: c :: d :: rest => do
    (lines .inside rest).push (← codePoint? [a, b, c, d])
  | _, '\\' :: 'U' :: a :: b :: c :: d :: e :: f :: g :: h :: rest => do
    (lines .inside rest).push (← codePoint? [a, b, c, d, e, f, g, h])
  | _, '\\' :: c :: rest =>
    match unescape? c with
    | some c => (lines .inside rest).push c
    | none => if endsLine (c :: rest) then lines .lineEnd (c :: rest) else none
  | _, c :: rest => if isPlain c && c != '\\' then (lines .inside rest).push c else none
  | _, [] => none

def literalLines : List Char → Reading
  | '\'' :: '\'' :: '\'' :: rest => closing '\'' rest
  | '\n' :: rest => (literalLines rest).push '\n'
  | '\r' :: '\n' :: rest => (literalLines rest).push '\n'
  | c :: rest => if isPlain c then (literalLines rest).push c else none
  | [] => none

def skipLineEnd : List Char → List Char
  | '\n' :: rest => rest
  | '\r' :: '\n' :: rest => rest
  | rest => rest

def read : List Char → Reading
  | '"' :: '"' :: '"' :: rest => lines .inside (skipLineEnd rest)
  | '"' :: rest => basic rest
  | '\'' :: '\'' :: '\'' :: rest => literalLines (skipLineEnd rest)
  | '\'' :: rest => literal rest
  | _ => none

end Playground.Toml.Literal
