import Playground.Toml.Scalar
import Playground.Toml.Section
import Playground.Toml.Literal

/-!
The reader of configuration files. Each reader takes characters and gives what it read with the
characters that follow. The fuel of a reader is a number that no file exceeds that is as long.
-/

namespace Playground.Toml

open Literal

namespace Reader

def skipBlank (cs : List Char) : List Char := cs.dropWhile isBlank

def skipComment (cs : List Char) : List Char := cs.dropWhile isPlain

def skipTrivia : Bool → List Char → List Char
  | _, '\n' :: rest => skipTrivia false rest
  | _, '\r' :: '\n' :: rest => skipTrivia false rest
  | true, c :: rest => if isPlain c then skipTrivia true rest else c :: rest
  | false, '#' :: rest => skipTrivia true rest
  | false, c :: rest => if isBlank c then skipTrivia false rest else c :: rest
  | _, [] => []

def lineEnd (cs : List Char) : Option (List Char) :=
  let cs := skipBlank cs
  let cs := if cs.head? = some '#' then skipComment cs else cs
  match cs with
  | [] => some []
  | '\n' :: rest => some rest
  | '\r' :: '\n' :: rest => some rest
  | _ => none

def isBare (c : Char) : Bool := c.isAlphanum || c == '-' || c == '_'

def part (cs : List Char) : Option (String × List Char) :=
  let bare := cs.takeWhile isBare
  let read := match cs with
    | '"' :: rest => basic rest
    | '\'' :: rest => literal rest
    | cs => if bare.isEmpty then none else some (bare, cs.drop bare.length)
  read.map fun (name, rest) => (String.ofList name, rest)

def maxDepth : Nat := 79

def name : Nat → List Char → Option (List String × List Char)
  | 0, _ => none
  | parts + 1, cs => do
    let (first, rest) ← part (skipBlank cs)
    match skipBlank rest with
    | '.' :: rest =>
      let (others, rest) ← name parts rest
      return (first :: others, rest)
    | rest => return ([first], rest)

def target (cs : List Char) : Option (List String × List Char) := do
  match ← name maxDepth cs with
  | (path, '=' :: rest) => return (path, skipBlank rest)
  | _ => none

mutual

def value (levels : Nat) : Nat → List Char → Option (Toml × List Char)
  | 0, _ => none
  | fuel + 1, cs =>
    match cs with
    | '"' :: _ => (read cs).map fun (s, rest) => (.text (String.ofList s), rest)
    | '\'' :: _ => (read cs).map fun (s, rest) => (.text (String.ofList s), rest)
    | '[' :: rest =>
      if levels = 0 then none
      else (items (levels - 1) fuel rest).map fun (values, rest) => (.array values, rest)
    | '\x7b' :: rest =>
      if levels = 0 then none
      else
        match skipBlank rest with
        | '\x7d' :: rest => some (.table [], rest)
        | rest => (pairs (levels - 1) [] fuel rest).map fun (s, rest) => (Section.toml s, rest)
    | cs => Scalar.read cs

def items (levels : Nat) : Nat → List Char → Option (List Toml × List Char)
  | 0, _ => none
  | fuel + 1, cs => do
    match skipTrivia false cs with
    | ']' :: rest => return ([], rest)
    | cs =>
      let (first, rest) ← value levels fuel cs
      match skipTrivia false rest with
      | ',' :: rest =>
        let (others, rest) ← items levels fuel rest
        return (first :: others, rest)
      | ']' :: rest => return ([first], rest)
      | _ => none

def pairs (levels : Nat) (s : Section) : Nat → List Char → Option (Section × List Char)
  | 0, _ => none
  | fuel + 1, cs => do
    let (path, rest) ← target cs
    let (v, rest) ← value levels fuel rest
    let s ← s.assign path v
    match skipBlank rest with
    | ',' :: rest => pairs levels s fuel rest
    | '\x7d' :: rest => return (s, rest)
    | _ => none

end

def header (d : Draft) (cs : List Char) : Option (Draft × List Char) := do
  match cs with
  | '[' :: rest =>
    match ← name maxDepth rest with
    | (path, ']' :: ']' :: rest) => return (← d.openItem path, ← lineEnd rest)
    | _ => none
  | cs =>
    match ← name maxDepth cs with
    | (path, ']' :: rest) => return (← d.openTable path, ← lineEnd rest)
    | _ => none

def assignment (d : Draft) (cs : List Char) : Option (Draft × List Char) := do
  let (path, rest) ← target cs
  let (v, rest) ← value maxDepth (rest.length + 1) rest
  return (← d.assign path v, ← lineEnd rest)

def statements (d : Draft) : Nat → List Char → Option Draft
  | 0, _ => none
  | fuel + 1, cs => do
    match skipBlank cs with
    | [] => return d
    | '[' :: rest =>
      let (d, rest) ← header d rest
      statements d fuel rest
    | c :: rest =>
      if c = '#' ∨ c = '\n' ∨ c = '\r' then statements d fuel (← lineEnd (c :: rest))
      else
        let (d, rest) ← assignment d (c :: rest)
        statements d fuel rest

def dropMark : List Char → List Char
  | '\ufeff' :: rest => rest
  | cs => cs

end Reader

def read? (s : String) : Option Toml :=
  let cs := Reader.dropMark s.toList
  (Reader.statements .empty (cs.length + 1) cs).bind Draft.toml?

end Playground.Toml
