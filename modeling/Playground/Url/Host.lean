import Playground.Text.Hex

/-!
Hosts and numeric addresses. A host is a name or an address; an address is read in the spellings
that browsers accept and written in its shortest form.
-/

namespace Playground

namespace Url

inductive Fault where
  | relativeWithoutBase
  | relativeToOpaque
  | emptyHost
  | invalidPort
  | invalidIpv4
  | invalidIpv6
  | invalidDomain
  | invalidHostCharacter
deriving Repr, DecidableEq

def Fault.message : Fault → String
  | relativeWithoutBase => "relative URL without a base"
  | relativeToOpaque => "relative URL with a cannot-be-a-base base"
  | emptyHost => "empty host"
  | invalidPort => "invalid port number"
  | invalidIpv4 => "invalid IPv4 address"
  | invalidIpv6 => "invalid IPv6 address"
  | invalidDomain => "invalid international domain name"
  | invalidHostCharacter => "invalid domain character"

def splitOn (separator : Char → Bool) : List Char → List (List Char)
  | [] => [[]]
  | c :: rest =>
    if separator c then [] :: splitOn separator rest
    else
      match splitOn separator rest with
      | [] => [[c]]
      | part :: parts => (c :: part) :: parts

namespace Ipv4

def digits? (base : Nat) (cs : List Char) : Option Nat :=
  cs.foldl (fun n c => do
    let n ← n
    let d ← Text.Hex.value? c
    if d < base then some (n * base + d) else none) (some 0)

def part? : List Char → Option Nat
  | [] => none
  | '0' :: 'x' :: rest => digits? 16 rest
  | '0' :: 'X' :: rest => digits? 16 rest
  | ['0'] => some 0
  | '0' :: rest => digits? 8 rest
  | cs => digits? 10 cs

def endsInNumber (domain : List Char) : Bool :=
  let parts := (splitOn (· == '.') domain).reverse
  let last := match parts with
    | [] :: part :: _ => some part
    | [] :: [] => none
    | part :: _ => some part
    | [] => none
  match last with
  | none => false
  | some part => (!part.isEmpty && part.all Char.isDigit) || (part? part).isSome

def parts (domain : List Char) : List (List Char) :=
  let all := splitOn (· == '.') domain
  if all.getLast? = some [] then all.dropLast else all

/-- Reads an address of at most four parts; the last one fills what the others leave. -/
def read (domain : List Char) : Except Fault Nat :=
  let all := parts domain
  if 4 < all.length then .error .invalidIpv4
  else
    match all.mapM part? with
    | none => .error .invalidIpv4
    | some numbers =>
      match numbers.getLast? with
      | none => .error .invalidIpv4
      | some last =>
        let first := numbers.dropLast
        if Nat.pow 256 (4 - first.length) ≤ last || first.any (255 < ·) then .error .invalidIpv4
        else .ok (first.zipIdx.foldl (fun sum (n, i) => sum + n * Nat.pow 256 (3 - i)) last)

def text (address : Nat) : String :=
  s!"{address / 16777216}.{address / 65536 % 256}.{address / 256 % 256}.{address % 256}"

end Ipv4

namespace Ipv6

/-- The pieces that are read, last first, and how many of them stand before a double colon. -/
structure Partial where
  pieces : List Nat
  gap : Option Nat

def decimal? (cs : List Char) : Option Nat :=
  match cs with
  | [] => none
  | ['0'] => some 0
  | '0' :: _ => none
  | cs => if cs.all Char.isDigit then (Ipv4.digits? 10 cs).filter (· ≤ 255) else none

def embedded? (cs : List Char) : Option (List Nat) :=
  match (splitOn (· == '.') cs).mapM decimal? with
  | some [a, b, c, d] => some [c * 256 + d, a * 256 + b]
  | _ => none

/-- Reads pieces from where one may begin. Every step takes a character, which bounds the steps. -/
def pieces? : Nat → Partial → List Char → Option Partial
  | _, p, [] => some p
  | 0, _, _ => none
  | steps + 1, p, c :: rest =>
    if p.pieces.length = 8 then none
    else if c = ':' then
      if p.gap.isSome then none
      else pieces? steps ⟨0 :: p.pieces, some (p.pieces.length + 1)⟩ rest
    else
      let digits := ((c :: rest).take 4).takeWhile Text.Hex.isDigit
      let after := (c :: rest).drop digits.length
      let piece := (Ipv4.digits? 16 digits).getD 0
      match after with
      | [] => some { p with pieces := piece :: p.pieces }
      | ['.'] => none
      | '.' :: _ =>
        if digits.isEmpty || 6 < p.pieces.length then none
        else (embedded? (c :: rest)).map fun two => { p with pieces := two ++ p.pieces }
      | [':'] => none
      | ':' :: after => pieces? steps { p with pieces := piece :: p.pieces } after
      | _ => none

def fill (p : Partial) : Option (List Nat) :=
  let all := p.pieces.reverse
  match p.gap with
  | none => if all.length = 8 then some all else none
  | some gap =>
    some (all.take gap ++ List.replicate (8 - all.length) 0 ++ all.drop gap)

/-- What is read before the first piece, and what is left. -/
def start? : List Char → Option (Partial × List Char)
  | [] => none
  | [_] => none
  | first :: next :: rest =>
    if first ≠ ':' then some (⟨[], none⟩, first :: next :: rest)
    else if next = ':' then some (⟨[0], some 1⟩, rest)
    else none

def read (cs : List Char) : Except Fault (List Nat) :=
  match (start? cs).bind fun (p, rest) => (pieces? rest.length p rest).bind fill with
  | some pieces => .ok pieces
  | none => .error .invalidIpv6

def zeros (pieces : List Nat) : Nat := (pieces.takeWhile (· == 0)).length

def longer (best : Option (Nat × Nat)) (run : Nat × Nat) : Option (Nat × Nat) :=
  match best with
  | none => if 2 ≤ run.2 then some run else none
  | some b => if b.2 < run.2 then some run else some b

/-- The first of the longest runs of zeros, if it has two or more: its start and length. -/
def longestRun (pieces : List Nat) : Option (Nat × Nat) :=
  ((List.range pieces.length).map fun i => (i, zeros (pieces.drop i))).foldl longer none

def hexText (n : Nat) : String := String.ofList (Text.Hex.ofNat n)

def colons (pieces : List Nat) : String := String.intercalate ":" (pieces.map hexText)

def text (pieces : List Nat) : String :=
  match longestRun pieces with
  | none => s!"[{colons pieces}]"
  | some (start, length) =>
    s!"[{colons (pieces.take start)}::{colons (pieces.drop (start + length))}]"

end Ipv6

inductive Host where
  | domain (name : String)
  | ipv4 (address : Nat)
  | ipv6 (pieces : List Nat)
deriving Repr, DecidableEq

def Host.text : Host → String
  | domain name => name
  | ipv4 address => Ipv4.text address
  | ipv6 pieces => Ipv6.text pieces

end Url

end Playground
