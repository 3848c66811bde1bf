import Playground.Text.Hex
import Playground.Toml.Literal

/-!
How configuration files are written. A text is written in the plainest way that can hold it: between
double quotes if nothing has to be escaped, else between single quotes, else over several lines, and
with escapes only where nothing else is left.
-/

namespace Playground.Toml.Printer

open Playground.Text

def longestRun (c : Char) (cs : List Char) : Nat :=
  (cs.foldl (fun (run, longest) d =>
    if d = c then (run + 1, max longest (run + 1)) else (0, longest)) (0, 0)).2

def isControl (c : Char) : Bool :=
  (c.toNat < 0x20 || c.toNat == 0x7f) && c != '\t' && c != '\n'

def hasControl (cs : List Char) : Bool := cs.any isControl

def escape : Char → List Char
  | '\x08' => ['\\', 'b']
  | '\t' => ['\\', 't']
  | '\n' => ['\\', 'n']
  | '\x0c' => ['\\', 'f']
  | '\r' => ['\\', 'r']
  | '\\' => ['\\', '\\']
  | c =>
    if isControl c then
      ['\\', 'u', '0', '0', Hex.upperDigit (c.toNat / 16), Hex.upperDigit (c.toNat % 16)]
    else [c]

/-- Escapes a text in which so many double quotes may stand in a row, `run` of them before this. -/
def escaped (severalLines : Bool) (most run : Nat) : List Char → List Char
  | [] => []
  | '"' :: rest =>
    if run < most then '"' :: escaped severalLines most (run + 1) rest
    else '\\' :: '"' :: escaped severalLines most 0 rest
  | c :: rest =>
    (if c = '\n' ∧ severalLines then [c] else escape c) ++ escaped severalLines most 0 rest

def inLine (cs : List Char) : List Char := '"' :: escaped false 0 0 cs ++ ['"']

/-- A line end that is not part of the text, which comes first where the text has line ends. -/
def firstBreak (cs : List Char) : List Char := if cs.contains '\n' then ['\n'] else []

def overLines (cs : List Char) : List Char :=
  ['"', '"', '"'] ++ firstBreak cs ++ escaped true 2 0 cs ++ ['"', '"', '"']

def literal (cs : List Char) : List Char := '\'' :: cs ++ ['\'']

def literalLines (cs : List Char) : List Char :=
  ['\'', '\'', '\''] ++ firstBreak cs ++ cs ++ ['\'', '\'', '\'']

def quoted (s : String) : String :=
  let cs := s.toList
  let control := hasControl cs
  let backslash := cs.contains '\\'
  let newline := cs.contains '\n'
  let doubles := longestRun '"' cs
  let singles := longestRun '\'' cs
  String.ofList <|
    if !control && !backslash && doubles == 0 && !newline then inLine cs
    else if !control && singles == 0 && !newline then literal cs
    else if !control && !backslash && doubles ≤ 2 then overLines cs
    else if !control && singles ≤ 2 then literalLines cs
    else if newline then overLines cs
    else inLine cs

def line (name value : String) : String := s!"{name} = {value}\n"

end Playground.Toml.Printer
