import Playground.Json.Numeral
import Playground.Text.Hex

/-!
JSON as it is written: repeated members, numbers and unpaired surrogates are still there. The
reader is a machine that takes one character at a time and keeps the containers that are open in a
list, so that nesting is bounded by no stack. `value?` gives the meaning, which sets the limits:
how deep containers nest, that numbers are finite and that surrogates come in pairs.
-/

namespace Playground.Json

/-- A text is missing where an escape named an unpaired surrogate. -/
inductive Written where
  | null
  | bool (b : Bool)
  | number (chars : List Char)
  | text (s : Option String)
  | array (items : List Written)
  | object (members : List (Option String × Written))
deriving Inhabited

structure Literal where
  chars : String
  high : Option Nat
  paired : Bool

namespace Literal

def empty : Literal := ⟨"", none, true⟩

def push (l : Literal) (c : Char) : Literal :=
  ⟨l.chars.push c, none, l.paired && l.high.isNone⟩

def pushUnit (l : Literal) (unit : Nat) : Literal :=
  match l.high with
  | some high =>
    if 0xdc00 ≤ unit && unit < 0xe000 then
      let code := 0x10000 + (high - 0xd800) * 1024 + (unit - 0xdc00)
      ⟨l.chars.push (Char.ofNat code), none, l.paired⟩
    else ⟨l.chars, none, false⟩
  | none =>
    if 0xd800 ≤ unit && unit < 0xdc00 then ⟨l.chars, some unit, l.paired⟩
    else if 0xdc00 ≤ unit && unit < 0xe000 then ⟨l.chars, none, false⟩
    else ⟨l.chars.push (Char.ofNat unit), none, l.paired⟩

def finish (l : Literal) : Option String :=
  if l.paired && l.high.isNone then some l.chars else none

end Literal

inductive EscapePart where
  | outside
  | mark
  | unit (missing : Nat) (value : Nat)

inductive NumberPart where
  | minus
  | zero
  | whole
  | point
  | fraction
  | mark
  | sign
  | exponent
deriving DecidableEq

/-- A container that is open; its contents stand last first. -/
inductive Frame where
  | array (done : List Written)
  | object (done : List (Option String × Written))
  | member (done : List (Option String × Written)) (key : Option String)

/-- Where the reader stands inside the innermost open container. -/
inductive Place where
  | value
  | firstValue
  | key
  | firstKey
  | colon
  | after (w : Written)
  | word (rest : List Char) (w : Written)
  | number (part : NumberPart) (done : List Char)
  | text (isKey : Bool) (literal : Literal) (escape : EscapePart)

structure Reader where
  place : Place
  frames : List Frame

namespace Reader

def start : Reader := ⟨.value, []⟩

def isBlank (c : Char) : Bool := c == ' ' || c == '\n' || c == '\t' || c == '\r'

def NumberPart.next? (part : NumberPart) (c : Char) : Option NumberPart :=
  match part with
  | .minus => if c = '0' then some .zero else if c.isDigit then some .whole else none
  | .zero => if c = '.' then some .point else if c = 'e' || c = 'E' then some .mark else none
  | .whole =>
    if c.isDigit then some .whole else if c = '.' then some .point
    else if c = 'e' || c = 'E' then some .mark else none
  | .point => if c.isDigit then some .fraction else none
  | .fraction =>
    if c.isDigit then some .fraction else if c = 'e' || c = 'E' then some .mark else none
  | .mark =>
    if c.isDigit then some .exponent else if c = '+' || c = '-' then some .sign else none
  | .sign => if c.isDigit then some .exponent else none
  | .exponent => if c.isDigit then some .exponent else none

def NumberPart.isComplete : NumberPart → Bool
  | .zero | .whole | .fraction | .exponent => true
  | _ => false

def beginValue (frames : List Frame) (c : Char) : Option Reader :=
  match c with
  | '"' => some ⟨.text false .empty .outside, frames⟩
  | '[' => some ⟨.firstValue, .array [] :: frames⟩
  | '\x7b' => some ⟨.firstKey, .object [] :: frames⟩
  | 'n' => some ⟨.word ['u', 'l', 'l'] .null, frames⟩
  | 't' => some ⟨.word ['r', 'u', 'e'] (.bool true), frames⟩
  | 'f' => some ⟨.word ['a', 'l', 's', 'e'] (.bool false), frames⟩
  | '-' => some ⟨.number .minus ['-'], frames⟩
  | '0' => some ⟨.number .zero ['0'], frames⟩
  | c => if c.isDigit then some ⟨.number .whole [c], frames⟩ else none

def afterValue (frames : List Frame) (w : Written) (c : Char) : Option Reader :=
  if isBlank c then some ⟨.after w, frames⟩
  else match c, frames with
  | ',', .array done :: frames => some ⟨.value, .array (w :: done) :: frames⟩
  | ',', .member done key :: frames => some ⟨.key, .object ((key, w) :: done) :: frames⟩
  | ']', .array done :: frames => some ⟨.after (.array (w :: done).reverse), frames⟩
  | '\x7d', .member done key :: frames =>
    some ⟨.after (.object ((key, w) :: done).reverse), frames⟩
  | _, _ => none

def closeText (isKey : Bool) (literal : Literal) (frames : List Frame) : Option Reader :=
  if isKey then
    match frames with
    | .object done :: frames => some ⟨.colon, .member done literal.finish :: frames⟩
    | _ => none
  else some ⟨.after (.text literal.finish), frames⟩

def unescape? : Char → Option Char
  | '"' => some '"'
  | '\\' => some '\\'
  | '/' => some '/'
  | 'b' => some '\x08'
  | 'f' => some '\x0c'
  | 'n' => some '\n'
  | 'r' => some '\r'
  | 't' => some '\t'
  | _ => none

def inText (isKey : Bool) (literal : Literal) (escape : EscapePart) (frames : List Frame)
    (c : Char) : Option Reader :=
  match escape with
  | .outside =>
    if c = '"' then closeText isKey literal frames
    else if c = '\\' then some ⟨.text isKey literal .mark, frames⟩
    else if c.toNat < 0x20 then none
    else some ⟨.text isKey (literal.push c) .outside, frames⟩
  | .mark =>
    if c = 'u' then some ⟨.text isKey literal (.unit 3 0), frames⟩
    else (unescape? c).map fun d => ⟨.text isKey (literal.push d) .outside, frames⟩
  | .unit missing value => do
    let digit ← Text.Hex.value? c
    let value := value * 16 + digit
    match missing with
    | 0 => return ⟨.text isKey (literal.pushUnit value) .outside, frames⟩
    | missing + 1 => return ⟨.text isKey literal (.unit missing value), frames⟩

def step (r : Reader) (c : Char) : Option Reader :=
  match r.place with
  | .value => if isBlank c then some r else beginValue r.frames c
  | .firstValue =>
    if isBlank c then some r
    else if c = ']' then
      match r.frames with
      | .array _ :: frames => some ⟨.after (.array []), frames⟩
      | _ => none
    else beginValue r.frames c
  | .key =>
    if isBlank c then some r
    else if c = '"' then some ⟨.text true .empty .outside, r.frames⟩
    else none
  | .firstKey =>
    if isBlank c then some r
    else if c = '"' then some ⟨.text true .empty .outside, r.frames⟩
    else if c = '\x7d' then
      match r.frames with
      | .object _ :: frames => some ⟨.after (.object []), frames⟩
      | _ => none
    else none
  | .colon => if isBlank c then some r else if c = ':' then some ⟨.value, r.frames⟩ else none
  | .after w => afterValue r.frames w c
  | .word [] _ => none
  | .word [d] w => if c = d then some ⟨.after w, r.frames⟩ else none
  | .word (d :: rest) w => if c = d then some ⟨.word rest w, r.frames⟩ else none
  | .number part done =>
    match NumberPart.next? part c with
    | some part => some ⟨.number part (c :: done), r.frames⟩
    | none =>
      if NumberPart.isComplete part then afterValue r.frames (.number done.reverse) c else none
  | .text isKey literal escape => inText isKey literal escape r.frames c

def run (r : Reader) : List Char → Option Reader
  | [] => some r
  | c :: rest =>
    match r.step c with
    | some r => r.run rest
    | none => none

def finish (r : Reader) : Option Written :=
  match r.frames, r.place with
  | [], .after w => some w
  | [], .number part done =>
    if NumberPart.isComplete part then some (.number done.reverse) else none
  | _, _ => none

theorem run_append (r : Reader) (a b : List Char) :
    r.run (a ++ b) = (r.run a).bind fun r => r.run b := by
  induction a generalizing r with
  | nil => rfl
  | cons c rest ih =>
    simp only [List.cons_append, run]
    split
    · exact ih _
    · rfl

end Reader

namespace Written

def ofChars? (chars : List Char) : Option Written := (Reader.start.run chars).bind Reader.finish

def read? (s : String) : Option Written := ofChars? s.toList

def maxLevels : Nat := 127

mutual

def value? (levels : Nat) : Written → Option Json
  | null => some .null
  | bool b => some (.bool b)
  | number chars => (Numeral.value? chars).map .number
  | text s => s.map .text
  | array items => if levels = 0 then none else (values? (levels - 1) items).map .array
  | object members => if levels = 0 then none else (members? (levels - 1) members).map .ofMembers

def values? (levels : Nat) : List Written → Option (List Json)
  | [] => some []
  | w :: rest => do
    let value ← w.value? levels
    let values ← values? levels rest
    return value :: values

def members? (levels : Nat) : List (Option String × Written) → Option (List (String × Json))
  | [] => some []
  | (key, w) :: rest => do
    let key ← key
    let value ← w.value? levels
    let members ← members? levels rest
    return (key, value) :: members

end

end Written

def read? (s : String) : Option Json := (Written.read? s).bind (Written.value? Written.maxLevels)

end Playground.Json
