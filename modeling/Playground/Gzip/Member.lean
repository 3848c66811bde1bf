import Playground.Gzip.Checksum
import Playground.Gzip.Deflate

/-!
Gzip members: a header, a deflate stream, and a trailer with the checksum and the length of what it
holds. What follows the first member is not looked at.
-/

namespace Playground.Gzip

inductive Fault where
  | header
  | fieldTooLong
  | endOfInput
  | incompleteStream
  | corruptStream
  | checksum
  | tooLong
deriving Repr, DecidableEq

def Fault.message : Fault → String
  | header => "invalid gzip header"
  | fieldTooLong => "gzip header field too long"
  | endOfInput => "unexpected end of file"
  | incompleteStream => "incomplete deflate stream"
  | corruptStream => "corrupt deflate stream"
  | checksum => "corrupt gzip stream does not have a matching checksum"
  | tooLong => "the output is too long"

namespace Member

def littleEndian : Nat → Nat → List UInt8
  | 0, _ => []
  | n + 1, value => UInt8.ofNat value :: littleEndian n (value / 256)

def ofLittleEndian : List UInt8 → Nat
  | [] => 0
  | b :: rest => b.toNat + 256 * ofLittleEndian rest

def header : List UInt8 := [0x1f, 0x8b, 8, 0, 0, 0, 0, 0, 2, 0xff]

def encode (data : ByteArray) : List UInt8 :=
  header ++ Bits.toBytes (Deflate.run data) ++
    littleEndian 4 (Checksum.ofBytes data).toNat ++ littleEndian 4 data.size

def maxField : Nat := 65535

def dropField (used : Nat) : List UInt8 → Except Fault (List UInt8)
  | [] => .error .endOfInput
  | b :: rest =>
    if b = 0 then .ok rest
    else if used = maxField then .error .fieldTooLong
    else dropField (used + 1) rest

def dropExtra : List UInt8 → Except Fault (List UInt8)
  | a :: b :: rest =>
    let n := ofLittleEndian [a, b]
    if rest.length < n then .error .endOfInput else .ok (rest.drop n)
  | _ => .error .endOfInput

def checkHeader (whole : List UInt8) : List UInt8 → Except Fault (List UInt8)
  | a :: b :: rest =>
    let read := whole.take (whole.length - (rest.length + 2))
    if (Checksum.ofList read).toNat % 65536 = ofLittleEndian [a, b] then .ok rest
    else .error .checksum
  | _ => .error .endOfInput

def when (condition : Bool) (f : List UInt8 → Except Fault (List UInt8)) (input : List UInt8) :
    Except Fault (List UInt8) :=
  if condition then f input else .ok input

def dropHeader (input : List UInt8) : Except Fault (List UInt8) :=
  match input with
  | m :: n :: method :: flags :: _ :: _ :: _ :: _ :: _ :: _ :: rest =>
    if m ≠ 0x1f || n ≠ 0x8b || method ≠ 8 || flags &&& 0xe0 ≠ 0 then .error .header
    else do
      let rest ← when (flags &&& 4 ≠ 0) dropExtra rest
      let rest ← when (flags &&& 8 ≠ 0) (dropField 0) rest
      let rest ← when (flags &&& 16 ≠ 0) (dropField 0) rest
      when (flags &&& 2 ≠ 0) (checkHeader input) rest
  | _ => .error .endOfInput

def ofInflate : Inflate.Fault → Fault
  | .corrupt => .corruptStream
  | .incomplete => .incompleteStream
  | .tooLong => .tooLong

def checkTrailer (out : ByteArray) (bits : List Bool) : Except Fault ByteArray :=
  match Bits.take? 32 bits with
  | none => .error .endOfInput
  | some (check, bits) =>
    match Bits.take? 32 bits with
    | none => .error .endOfInput
    | some (length, _) =>
      if check = (Checksum.ofBytes out).toNat ∧ length = out.size % 4294967296 then .ok out
      else .error .checksum

def inflate (limit : Nat) (input : List UInt8) : Except Fault Inflate.State := do
  let rest ← dropHeader input
  match Inflate.run limit (Bits.ofBytes rest) with
  | .error e => .error (ofInflate e)
  | .ok s => .ok s

/-- Input is taken in pieces of this many bytes, and output is given out in windows of as many. -/
def window : Nat := 32768

def pieces (input : List UInt8) (n : Nat) : List UInt8 := input.take (n * window)

def exceeds (limit : Nat) (input : List UInt8) (n : Nat) : Bool :=
  match inflate limit (pieces input n) with
  | .error .tooLong => true
  | _ => false

/-- The least number above `low`, and at most `2 ^ steps` above it, with a property that all numbers
above it have as well. -/
def leastAbove (p : Nat → Bool) : Nat → Nat → Nat
  | 0, low => low + 1
  | steps + 1, low =>
    let middle := low + Nat.pow 2 steps
    if p middle then leastAbove p steps low else leastAbove p steps middle

def taken (limit : Nat) (input : List UInt8) : List UInt8 :=
  pieces input (leastAbove (exceeds limit input) (input.length / window + 1).log2.succ 0)

/-- How a member ends that holds more than `limit` bytes. The window in which the next byte stands is
filled first, as far as the pieces that are taken go, and if they are found to be corrupt on the way,
nothing of it is given out. -/
def overflow (limit : Nat) (input : List UInt8) : Fault :=
  match inflate ((limit / window + 1) * window) (taken limit input) with
  | .error .corruptStream => .corruptStream
  | _ => .tooLong

def decode (limit : Nat) (input : List UInt8) : Except Fault ByteArray :=
  match inflate limit input with
  | .error .tooLong => .error (overflow limit input)
  | .error e => .error e
  | .ok s => checkTrailer s.out (Bits.align s.bits)

end Member

end Playground.Gzip
