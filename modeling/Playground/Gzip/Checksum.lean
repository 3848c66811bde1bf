/-!
The cyclic redundancy check of gzip members, with the reflected polynomial `edb88320`.
-/

namespace Playground.Gzip.Checksum

def shift (r : UInt32) : UInt32 :=
  if r &&& 1 = 1 then (r >>> 1) ^^^ 0xedb88320 else r >>> 1

def shiftByte (r : UInt32) : UInt32 :=
  shift (shift (shift (shift (shift (shift (shift (shift r)))))))

def table : Array UInt32 := Array.ofFn fun i : Fin 256 => shiftByte (UInt32.ofNat i.val)

def update (r : UInt32) (b : UInt8) : UInt32 :=
  table.getD ((r ^^^ b.toUInt32) &&& 0xff).toNat 0 ^^^ (r >>> 8)

def ofBytes (bytes : ByteArray) : UInt32 :=
  bytes.foldl update 0xffffffff ^^^ 0xffffffff

def ofList (bytes : List UInt8) : UInt32 :=
  bytes.foldl update 0xffffffff ^^^ 0xffffffff

end Playground.Gzip.Checksum
