/-!
Words as bytes, most significant byte first.
-/

namespace EntityForge

abbrev Bytes := List UInt8

namespace BigEndian

def word16 (w : UInt16) : Bytes := [(w >>> 8).toUInt8, w.toUInt8]

def word32 (w : UInt32) : Bytes :=
  [(w >>> 24).toUInt8, (w >>> 16).toUInt8, (w >>> 8).toUInt8, w.toUInt8]

def word64 (w : UInt64) : Bytes :=
  [(w >>> 56).toUInt8, (w >>> 48).toUInt8, (w >>> 40).toUInt8, (w >>> 32).toUInt8,
   (w >>> 24).toUInt8, (w >>> 16).toUInt8, (w >>> 8).toUInt8, w.toUInt8]

def value (bytes : Bytes) : Nat := bytes.foldl (fun n b => 256 * n + b.toNat) 0

end BigEndian

end EntityForge
