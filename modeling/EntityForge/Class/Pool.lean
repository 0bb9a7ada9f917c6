import EntityForge.Bytes.BigEndian
import EntityForge.Class.FormatError
import EntityForge.Metadata.Constant
import Std.Data.HashMap

/-!
The constant pool: names and literals in order of first use, each stored once and addressed from
one. Index zero stands for "none". A table is what can be looked up; a pool is a table under
construction, which also remembers where each entry stands and whether an entry ever failed to fit.
-/

namespace EntityForge

abbrev ConstantTable := Array Constant

namespace ConstantTable

def get (table : ConstantTable) (index : UInt16) : Except FormatError Constant :=
  if index = 0 then .error (.badConstantIndex index)
  else
    match table[index.toNat - 1]? with
    | some c => .ok c
    | none => .error (.badConstantIndex index)

def utf8At (table : ConstantTable) (index : UInt16) : Except FormatError String :=
  match table.get index with
  | .error e => .error e
  | .ok (.text s) => .ok s
  | .ok _ => .error (.notUtf8 index)

/-- The text at an index, none at zero. -/
def optionalUtf8At (table : ConstantTable) (index : UInt16) : Except FormatError (Option String) :=
  if index = 0 then .ok none else (table.utf8At index).map some

end ConstantTable

/-- A pool under construction. -/
structure ConstantPool where
  entries : ConstantTable := #[]
  /-- Where each entry stands. -/
  index : Std.HashMap Constant UInt16 := ∅
  overflowed : Bool := false

namespace ConstantPool

/-- The greatest number of entries that indices can address. -/
def maxEntries : Nat := 65535

/-- The index of an entry, which is added if it is new. A new entry that does not fit is reported by
index zero, and the pool is marked. -/
def intern (pool : ConstantPool) (c : Constant) : UInt16 × ConstantPool :=
  match pool.index[c]? with
  | some i => (i, pool)
  | none =>
    if pool.entries.size < maxEntries then
      let i := UInt16.ofNat (pool.entries.size + 1)
      (i, { pool with entries := pool.entries.push c, index := pool.index.insert c i })
    else (0, { pool with overflowed := true })

def internText (pool : ConstantPool) (s : String) : UInt16 × ConstantPool := pool.intern (.text s)

def tag : Constant → UInt8
  | .text _ => 1
  | .int _ => 3
  | .float _ => 4
  | .long _ => 5
  | .double _ => 6

def entryBytes (c : Constant) : Except FormatError Bytes :=
  match c with
  | .text s =>
    if s.utf8ByteSize ≤ 65535 then
      .ok (tag c :: BigEndian.word16 (UInt16.ofNat s.utf8ByteSize) ++ s.toUTF8.toList)
    else .error (.tooLarge .utf8Constant)
  | .int v => .ok (tag c :: BigEndian.word32 v.toUInt32)
  | .long v => .ok (tag c :: BigEndian.word64 v.toUInt64)
  | .float v => .ok (tag c :: BigEndian.word32 v.bits)
  | .double v => .ok (tag c :: BigEndian.word64 v.bits)

/-- The bytes of a pool: the number of entries and the entries. -/
def toBytes (pool : ConstantPool) : Except FormatError Bytes :=
  if pool.overflowed ∨ maxEntries < pool.entries.size then .error (.tooLarge .constantPool)
  else
    (pool.entries.toList.mapM entryBytes).map fun parts =>
      BigEndian.word16 (UInt16.ofNat pool.entries.size) ++ parts.flatten

end ConstantPool

end EntityForge
