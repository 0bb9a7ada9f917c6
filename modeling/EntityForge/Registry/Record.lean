import EntityForge.Class.Image
import EntityForge.Digest.Sha256
import EntityForge.Failure
import EntityForge.Text.Qualified

/-!
Records of generated classes: the bytes of a class body under a name, with their digest.
-/

namespace EntityForge

structure ClassRecord where
  name : String
  bytes : Bytes
  digest : Bytes := Sha256.digest bytes
  digest_eq : digest = Sha256.digest bytes := by rfl

namespace ClassRecord

def ofBytes (name : String) (bytes : Bytes) : ClassRecord := { name, bytes }

def ofBody (b : ClassBody) : Except FormatError ClassRecord := b.encode.map (ofBytes b.name)

def hexDigest (r : ClassRecord) : String := Text.hexBytes r.digest

/-- A path continued by a segment; a segment that begins with a slash starts anew. -/
def joinPath (path segment : String) : String :=
  if segment.toList.head? = some '/' ∨ path = "" then segment
  else if path.toList.getLast? = some '/' then path ++ segment
  else path ++ "/" ++ segment

/-- A path through the nonempty segments of a package to a file. -/
def pathOf (package file : String) : String :=
  joinPath (((Qualified.split '.' package).filter (· ≠ "")).foldl joinPath "") file

/-- The file of the class below an output directory. -/
def relativePath (r : ClassRecord) : String :=
  pathOf (Qualified.packageName r.name) (Qualified.simpleName r.name ++ ".class")

end ClassRecord

end EntityForge
