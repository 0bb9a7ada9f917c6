import EntityForge.Class.Body
import EntityForge.Text.Hex
import EntityForge.Text.Keyed

/-!
Listings of class bodies for people to read. Class names may be replaced in a listing: wherever one
stands as such, and wherever it stands as a reference inside a descriptor or signature.
-/

namespace EntityForge

abbrev Renames := Keyed String

namespace Renames

def className (renames : Renames) (name : String) : String := (renames.get? name).getD name

def reference (name : String) : List Char := 'L' :: TypeTree.slashed name ++ [';']

def dropPrefix? : (head cs : List Char) → Option (List Char)
  | [], cs => some cs
  | _ :: _, [] => none
  | h :: head, c :: cs => if h = c then dropPrefix? head cs else none

/-- Replaces every occurrence of a nonempty text, from left to right; `fuel` is the length of the
input. -/
def replaceFrom (old new : List Char) (done : List Char) : Nat → List Char → List Char
  | 0, _ => done.reverse
  | _ + 1, [] => done.reverse
  | fuel + 1, c :: cs =>
    match dropPrefix? old (c :: cs) with
    | some rest => replaceFrom old new (new.reverse ++ done) fuel rest
    | none => replaceFrom old new (c :: done) fuel cs

/-- A descriptor or signature under the replacements, applied in order of the replaced names. -/
def descriptor (renames : Renames) (s : String) : String :=
  String.ofList <| renames.foldl (fun cs (old, new) =>
    replaceFrom (reference old) (reference new) [] (cs.length + 1) cs) s.toList

end Renames

namespace Listing

/-- A word in four hexadecimal digits. -/
def flags (w : UInt16) : String := "0x" ++ Text.hexPadded 4 w.toNat

def bool (b : Bool) : String := if b then "true" else "false"

def kind : TypeKind → String
  | .primitive p => s!"Primitive({p.title})"
  | .classType => "Class"
  | .variable => "Variable"
  | .wildcard => "Wildcard"

/-- The operands of an instruction as they follow its mnemonic, if it has any. -/
def operands? (renames : Renames) : Instruction → Option String
  | .nop | .dup | .pop | .pushNull | .annotationEnd | .handleGet => none
  | .returnValue | .returnVoid => none
  | .load i => some (toString i.toNat)
  | .pushBool b => some (bool b)
  | .loadConstant c => some c.display
  | .getField className name | .putField className name | .resolveField className name =>
    some s!"{renames.className className}.{name}"
  | .invoke className name descriptor =>
    some s!"{renames.className className}.{name}{renames.descriptor descriptor}"
  | .resolveMethod className name descriptor required =>
    let optional := if required then "" else " optional"
    some s!"{renames.className className}.{name}{renames.descriptor descriptor}{optional}"
  | .new className descriptor =>
    some s!"{renames.className className}{renames.descriptor descriptor}"
  | .checkCast target =>
    some (if target.toList.head? = some '[' then renames.descriptor target
      else renames.className target)
  | .box p | .unbox p => some p.keyword
  | .newType k raw b dims argc =>
    some s!"{kind k} {renames.className raw} bound={b.label} dims={dims.toNat} args={argc.toNat}"
  | .newList n => some (toString n.toNat)
  | .newEnum typeName variant => some s!"{renames.className typeName}.{variant}"
  | .annotationBegin typeName => some (renames.className typeName)
  | .annotationSet element => some element
  | .handleSet entity property => some s!"{renames.className entity}#{property}"
  | .intrinsic which => some which.label
  | .throw message => some (Text.quote message)

def instruction (renames : Renames) (i : Instruction) : String :=
  match operands? renames i with
  | none => i.mnemonic
  | some operands => i.mnemonic ++ " " ++ operands

/-- A number in at least four digits. -/
def position (n : Nat) : String :=
  let digits := toString n
  String.ofList (List.replicate (4 - digits.length) '0') ++ digits

/-- The lines of code from a position on; `done` is reversed. -/
def codeLines (renames : Renames) (n : Nat) (done : List String) : List Instruction → List String
  | [] => done.reverse
  | i :: rest =>
    let line := s!"    {position n}: {instruction renames i}\n"
    codeLines renames (n + 1) (line :: done) rest

def fieldLine (renames : Renames) (f : FieldDef) : String :=
  let initial := f.initial.elim "" fun c => s!" = {c.display}"
  s!"  field {f.name} {renames.descriptor f.descriptor} flags={flags f.flags}{initial}\n"

def methodLines (renames : Renames) (m : MethodDef) : List String :=
  let descriptor := renames.descriptor m.descriptor
  s!"  method {m.name}{descriptor} flags={flags m.flags} locals={m.maxLocals.toNat}\n" ::
    codeLines renames 0 [] m.code

end Listing

def ClassBody.listing (b : ClassBody) (renames : Renames) : String :=
  let head :=
    s!"class {renames.className b.name} [{b.kind.label}] flags={Listing.flags b.flags}\n"
  let extending := b.superName.elim [] fun name => [s!"  extends {renames.className name}\n"]
  let implementing := b.interfaces.map fun name => s!"  implements {renames.className name}\n"
  let signature := b.signature.elim [] fun s => [s!"  signature {renames.descriptor s}\n"]
  String.join (head :: extending ++ implementing ++ signature ++
    b.fields.map (Listing.fieldLine renames) ++ b.methods.flatMap (Listing.methodLines renames))

end EntityForge
