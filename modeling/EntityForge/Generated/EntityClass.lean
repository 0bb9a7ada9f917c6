import EntityForge.Class.Code
import EntityForge.Entity.Discovery
import EntityForge.Generated.Members
import EntityForge.Registry.Record

/-!
The class of an entity as the machine runs it. Fields are declared as they are; getters and setters
of a declared field read and write it; every other method throws. A reader and a writer for each
property may be injected, for accessors that call them.
-/

namespace EntityForge

inductive FieldRole where
  | reads (field : FieldMeta)
  | writes (field : FieldMeta)

namespace ClassMeta

/-- The field that the name of a getter or setter speaks of. -/
def fieldBehind? (c : ClassMeta) (suffix : String) : Option FieldMeta :=
  if suffix = "" then none
  else
    let property := BeanName.decapitalize suffix
    c.fields.find? fun f => f.name = property && !f.has AccessFlag.isStatic

/-- The role of a method: its name speaks of a field, and its descriptor of the field's type. -/
def role? (c : ClassMeta) (m : MethodMeta) : Option FieldRole :=
  if m.has AccessFlag.isStatic || m.has AccessFlag.isAbstract then none
  else
    match BeanName.suffix? "set" m.name with
    | some suffix =>
      ((c.fieldBehind? suffix).filter fun f =>
        m.descriptor = "(" ++ f.descriptor ++ ")V").map .writes
    | none =>
      ((BeanName.suffix? "get" m.name).or (BeanName.suffix? "is" m.name)).bind fun suffix =>
        ((c.fieldBehind? suffix).filter fun f => m.descriptor = "()" ++ f.descriptor).map .reads

def readCode (className field : String) : Code :=
  [Code.loadThis, .getField className field, .returnValue]

def writeCode (className field : String) : Code :=
  [Code.loadThis, .load 1, .putField className field, .returnVoid]

def methodCode (c : ClassMeta) (m : MethodMeta) : Code :=
  if m.name = Construction.name ∧ m.descriptor = Construction.plain then [.returnVoid]
  else
    match c.role? m with
    | some (.reads f) => readCode c.name f.name
    | some (.writes f) => writeCode c.name f.name
    | none => [.throw (c.name ++ "." ++ m.name ++ m.descriptor ++ " has no compiled body")]

/-- The method that initializes a class, which has no place in a body. -/
def classInitializer : String := "<clinit>"

/-- The class exactly as declared. -/
def compiled (c : ClassMeta) : ClassBody :=
  { name := c.name
    kind := .entity
    flags := c.flags
    superName := some (c.superName.getD ClassName.object)
    signature := c.signature
    fields := c.fields.map fun f => ⟨f.name, f.descriptor, f.flags, f.constant⟩
    methods := (c.methods.filter fun m => m.name ≠ classInitializer).map fun m =>
      .ofCode m.name m.descriptor m.flags (c.methodCode m) }

def injectedFlags : UInt16 := AccessFlag.isPublic ||| AccessFlag.isSynthetic

def injectedMethods (className : String) (p : Property) : List MethodDef :=
  let descriptor := p.type.erasedDescriptor
  [.ofCode (GeneratedName.reader p.name) ("()" ++ descriptor) injectedFlags
    (readCode className p.name),
   .ofCode (GeneratedName.writer p.name) ("(" ++ descriptor ++ ")V") injectedFlags
    (writeCode className p.name)]

/-- The class with a reader and a writer for every property, all of which must be fields. -/
def augmented (c : ClassMeta) (properties : List Property) : Except GenerationError ClassBody :=
  match properties.find? fun p => !p.access.isField with
  | some p => .error (.unsupported c.name (.getterBacked p.name))
  | none =>
    let body := c.compiled
    .ok { body with methods := body.methods ++ properties.flatMap (injectedMethods c.name) }

end ClassMeta

def ClassBody.record (b : ClassBody) : Except GenerationError ClassRecord :=
  (ClassRecord.ofBody b).mapError fun e => .failure (.malformedBody e)

end EntityForge
