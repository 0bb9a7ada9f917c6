import EntityForge.Proofs.Checked
import EntityForge.Proofs.Class.Pool
import Mathlib.Algebra.Group.Nat.Defs

/-!
The layout of a class. The image of a class is built while its pool grows; here it is described
after the fact, with a map that gives every literal its index. The two agree as long as the pool
holds every literal, which is what writing a class requires.
-/

namespace EntityForge

/-! The literals of each part, in the order in which they enter the pool. -/

def Operand.constants : Operand → List Constant
  | .constant c => [c]
  | _ => []

def Instruction.constants (i : Instruction) : List Constant := i.operands.flatMap Operand.constants

def FieldDef.constants (f : FieldDef) : List Constant :=
  .text f.name :: .text f.descriptor :: f.initial.toList

def MethodDef.constants (m : MethodDef) : List Constant :=
  .text m.name :: .text m.descriptor :: m.code.flatMap Instruction.constants

def ClassBody.constants (b : ClassBody) : List Constant :=
  .text b.name :: (b.superName.toList.map .text ++ (b.signature.toList.map .text ++
    (b.interfaces.map .text ++ (b.fields.flatMap FieldDef.constants ++
      b.methods.flatMap MethodDef.constants))))

def ClassBody.pool (b : ClassBody) : ConstantPool := ConstantPool.internAll {} b.constants

/-! The bytes of each part, when `ref` gives the index of every literal. -/

section Layout

variable (ref : Constant → UInt16)

def Operand.layout : Operand → Bytes
  | .byte b => [b]
  | .word w => BigEndian.word16 w
  | .constant c => BigEndian.word16 (ref c)

/-- The bytes after the opcode of an instruction. -/
def Instruction.operandLayout (i : Instruction) : Bytes := i.operands.flatMap (Operand.layout ref)

def codeLayout (code : List Instruction) : Bytes :=
  code.flatMap fun i => i.opcode :: i.operandLayout ref

def FieldDef.imageBy (f : FieldDef) : FieldImage :=
  ⟨ref (.text f.name), ref (.text f.descriptor), f.flags, f.initial.elim 0 ref⟩

def MethodDef.imageBy (m : MethodDef) : MethodImage :=
  ⟨ref (.text m.name), ref (.text m.descriptor), m.flags, m.maxLocals, codeLayout ref m.code⟩

def MethodImage.layout (m : MethodImage) : Bytes :=
  BigEndian.word16 m.name ++ BigEndian.word16 m.descriptor ++ BigEndian.word16 m.flags ++
    BigEndian.word16 m.maxLocals ++ BigEndian.word32 (UInt32.ofNat m.code.length) ++ m.code

def ClassBody.imageBy (b : ClassBody) (pool : ConstantPool) : ClassImage where
  pool := pool
  name := ref (.text b.name)
  kind := b.kind
  flags := b.flags
  superName := b.superName.elim 0 fun s => ref (.text s)
  signature := b.signature.elim 0 fun s => ref (.text s)
  interfaces := (b.interfaces.map fun s => ref (.text s)).toArray
  fields := (b.fields.map (FieldDef.imageBy ref)).toArray
  methods := (b.methods.map (MethodDef.imageBy ref)).toArray

/-- The bytes of a class behind its pool. -/
def ClassBody.layout (b : ClassBody) : Bytes :=
  BigEndian.word16 (ref (.text b.name)) ++ (b.kind.tag :: (BigEndian.word16 b.flags ++
    (BigEndian.word16 (b.superName.elim 0 fun s => ref (.text s)) ++
      (BigEndian.word16 (b.signature.elim 0 fun s => ref (.text s)) ++
        (BigEndian.word16 (UInt16.ofNat b.interfaces.length) ++
          (b.interfaces.flatMap (fun s => BigEndian.word16 (ref (.text s))) ++
            (BigEndian.word16 (UInt16.ofNat b.fields.length) ++
              (b.fields.flatMap (fun f => ClassImage.fieldBytes (f.imageBy ref)) ++
                (BigEndian.word16 (UInt16.ofNat b.methods.length) ++
                  b.methods.flatMap fun m => (m.imageBy ref).layout)))))))))

end Layout

/-! Building an image writes this layout. Throughout, `last` is a pool that the pool at hand grows
into without overflowing, and indices are those of `last`. -/

section Growth

variable {pool last : ConstantPool}

namespace ConstantPool

theorem operandBytes_pool (pool : ConstantPool) (operands : List Operand) :
    (pool.operandBytes operands).2 = pool.internAll (operands.flatMap Operand.constants) := by
  induction operands generalizing pool with
  | nil => rfl
  | cons o operands ih =>
    cases o with
    | constant c => exact ih (pool.intern c).2
    | _ => exact ih pool

theorem operandBytes_bytes {operands : List Operand}
    (h : (pool.internAll (operands.flatMap Operand.constants)).Grows last)
    (hfits : last.overflowed = false) :
    (pool.operandBytes operands).1 = operands.flatMap (Operand.layout last.reference) := by
  induction operands generalizing pool with
  | nil => rfl
  | cons o operands ih =>
    cases o with
    | byte b => exact congrArg (b :: ·) (ih h)
    | word w => exact congrArg (BigEndian.word16 w ++ ·) (ih h)
    | constant c =>
      have hgrows := (internAll_grows (pool.intern c).2 _).trans h
      have hindex := intern_reference hgrows hfits
      have hrest := ih h
      simp only [operandBytes, hrest, hindex, List.flatMap_cons, Operand.layout]

theorem codeParts_pool (pool : ConstantPool) (done : List Bytes) (code : List Instruction) :
    (pool.codeParts done code).2 = pool.internAll (code.flatMap Instruction.constants) := by
  induction code generalizing pool done with
  | nil => rfl
  | cons i code ih =>
    rw [codeParts, ih, operandBytes_pool, List.flatMap_cons, internAll_append]
    rfl

theorem codeParts_bytes {done : List Bytes} {code : List Instruction}
    (h : (pool.internAll (code.flatMap Instruction.constants)).Grows last)
    (hfits : last.overflowed = false) :
    (pool.codeParts done code).1.flatten =
      done.reverse.flatten ++ codeLayout last.reference code := by
  induction code generalizing pool done with
  | nil => simp [codeParts, codeLayout]
  | cons i code ih =>
    rw [List.flatMap_cons, internAll_append] at h
    have hbytes := operandBytes_bytes ((internAll_grows _ _).trans h) hfits
    rw [codeParts, ih (by rw [operandBytes_pool]; exact h), hbytes]
    simp [codeLayout, Instruction.operandLayout]

theorem codeBytes_pool (pool : ConstantPool) (code : List Instruction) :
    (pool.codeBytes code).2 = pool.internAll (code.flatMap Instruction.constants) :=
  codeParts_pool pool [] code

theorem codeBytes_bytes {code : List Instruction}
    (h : (pool.internAll (code.flatMap Instruction.constants)).Grows last)
    (hfits : last.overflowed = false) :
    (pool.codeBytes code).1 = codeLayout last.reference code :=
  codeParts_bytes h hfits

end ConstantPool

open ConstantPool

namespace ClassImage

theorem addField_pool (image : ClassImage) (f : FieldDef) :
    (image.addField f).pool = image.pool.internAll f.constants := by
  unfold addField FieldDef.constants
  cases f.initial <;> rfl

theorem addMethod_pool (image : ClassImage) (m : MethodDef) :
    (image.addMethod m).pool = image.pool.internAll m.constants :=
  codeBytes_pool _ m.code

/-- The pool after adding several parts of one kind in turn. -/
private theorem foldl_pool {α : Type} {add : ClassImage → α → ClassImage}
    {constants : α → List Constant}
    (hadd : ∀ image x, (add image x).pool = image.pool.internAll (constants x))
    (items : List α) (image : ClassImage) :
    (items.foldl add image).pool = image.pool.internAll (items.flatMap constants) := by
  induction items generalizing image with
  | nil => rfl
  | cons x items ih => rw [List.foldl_cons, ih, hadd, List.flatMap_cons, internAll_append]

theorem addInterfaces_pool (names : List String) (image : ClassImage) :
    (names.foldl addInterface image).pool = image.pool.internAll (names.map .text) := by
  rw [List.map_eq_flatMap]
  exact foldl_pool (fun _ _ => rfl) names image

theorem addFields_pool (fields : List FieldDef) (image : ClassImage) :
    (fields.foldl addField image).pool =
      image.pool.internAll (fields.flatMap FieldDef.constants) :=
  foldl_pool addField_pool fields image

theorem addMethods_pool (methods : List MethodDef) (image : ClassImage) :
    (methods.foldl addMethod image).pool =
      image.pool.internAll (methods.flatMap MethodDef.constants) :=
  foldl_pool addMethod_pool methods image

theorem ofName_eq {name : String} (kind : ClassKind) (flags : UInt16)
    (h : (ConstantPool.internAll {} [.text name]).Grows last) (hfits : last.overflowed = false) :
    ofName name kind flags =
      { pool := ConstantPool.internAll {} [.text name]
        name := last.reference (.text name)
        kind := kind
        flags := flags } := by
  have hname := intern_reference h hfits
  simp only [ofName, ConstantPool.internText, hname, internAll_cons, internAll_nil]

theorem setSuper_eq {image : ClassImage} {name? : Option String}
    (h : (image.pool.internAll (name?.toList.map .text)).Grows last)
    (hfits : last.overflowed = false) :
    name?.elim image (setSuper · image) =
      { image with
        pool := image.pool.internAll (name?.toList.map .text)
        superName := name?.elim image.superName fun s => last.reference (.text s) } := by
  cases name? with
  | none => rfl
  | some name =>
    have hname := intern_reference h hfits
    simp only [Option.elim, setSuper, ConstantPool.internText, hname]
    rfl

theorem setSignature_eq {image : ClassImage} {signature? : Option String}
    (h : (image.pool.internAll (signature?.toList.map .text)).Grows last)
    (hfits : last.overflowed = false) :
    signature?.elim image (setSignature · image) =
      { image with
        pool := image.pool.internAll (signature?.toList.map .text)
        signature := signature?.elim image.signature fun s => last.reference (.text s) } := by
  cases signature? with
  | none => rfl
  | some signature =>
    have hsignature := intern_reference h hfits
    simp only [Option.elim, setSignature, ConstantPool.internText, hsignature]
    rfl

theorem addInterface_eq {image : ClassImage} {s : String}
    (h : (image.pool.internAll [.text s]).Grows last) (hfits : last.overflowed = false) :
    image.addInterface s =
      { image with
        pool := image.pool.internAll [.text s]
        interfaces := image.interfaces.push (last.reference (.text s)) } := by
  have hname := intern_reference h hfits
  simp only [addInterface, ConstantPool.internText, hname, internAll_cons, internAll_nil]

theorem addField_eq {image : ClassImage} {f : FieldDef}
    (h : (image.pool.internAll f.constants).Grows last) (hfits : last.overflowed = false) :
    image.addField f =
      { image with
        pool := image.pool.internAll f.constants
        fields := image.fields.push (f.imageBy last.reference) } := by
  rw [FieldDef.constants, internAll_cons, internAll_cons] at h
  have hlater := (internAll_grows _ f.initial.toList).trans h
  have hname := intern_reference ((intern_grows _ _).trans hlater) hfits
  have hdescriptor := intern_reference hlater hfits
  unfold addField FieldDef.imageBy FieldDef.constants
  cases hinitial : f.initial with
  | none =>
    simp only [ConstantPool.internText, hname, hdescriptor, Option.elim, Option.toList_none,
      internAll_cons, internAll_nil]
  | some c =>
    rw [hinitial] at h
    have hindex := intern_reference h hfits
    simp only [ConstantPool.internText, hname, hdescriptor, hindex, Option.elim,
      Option.toList_some, internAll_cons, internAll_nil]

theorem addMethod_eq {image : ClassImage} {m : MethodDef}
    (h : (image.pool.internAll m.constants).Grows last) (hfits : last.overflowed = false) :
    image.addMethod m =
      { image with
        pool := image.pool.internAll m.constants
        methods := image.methods.push (m.imageBy last.reference) } := by
  rw [MethodDef.constants, internAll_cons, internAll_cons] at h
  have hlater := (internAll_grows _ (m.code.flatMap Instruction.constants)).trans h
  have hname := intern_reference ((intern_grows _ _).trans hlater) hfits
  have hdescriptor := intern_reference hlater hfits
  have hcode := codeBytes_bytes h hfits
  simp only [addMethod, ConstantPool.internText, hname, hdescriptor, hcode, codeBytes_pool,
    MethodDef.imageBy, MethodDef.constants, internAll_cons]

/-- Adding several parts of one kind in turn. `image` is the class with the given pool and the
given parts of this kind. -/
private theorem foldl_add {α β : Type} {add : ClassImage → α → ClassImage}
    {constants : α → List Constant} {encode : α → β}
    (image : ConstantPool → Array β → ClassImage)
    (hadd : ∀ pool parts x, (pool.internAll (constants x)).Grows last →
      add (image pool parts) x = image (pool.internAll (constants x)) (parts.push (encode x)))
    (items : List α) (parts : Array β)
    (h : (pool.internAll (items.flatMap constants)).Grows last) :
    items.foldl add (image pool parts) =
      image (pool.internAll (items.flatMap constants)) (parts ++ (items.map encode).toArray) := by
  induction items generalizing pool parts with
  | nil => simp
  | cons x items ih =>
    rw [List.flatMap_cons, internAll_append] at h
    rw [List.foldl_cons, hadd pool parts x ((internAll_grows _ _).trans h), ih _ h,
      List.flatMap_cons, internAll_append]
    simp

theorem addInterfaces_eq {image : ClassImage} {names : List String}
    (h : (image.pool.internAll (names.map .text)).Grows last) (hfits : last.overflowed = false) :
    names.foldl addInterface image =
      { image with
        pool := image.pool.internAll (names.map .text)
        interfaces :=
          image.interfaces ++ (names.map fun s => last.reference (.text s)).toArray } := by
  rw [List.map_eq_flatMap] at h ⊢
  exact foldl_add (fun pool interfaces => { image with pool, interfaces })
    (fun _ _ _ hgrows => addInterface_eq hgrows hfits) names image.interfaces h

theorem addFields_eq {image : ClassImage} {fields : List FieldDef}
    (h : (image.pool.internAll (fields.flatMap FieldDef.constants)).Grows last)
    (hfits : last.overflowed = false) :
    fields.foldl addField image =
      { image with
        pool := image.pool.internAll (fields.flatMap FieldDef.constants)
        fields := image.fields ++ (fields.map (FieldDef.imageBy last.reference)).toArray } :=
  foldl_add (fun pool fields => { image with pool, fields })
    (fun _ _ _ hgrows => addField_eq hgrows hfits) fields image.fields h

theorem addMethods_eq {image : ClassImage} {methods : List MethodDef}
    (h : (image.pool.internAll (methods.flatMap MethodDef.constants)).Grows last)
    (hfits : last.overflowed = false) :
    methods.foldl addMethod image =
      { image with
        pool := image.pool.internAll (methods.flatMap MethodDef.constants)
        methods := image.methods ++ (methods.map (MethodDef.imageBy last.reference)).toArray } :=
  foldl_add (fun pool methods => { image with pool, methods })
    (fun _ _ _ hgrows => addMethod_eq hgrows hfits) methods image.methods h

end ClassImage

end Growth

namespace ClassBody

open ConstantPool

/-- The pool of an image holds the literals of the class. -/
theorem image_pool (b : ClassBody) : b.image.pool = b.pool := by
  unfold image
  rw [ClassImage.addMethods_pool, ClassImage.addFields_pool, ClassImage.addInterfaces_pool]
  cases hsuper : b.superName <;> cases hsignature : b.signature <;>
    simp [pool, constants, hsuper, hsignature, ClassImage.ofName, ClassImage.setSuper,
      ClassImage.setSignature, ConstantPool.internText]

/-- A class whose pool did not overflow is written by the indices of that pool. -/
theorem image_eq {b : ClassBody} (hfits : b.pool.overflowed = false) :
    b.image = b.imageBy b.pool.reference b.pool := by
  -- The pool after each section; each of them grows into the last one.
  let named := ConstantPool.internAll {} [.text b.name]
  let extended := named.internAll (b.superName.toList.map .text)
  let signed := extended.internAll (b.signature.toList.map .text)
  let implemented := signed.internAll (b.interfaces.map .text)
  let filled := implemented.internAll (b.fields.flatMap FieldDef.constants)
  have hlast : filled.internAll (b.methods.flatMap MethodDef.constants) = b.pool := by
    simp [filled, implemented, signed, extended, named, pool, constants]
  have hmethods : (filled.internAll (b.methods.flatMap MethodDef.constants)).Grows b.pool :=
    hlast ▸ .refl _
  have hfilled : filled.Grows b.pool := (internAll_grows _ _).trans hmethods
  have himplemented : implemented.Grows b.pool := (internAll_grows _ _).trans hfilled
  have hsigned : signed.Grows b.pool := (internAll_grows _ _).trans himplemented
  have hextended : extended.Grows b.pool := (internAll_grows _ _).trans hsigned
  have hnamed : named.Grows b.pool := (internAll_grows _ _).trans hextended
  unfold image
  dsimp only
  rw [ClassImage.ofName_eq b.kind b.flags hnamed hfits,
    ClassImage.setSuper_eq hextended hfits, ClassImage.setSignature_eq hsigned hfits,
    ClassImage.addInterfaces_eq himplemented hfits, ClassImage.addFields_eq hfilled hfits,
    ClassImage.addMethods_eq hmethods hfits]
  simp only [imageBy, Array.empty_append, ClassImage.mk.injEq, and_self, and_true]
  exact hlast

/-- The tables of a class can be counted, and so can the bytes of its code. -/
structure Countable (b : ClassBody) : Prop where
  interfaces : b.interfaces.length ≤ 65535
  fields : b.fields.length ≤ 65535
  methods : b.methods.length ≤ 65535
  code : ∀ m ∈ b.methods, (codeLayout b.pool.reference m.code).length < 2 ^ 32

private theorem countBytes_ok_iff {part : SizedPart} {count : Nat} {bytes : Bytes} :
    ClassImage.countBytes part count = .ok bytes ↔
      count ≤ 65535 ∧ bytes = BigEndian.word16 (UInt16.ofNat count) := by
  unfold ClassImage.countBytes
  split
  · next hcount => simp [hcount, eq_comm]
  · next hcount => simp [hcount]

private theorem methodBytes_ok_iff {methods : List MethodImage} {parts : List Bytes} :
    methods.mapM ClassImage.methodBytes = .ok parts ↔
      (∀ m ∈ methods, m.code.length < 2 ^ 32) ∧ parts = methods.map MethodImage.layout :=
  Checked.mapM_guarded

/-- A class is written exactly if its pool can be written and its parts can be counted; the layout
follows the pool. -/
theorem encode_ok_iff {b : ClassBody} {bytes : Bytes} :
    b.encode = .ok bytes ↔ b.Countable ∧ ∃ poolBytes, b.pool.toBytes = .ok poolBytes ∧
      bytes = magic ++ (BigEndian.word16 formatVersion ++
        (poolBytes ++ b.layout b.pool.reference)) := by
  cases hpool : b.pool.toBytes with
  | error e =>
    have himage : b.image.pool.toBytes = .error e := by rw [image_pool, hpool]
    simp [encode, ClassImage.toBytes, himage, bind, Except.bind]
  | ok poolBytes =>
    rw [encode, image_eq (overflowed_of_toBytes hpool)]
    unfold ClassImage.toBytes
    simp only [imageBy, hpool, Checked.bind_eq_ok, countBytes_ok_iff, methodBytes_ok_iff,
      List.size_toArray, List.length_map, List.forall_mem_map, pure, Except.pure, Except.ok.injEq]
    constructor
    · rintro ⟨_, rfl, _, ⟨hinterfaces, rfl⟩, _, ⟨hfields, rfl⟩, _, ⟨hmethods, rfl⟩, _,
        ⟨hcode, rfl⟩, rfl⟩
      refine ⟨⟨hinterfaces, hfields, hmethods, hcode⟩, _, rfl, ?_⟩
      simp [layout, List.flatMap_def, Function.comp_def]
    · rintro ⟨⟨hinterfaces, hfields, hmethods, hcode⟩, _, rfl, rfl⟩
      refine ⟨_, rfl, _, ⟨hinterfaces, rfl⟩, _, ⟨hfields, rfl⟩, _, ⟨hmethods, rfl⟩, _,
        ⟨hcode, rfl⟩, ?_⟩
      simp [layout, List.flatMap_def, Function.comp_def]

end ClassBody

end EntityForge
