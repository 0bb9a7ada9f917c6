import EntityForge.Proofs.Class.Relocation

/-!
Classes built in any order. The calls that add the parts of a class may come in any order that keeps
the order inside each table. The order decides where literals stand in the pool, and nothing else:
pools that hold the same literals have the same size and fail for the same reason, the other parts
are laid out alike, and what is read back is the same.
-/

namespace EntityForge

/-! Pools of the same literals. -/

namespace ConstantPool

variable {cs ds : List Constant}

private theorem mem_of_get {table : ConstantTable} {index : UInt16} {c : Constant}
    (h : table.get index = .ok c) : c ∈ table.toList := by
  obtain ⟨_, hget⟩ := ConstantTable.get_eq_ok_iff.mp h
  exact Array.mem_toList_iff.mpr (Array.mem_of_getElem? hget)

/-- A pool that did not overflow holds exactly what was interned. -/
theorem mem_entries_iff (hfits : (internAll {} cs).overflowed = false) {c : Constant} :
    c ∈ (internAll {} cs).entries.toList ↔ c ∈ cs := by
  constructor
  · intro hc
    rcases mem_internAll (Array.mem_toList_iff.mp hc) with hempty | hin
    · simp at hempty
    · exact hin
  · intro hc
    exact mem_of_get (internAll_get sound_empty hfits hc)

/-- Where some literals fit, fewer do. -/
theorem fits_of_subset (hfits : (internAll {} cs).overflowed = false) (h : ds ⊆ cs) :
    (internAll {} ds).overflowed = false := by
  have hroom : (internAll {} cs).entries.toList.length ≤ maxEntries := by
    rw [Array.length_toList]
    exact (internAll_sound sound_empty cs).size_le
  apply internAll_fits sound_empty rfl hroom (List.nil_subset _)
  intro c hc
  exact (mem_entries_iff hfits).mpr (h hc)

theorem overflowed_congr (h : ∀ c, c ∈ cs ↔ c ∈ ds) :
    (internAll {} cs).overflowed = (internAll {} ds).overflowed := by
  cases hfits : (internAll {} cs).overflowed with
  | false => exact (fits_of_subset hfits fun c hc => (h c).mpr hc).symm
  | true =>
    cases hfits' : (internAll {} ds).overflowed with
    | true => rfl
    | false =>
      have hboth := fits_of_subset hfits' fun c hc => (h c).mp hc
      cases hfits.symm.trans hboth

theorem entries_perm (hfits : (internAll {} cs).overflowed = false) (h : ∀ c, c ∈ cs ↔ c ∈ ds) :
    (internAll {} cs).entries.toList.Perm (internAll {} ds).entries.toList := by
  have hfits' := overflowed_congr h ▸ hfits
  apply (List.perm_ext_iff_of_nodup (internAll_sound sound_empty cs).nodup
    (internAll_sound sound_empty ds).nodup).mpr
  intro c
  rw [mem_entries_iff hfits, mem_entries_iff hfits', h c]

/-- Writing one of several entries that cannot all be written fails for a long text. -/
private theorem entriesBytes_error {e : FormatError} (h : cs.mapM entryBytes = .error e) :
    e = .tooLarge .utf8Constant := by
  induction cs with
  | nil => cases h
  | cons c cs ih =>
    rw [List.mapM_cons] at h
    cases hc : entryBytes c with
    | error e' =>
      rw [hc] at h
      cases h
      cases c with
      | text s =>
        simp only [entryBytes] at hc
        split at hc
        · cases hc
        · cases hc
          rfl
      | _ => cases hc
    | ok bytes =>
      cases hcs : cs.mapM entryBytes with
      | error e' =>
        rw [hc, hcs] at h
        cases h
        exact ih hcs
      | ok parts =>
        rw [hc, hcs] at h
        cases h

/-- A pool is refused when it overflowed, or else when a text is too long. -/
theorem toBytes_error (hfits : (internAll {} cs).overflowed = false) {e : FormatError}
    (h : (internAll {} cs).toBytes = .error e) : e = .tooLarge .utf8Constant := by
  have hsize := (internAll_sound sound_empty cs).size_le
  rw [toBytes, if_neg (by simp [hfits, hsize])] at h
  cases hparts : (internAll {} cs).entries.toList.mapM entryBytes with
  | error e' =>
    rw [hparts] at h
    cases h
    exact entriesBytes_error hparts
  | ok parts =>
    rw [hparts] at h
    cases h

theorem toBytes_overflowed (h : (internAll {} cs).overflowed = true) :
    (internAll {} cs).toBytes = .error (.tooLarge .constantPool) := by
  rw [toBytes, if_pos (.inl h)]

/-- What can be written in one order can be written in another one, in as many bytes. -/
theorem toBytes_perm (h : ∀ c, c ∈ cs ↔ c ∈ ds) {bytes : Bytes}
    (hbytes : (internAll {} cs).toBytes = .ok bytes) :
    ∃ bytes', (internAll {} ds).toBytes = .ok bytes' ∧ bytes.length = bytes'.length := by
  have hfits := overflowed_of_toBytes hbytes
  have hfits' := overflowed_congr h ▸ hfits
  have hperm := entries_perm hfits h
  have hsize := (internAll_sound sound_empty ds).size_le
  have hlength := toBytes_length hbytes
  unfold toBytes at hbytes
  split at hbytes
  · cases hbytes
  obtain ⟨parts, hparts, -⟩ := Checked.map_eq_ok.mp hbytes
  have hentry (c : Constant) (hc : c ∈ (internAll {} ds).entries.toList) :
      ∃ entry, entryBytes c = .ok entry := by
    obtain ⟨entry, -, hentry⟩ :=
      Checked.forall₂_mem_left (Checked.mapM_eq_ok.mp hparts) (hperm.mem_iff.mpr hc)
    exact ⟨entry, hentry⟩
  obtain ⟨parts', hparts'⟩ := Checked.mapM_ok hentry
  have hbytes' : (internAll {} ds).toBytes =
      .ok (BigEndian.word16 (UInt16.ofNat (internAll {} ds).entries.size) ++ parts'.flatten) := by
    rw [toBytes, if_neg (by simp [hfits', hsize]), hparts']
    rfl
  refine ⟨_, hbytes', ?_⟩
  rw [hlength, toBytes_length hbytes', poolSize, poolSize, (hperm.map Constant.size).sum_eq]

/-- Pools of the same literals can both be written, in as many bytes, or fail for the same
reason. -/
theorem toBytes_alike (h : ∀ c, c ∈ cs ↔ c ∈ ds) :
    (∃ bytes bytes', (internAll {} cs).toBytes = .ok bytes ∧
      (internAll {} ds).toBytes = .ok bytes' ∧ bytes.length = bytes'.length) ∨
    ∃ e, (internAll {} cs).toBytes = .error e ∧ (internAll {} ds).toBytes = .error e := by
  have hsymm (c : Constant) : c ∈ ds ↔ c ∈ cs := (h c).symm
  cases hbytes : (internAll {} cs).toBytes with
  | ok bytes =>
    obtain ⟨bytes', hbytes', hlength⟩ := toBytes_perm h hbytes
    exact .inl ⟨bytes, bytes', rfl, hbytes', hlength⟩
  | error e =>
    right
    cases hbytes' : (internAll {} ds).toBytes with
    | ok bytes' =>
      obtain ⟨bytes, hok, -⟩ := toBytes_perm hsymm hbytes'
      cases hbytes.symm.trans hok
    | error e' =>
      have hsame := overflowed_congr h
      cases hfits : (internAll {} cs).overflowed with
      | false =>
        rw [toBytes_error hfits hbytes, toBytes_error (hsame ▸ hfits) hbytes']
        exact ⟨_, rfl, rfl⟩
      | true =>
        rw [toBytes_overflowed hfits] at hbytes
        rw [toBytes_overflowed (hsame ▸ hfits)] at hbytes'
        exact ⟨_, hbytes.symm, hbytes'.symm⟩

end ConstantPool

/-! The calls that add the parts of a class. -/

inductive ClassPart where
  | superName (name : String)
  | signature (signature : String)
  | interface (name : String)
  | field (f : FieldDef)
  | method (m : MethodDef)

namespace ClassPart

def add (image : ClassImage) : ClassPart → ClassImage
  | .superName s => image.setSuper s
  | .signature s => image.setSignature s
  | .interface s => image.addInterface s
  | .field f => image.addField f
  | .method m => image.addMethod m

def constants : ClassPart → List Constant
  | .superName s | .signature s | .interface s => [.text s]
  | .field f => f.constants
  | .method m => m.constants

def superName? : ClassPart → Option String
  | .superName s => some s
  | _ => none

def signature? : ClassPart → Option String
  | .signature s => some s
  | _ => none

def interface? : ClassPart → Option String
  | .interface s => some s
  | _ => none

def field? : ClassPart → Option FieldDef
  | .field f => some f
  | _ => none

def method? : ClassPart → Option MethodDef
  | .method m => some m
  | _ => none

end ClassPart

namespace ClassBody

/-- The calls add the parts of a class, each once, and those of one table in its order. -/
structure IssuedBy (b : ClassBody) (parts : List ClassPart) : Prop where
  superName : parts.filterMap ClassPart.superName? = b.superName.toList
  signature : parts.filterMap ClassPart.signature? = b.signature.toList
  interfaces : parts.filterMap ClassPart.interface? = b.interfaces
  fields : parts.filterMap ClassPart.field? = b.fields
  methods : parts.filterMap ClassPart.method? = b.methods

/-- The class as the calls leave it. -/
def writtenBy (b : ClassBody) (parts : List ClassPart) : ClassImage :=
  parts.foldl ClassPart.add (ClassImage.ofName b.name b.kind b.flags)

/-- The calls by which a class is encoded. -/
def parts (b : ClassBody) : List ClassPart :=
  b.superName.toList.map .superName ++ (b.signature.toList.map .signature ++
    (b.interfaces.map .interface ++ (b.fields.map .field ++ b.methods.map .method)))

theorem issuedBy_parts (b : ClassBody) : b.IssuedBy b.parts := by
  constructor <;>
    simp [parts, List.filterMap_map, Function.comp_def, ClassPart.superName?, ClassPart.signature?,
      ClassPart.interface?, ClassPart.field?, ClassPart.method?]

theorem image_eq_writtenBy (b : ClassBody) : b.image = b.writtenBy b.parts := by
  unfold image writtenBy parts
  simp only [List.foldl_append, List.foldl_map]
  cases b.superName <;> cases b.signature <;> rfl

/-- The literals in the order in which the calls bring them. -/
def constantsBy (b : ClassBody) (parts : List ClassPart) : List Constant :=
  .text b.name :: parts.flatMap ClassPart.constants

end ClassBody

open ConstantPool

namespace ClassPart

variable {image : ClassImage} {last : ConstantPool}

theorem add_pool (image : ClassImage) (part : ClassPart) :
    (add image part).pool = image.pool.internAll part.constants := by
  cases part with
  | superName s | signature s | interface s => rfl
  | field f => exact image.addField_pool f
  | method m => exact image.addMethod_pool m

theorem foldl_pool (image : ClassImage) (parts : List ClassPart) :
    (parts.foldl add image).pool = image.pool.internAll (parts.flatMap constants) := by
  induction parts generalizing image with
  | nil => rfl
  | cons part parts ih =>
    rw [List.foldl_cons, ih, add_pool, List.flatMap_cons, internAll_append]

/-- The literals of all calls, by the tables to which they add. -/
theorem mem_constants_iff (parts : List ClassPart) (c : Constant) :
    c ∈ parts.flatMap constants ↔
      c ∈ (parts.filterMap superName?).map .text ∨ c ∈ (parts.filterMap signature?).map .text ∨
      c ∈ (parts.filterMap interface?).map .text ∨
      c ∈ (parts.filterMap field?).flatMap FieldDef.constants ∨
      c ∈ (parts.filterMap method?).flatMap MethodDef.constants := by
  induction parts with
  | nil => simp
  | cons part parts ih =>
    rw [List.flatMap_cons, List.mem_append, ih]
    cases part <;>
      simp only [constants, superName?, signature?, interface?, field?, method?,
        List.filterMap_cons, List.map_cons, List.flatMap_cons, List.mem_append, List.mem_cons,
        List.not_mem_nil, or_false, or_assoc, or_left_comm]

/-- One call: the part goes to its place, by the indices of the pool that the class will have. -/
theorem add_eq {part : ClassPart} (h : (image.pool.internAll part.constants).Grows last)
    (hfits : last.overflowed = false) :
    add image part =
      { image with
        pool := image.pool.internAll part.constants
        superName := part.superName?.elim image.superName fun s => last.reference (.text s)
        signature := part.signature?.elim image.signature fun s => last.reference (.text s)
        interfaces := image.interfaces ++
          (part.interface?.toList.map fun s => last.reference (.text s)).toArray
        fields := image.fields ++
          (part.field?.toList.map (FieldDef.imageBy last.reference)).toArray
        methods := image.methods ++
          (part.method?.toList.map (MethodDef.imageBy last.reference)).toArray } := by
  cases part with
  | superName s =>
    have hname := intern_reference h hfits
    simp [add, ClassImage.setSuper, internText, hname, superName?, signature?, interface?, field?,
      method?, constants]
  | signature s =>
    have hname := intern_reference h hfits
    simp [add, ClassImage.setSignature, internText, hname, superName?, signature?, interface?,
      field?, method?, constants]
  | interface s =>
    rw [add, ClassImage.addInterface_eq h hfits]
    simp [superName?, signature?, interface?, field?, method?, constants]
  | field f =>
    rw [add, ClassImage.addField_eq h hfits]
    simp [superName?, signature?, interface?, field?, method?, constants]
  | method m =>
    rw [add, ClassImage.addMethod_eq h hfits]
    simp [superName?, signature?, interface?, field?, method?, constants]

/-- All calls: each table has the parts that were added to it, in order. -/
theorem foldl_eq (parts : List ClassPart)
    (h : (image.pool.internAll (parts.flatMap constants)).Grows last)
    (hfits : last.overflowed = false) :
    parts.foldl add image =
      { image with
        pool := image.pool.internAll (parts.flatMap constants)
        superName := ((parts.filterMap superName?).map fun s =>
          last.reference (.text s)).getLastD image.superName
        signature := ((parts.filterMap signature?).map fun s =>
          last.reference (.text s)).getLastD image.signature
        interfaces := image.interfaces ++
          ((parts.filterMap interface?).map fun s => last.reference (.text s)).toArray
        fields := image.fields ++
          ((parts.filterMap field?).map (FieldDef.imageBy last.reference)).toArray
        methods := image.methods ++
          ((parts.filterMap method?).map (MethodDef.imageBy last.reference)).toArray } := by
  induction parts generalizing image with
  | nil => simp
  | cons part parts ih =>
    rw [List.flatMap_cons, internAll_append] at h
    rw [List.foldl_cons, ih (by rw [add_pool]; exact h),
      add_eq ((internAll_grows _ _).trans h) hfits]
    cases part <;>
      simp only [superName?, signature?, interface?, field?, method?, List.filterMap_cons,
        Option.elim_some, Option.elim_none, Option.toList_some, Option.toList_none, List.map_cons,
        List.map_nil, List.getLastD_cons, List.flatMap_cons, internAll_append, Array.append_assoc,
        List.append_toArray, List.nil_append, List.cons_append]

end ClassPart

namespace ClassBody

variable {b : ClassBody} {parts parts' : List ClassPart} {pool : ConstantPool}

theorem writtenBy_pool (b : ClassBody) (parts : List ClassPart) :
    (b.writtenBy parts).pool = internAll {} (b.constantsBy parts) := by
  rw [writtenBy, ClassPart.foldl_pool]
  rfl

/-- Whatever the order of the calls, they bring the literals of the class. -/
theorem IssuedBy.mem_constants (h : b.IssuedBy parts) (c : Constant) :
    c ∈ b.constantsBy parts ↔ c ∈ b.constants := by
  simp only [constantsBy, constants, List.mem_cons, List.mem_append, ClassPart.mem_constants_iff,
    h.superName, h.signature, h.interfaces, h.fields, h.methods]

/-- Whatever the order of the calls, the class is written by the indices of its pool. -/
theorem IssuedBy.writtenBy_eq (h : b.IssuedBy parts)
    (hpool : pool = internAll {} (b.constantsBy parts)) (hfits : pool.overflowed = false) :
    b.writtenBy parts = b.imageBy pool.reference pool := by
  have hnamed : (internAll {} [.text b.name]).Grows pool := by
    rw [hpool]
    exact internAll_grows (internAll {} [.text b.name]) (parts.flatMap ClassPart.constants)
  have hparts : ((internAll {} [.text b.name]).internAll
      (parts.flatMap ClassPart.constants)).Grows pool := by
    rw [hpool]
    exact .refl _
  rw [writtenBy, ClassImage.ofName_eq b.kind b.flags hnamed hfits,
    ClassPart.foldl_eq parts hparts hfits, h.superName, h.signature, h.interfaces, h.fields,
    h.methods]
  have hlast (name? : Option String) :
      (name?.toList.map fun s => pool.reference (.text s)).getLastD 0 =
        name?.elim 0 fun s => pool.reference (.text s) := by
    cases name? <;> rfl
  simp only [imageBy, hlast, Array.empty_append, ClassImage.mk.injEq, and_self, and_true]
  exact hpool.symm

/-- The first table that is too long to be counted, or the code of methods if some is. -/
def uncounted? (b : ClassBody) : Option SizedPart :=
  if 65535 < b.interfaces.length then some .interfaceTable
  else if 65535 < b.fields.length then some .fieldTable
  else if 65535 < b.methods.length then some .methodTable
  else if ∃ m ∈ b.methods, UInt32.size ≤ codeSize m.code then some .methodCode
  else none

private theorem methodBytes_mapM (ref : Constant → UInt16) (methods : List MethodDef) :
    (methods.map (MethodDef.imageBy ref)).mapM ClassImage.methodBytes =
      if ∃ m ∈ methods, UInt32.size ≤ codeSize m.code then .error (.tooLarge .methodCode)
      else .ok (methods.map fun m => (m.imageBy ref).layout) := by
  induction methods with
  | nil => rfl
  | cons m methods ih =>
    have hm : ClassImage.methodBytes (m.imageBy ref) =
        if UInt32.size ≤ codeSize m.code then .error (.tooLarge .methodCode)
        else .ok (m.imageBy ref).layout := by
      have hlength : (m.imageBy ref).code.length = codeSize m.code := codeLayout_length ref m.code
      rw [ClassImage.methodBytes, hlength]
      by_cases hlong : UInt32.size ≤ codeSize m.code
      · rw [if_neg (by omega), if_pos hlong]
      · rw [if_pos (by omega), if_neg hlong]
        simp [MethodImage.layout, hlength]
    rw [List.map_cons, List.mapM_cons, ih, hm]
    simp only [List.exists_mem_cons_iff]
    by_cases hlong : UInt32.size ≤ codeSize m.code
    · simp only [hlong, if_true, true_or]
      rfl
    · by_cases hrest : ∃ m ∈ methods, UInt32.size ≤ codeSize m.code
      · simp only [hlong, hrest, if_true, if_false, or_true]
        rfl
      · simp only [hlong, hrest, if_false, or_false]
        rfl

/-- A class is written behind its pool, or refused for what cannot be counted, wherever its literals
stand. -/
theorem toBytes_imageBy (b : ClassBody) (ref : Constant → UInt16) {poolBytes : Bytes}
    (hpool : pool.toBytes = .ok poolBytes) :
    (b.imageBy ref pool).toBytes =
      match b.uncounted? with
      | some part => .error (.tooLarge part)
      | none => .ok (magic ++ (BigEndian.word16 formatVersion ++ (poolBytes ++ b.layout ref))) := by
  have hcount (part : SizedPart) (count : Nat) : ClassImage.countBytes part count =
      if 65535 < count then .error (.tooLarge part)
      else .ok (BigEndian.word16 (UInt16.ofNat count)) := by
    unfold ClassImage.countBytes
    by_cases hlong : 65535 < count
    · rw [if_neg (by omega), if_pos hlong]
    · rw [if_pos (by omega), if_neg hlong]
  unfold ClassImage.toBytes uncounted?
  simp only [imageBy, hpool, List.size_toArray, List.length_map, methodBytes_mapM, hcount]
  by_cases hinterfaces : 65535 < b.interfaces.length
  · simp only [hinterfaces, if_true]
    rfl
  by_cases hfields : 65535 < b.fields.length
  · simp only [hinterfaces, hfields, if_true, if_false]
    rfl
  by_cases hmethods : 65535 < b.methods.length
  · simp only [hinterfaces, hfields, hmethods, if_true, if_false]
    rfl
  by_cases hcode : ∃ m ∈ b.methods, UInt32.size ≤ codeSize m.code
  · simp only [hinterfaces, hfields, hmethods, hcode, if_true, if_false]
    rfl
  · simp only [hinterfaces, hfields, hmethods, hcode, if_false, bind, Except.bind, pure,
      Except.pure]
    simp [layout, List.flatMap_def, Function.comp_def]

theorem countable_of_uncounted (h : b.uncounted? = none) : b.Countable := by
  unfold uncounted? at h
  split at h
  · cases h
  split at h
  · cases h
  split at h
  · cases h
  split at h
  · cases h
  · next hinterfaces hfields hmethods hcode =>
    refine ⟨by omega, by omega, by omega, ?_⟩
    intro m hm
    rw [codeLayout_length]
    exact Nat.lt_of_not_le fun hlong => hcode ⟨m, hm, hlong⟩

theorem IssuedBy.holds (h : b.IssuedBy parts) (hpool : pool = internAll {} (b.constantsBy parts))
    (hfits : pool.overflowed = false) : pool.entries.Holds pool.reference b.constants := by
  intro c hc
  subst hpool
  exact internAll_get sound_empty hfits ((h.mem_constants c).mpr hc)

/-- The bytes that some calls lead to, when the pool can be written. -/
theorem IssuedBy.toBytes_eq (h : b.IssuedBy parts)
    (hpool : pool = internAll {} (b.constantsBy parts)) {poolBytes : Bytes}
    (hbytes : pool.toBytes = .ok poolBytes) :
    (b.writtenBy parts).toBytes =
      match b.uncounted? with
      | some part => .error (.tooLarge part)
      | none => .ok (magic ++ (BigEndian.word16 formatVersion ++
          (poolBytes ++ b.layout pool.reference))) := by
  rw [h.writtenBy_eq hpool (overflowed_of_toBytes hbytes), toBytes_imageBy b pool.reference hbytes]

theorem toBytes_of_pool {image : ClassImage} {e : FormatError} (h : image.pool.toBytes = .error e) :
    image.toBytes = .error e := by
  unfold ClassImage.toBytes
  rw [h]
  rfl

/-- The order of the calls only changes where literals stand. Two orders that add the parts of one
class lead to bytes of one length that are read back alike, whether as the class or as the same
error, or both fail for the same reason. -/
theorem writtenBy_alike (h : b.IssuedBy parts) (h' : b.IssuedBy parts') :
    (∃ bytes bytes', (b.writtenBy parts).toBytes = .ok bytes ∧
      (b.writtenBy parts').toBytes = .ok bytes' ∧ bytes.length = bytes'.length ∧
      decode bytes = decode bytes') ∨
    ∃ e, (b.writtenBy parts).toBytes = .error e ∧ (b.writtenBy parts').toBytes = .error e := by
  have hsame (c : Constant) : c ∈ b.constantsBy parts ↔ c ∈ b.constantsBy parts' :=
    (h.mem_constants c).trans (h'.mem_constants c).symm
  obtain ⟨poolBytes, poolBytes', hpool, hpool', hlength⟩ | ⟨e, hpool, hpool'⟩ :=
    toBytes_alike hsame
  · rw [h.toBytes_eq rfl hpool, h'.toBytes_eq rfl hpool']
    cases hcount : b.uncounted? with
    | some part =>
      right
      exact ⟨_, rfl, rfl⟩
    | none =>
      left
      refine ⟨_, _, rfl, rfl, ?_, ?_⟩
      · simp only [List.length_append, layout_length, hlength]
      · have hholds := h.holds rfl (overflowed_of_toBytes hpool)
        have hholds' := h'.holds rfl (overflowed_of_toBytes hpool')
        exact FormatReader.classBody_endsAlike hpool hpool' hlength hholds hholds'
          (countable_of_uncounted hcount) 0
  · right
    refine ⟨e, toBytes_of_pool ?_, toBytes_of_pool ?_⟩
    · rw [writtenBy_pool, hpool]
    · rw [writtenBy_pool, hpool']

theorem writtenBy_alike_sample :
    ∃ bytes bytes', sample.encode = .ok bytes ∧
      (sample.writtenBy sample.parts.reverse).toBytes = .ok bytes' ∧
      bytes.length = bytes'.length ∧ decode bytes = decode bytes' := by
  have hreversed : sample.IssuedBy sample.parts.reverse := ⟨rfl, rfl, rfl, rfl, rfl⟩
  obtain ⟨bytes, hbytes⟩ := encode_of_limited (b := sample) (by decide +kernel)
  rw [encode, image_eq_writtenBy] at hbytes ⊢
  obtain hboth | ⟨e, herror, -⟩ := writtenBy_alike sample.issuedBy_parts hreversed
  · exact hboth
  · cases hbytes.symm.trans herror

end ClassBody

end EntityForge
