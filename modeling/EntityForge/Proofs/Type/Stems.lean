import EntityForge.Proofs.Type.Grammar

/-!
Stems of types. A signature has a letter and perhaps a name of each type in a tree, and marks
between them. The same text may be put together around other stems; with the stems of classes of
other names it is the signature of the tree in which the classes are renamed.
-/

namespace EntityForge

namespace TypeTree

/-- The letter and the name of a type, as its signature has them. -/
def stem (t : TypeTree) : List Char :=
  match t.kind with
  | .primitive p => [p.letter]
  | .wildcard => ['*']
  | .variable => 'T' :: t.raw.toList
  | .classType => 'L' :: slashed t.raw

mutual

def spelledWith (stems : TypeTree → List Char) : TypeTree → List Char
  | ⟨raw, args, dims, kind, bound⟩ =>
    boundMark bound ++ brackets dims ++ stems ⟨raw, args, dims, kind, bound⟩ ++
      match kind with
      | .primitive _ | .wildcard => []
      | .variable => [';']
      | .classType =>
        (if args.isEmpty then [] else '<' :: spelledAllWith stems args ++ ['>']) ++ [';']

/-- The characters of signatures with other stems in them, one after the other. -/
def spelledAllWith (stems : TypeTree → List Char) : List TypeTree → List Char
  | [] => []
  | t :: ts => spelledWith stems t ++ spelledAllWith stems ts

end

theorem spelledAllWith_eq (stems : TypeTree → List Char) (ts : List TypeTree) :
    spelledAllWith stems ts = ts.flatMap (spelledWith stems) := by
  induction ts with
  | nil => rfl
  | cons t ts ih => rw [spelledAllWith, ih, List.flatMap_cons]

mutual

def renamed (rename : String → String) : TypeTree → TypeTree
  | ⟨raw, args, dims, .classType, bound⟩ =>
    ⟨rename raw, renamedAll rename args, dims, .classType, bound⟩
  | ⟨raw, args, dims, kind, bound⟩ => ⟨raw, renamedAll rename args, dims, kind, bound⟩

def renamedAll (rename : String → String) : List TypeTree → List TypeTree
  | [] => []
  | t :: ts => renamed rename t :: renamedAll rename ts

end

theorem renamedAll_eq (rename : String → String) (ts : List TypeTree) :
    renamedAll rename ts = ts.map (renamed rename) := by
  induction ts with
  | nil => rfl
  | cons t ts ih => rw [renamedAll, ih, List.map_cons]

mutual

theorem spelledWith_stem (t : TypeTree) : spelledWith stem t = t.signatureChars := by
  cases t with
  | mk raw args dims kind bound =>
    cases kind <;> simp [spelledWith, signatureChars, stem, spelledAllWith_stem args]

theorem spelledAllWith_stem (ts : List TypeTree) :
    spelledAllWith stem ts = signatureListChars ts := by
  cases ts with
  | nil => rfl
  | cons t ts =>
    rw [spelledAllWith, signatureListChars, spelledWith_stem t, spelledAllWith_stem ts]

end

mutual

/-- The signature of a renamed type has the stems of the renamed types. -/
theorem spelledWith_renamed (rename : String → String) (t : TypeTree) :
    spelledWith (fun u => (u.renamed rename).stem) t = (t.renamed rename).signatureChars := by
  cases t with
  | mk raw args dims kind bound =>
    have hargs := spelledAllWith_renamed rename args
    rw [renamedAll_eq] at hargs
    cases kind <;> simp only [spelledWith, hargs] <;>
      simp [signatureChars, renamed, renamedAll_eq, stem]

theorem spelledAllWith_renamed (rename : String → String) (ts : List TypeTree) :
    spelledAllWith (fun u => (u.renamed rename).stem) ts =
      signatureListChars (renamedAll rename ts) := by
  cases ts with
  | nil => rfl
  | cons t ts =>
    rw [spelledAllWith, renamedAll, signatureListChars, spelledWith_renamed rename t,
      spelledAllWith_renamed rename ts]

end

theorem stem_class {t : TypeTree} (h : t.kind = .classType) : t.stem = 'L' :: slashed t.raw := by
  unfold stem
  rw [h]

theorem stem_renamed_class {rename : String → String} {t : TypeTree} (h : t.kind = .classType) :
    (t.renamed rename).stem = 'L' :: slashed (rename t.raw) := by
  obtain ⟨raw, args, dims, kind, bound⟩ := t
  cases h
  rw [renamed]
  rfl

theorem stem_renamed_other {rename : String → String} {t : TypeTree} (h : t.kind ≠ .classType) :
    (t.renamed rename).stem = t.stem := by
  obtain ⟨raw, args, dims, kind, bound⟩ := t
  cases kind with
  | classType => exact absurd rfl h
  | primitive p | wildcard | «variable» => simp [renamed, stem]

end TypeTree

namespace MethodType

def spelledWith (stems : TypeTree → List Char) (m : MethodType) : List Char :=
  '(' :: TypeTree.spelledAllWith stems m.params ++ ')' ::
    match m.result with
    | some t => t.spelledWith stems
    | none => ['V']

def renamed (rename : String → String) (m : MethodType) : MethodType :=
  ⟨m.params.map (TypeTree.renamed rename), m.result.map (TypeTree.renamed rename)⟩

theorem spelledWith_stem (m : MethodType) : m.spelledWith TypeTree.stem = m.signatureChars := by
  obtain ⟨params, result⟩ := m
  cases result <;>
    simp only [spelledWith, signatureChars, TypeTree.spelledAllWith_stem,
      TypeTree.spelledWith_stem]

theorem spelledWith_renamed (rename : String → String) (m : MethodType) :
    m.spelledWith (fun u => (u.renamed rename).stem) = (m.renamed rename).signatureChars := by
  obtain ⟨params, result⟩ := m
  cases result <;>
    simp only [spelledWith, signatureChars, renamed, Option.map_some, Option.map_none,
      TypeTree.spelledAllWith_renamed, TypeTree.spelledWith_renamed, TypeTree.renamedAll_eq]

end MethodType

end EntityForge
