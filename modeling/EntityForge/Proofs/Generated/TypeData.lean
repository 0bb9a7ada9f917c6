import EntityForge.Proofs.Class.RoundTrip
import EntityForge.Proofs.Generated.Code
import EntityForge.Proofs.Type.Grammar

/-!
Code that builds types. It is emitted for exactly the trees in which no type has more arguments than
an instruction can count. Run where it was emitted or where it was read back from the bytes of a
class, it leaves the type on top of the stack and everything else as it was.
-/

namespace EntityForge

namespace TypeTree

mutual

/-- The nodes are what the size of a tree counts. -/
theorem length_nodes (t : TypeTree) : t.nodes.length = t.nodeCount := by
  cases t with
  | mk raw args dims kind bound =>
    rw [nodes, nodeCount, List.length_cons, length_nodesAll args, Nat.add_comm]

theorem length_nodesAll (ts : List TypeTree) : (nodesAll ts).length = nodeCountAll ts := by
  cases ts with
  | nil => rfl
  | cons t ts => rw [nodesAll, nodeCountAll, List.length_append, length_nodes t, length_nodesAll ts]

end

end TypeTree

namespace Code

open Run TypeTree

theorem typeDataAll_cons (t : TypeTree) (ts : List TypeTree) :
    typeDataAll (t :: ts) =
      (typeData t >>= fun code => typeDataAll ts >>= fun rest => .ok (code ++ rest)) := by
  rw [typeDataAll]
  cases typeData t with
  | error e => rfl
  | ok code => cases typeDataAll ts <;> rfl

/-- A type with more arguments than an instruction can count, and the error that names it. -/
def TooWide (s : TypeTree) (e : Failure) : Prop :=
  255 < s.args.length ∧ e = .tooManyTypeArguments s.raw s.args.length

mutual

/-- The arguments are counted at every node, below before above. -/
theorem typeData_blames (t : TypeTree) : Checked.Blames TooWide t.nodes (typeData t) := by
  cases t with
  | mk raw args dims kind bound =>
    have hargs := typeDataAll_blames args
    rw [nodes, typeData]
    cases hcode : typeDataAll args with
    | error e =>
      rw [hcode] at hargs
      obtain ⟨s, hs, hwide⟩ := hargs
      exact ⟨s, List.mem_cons_of_mem _ hs, hwide⟩
    | ok code =>
      rw [hcode] at hargs
      dsimp only
      split
      · next hcount =>
        exact List.forall_mem_cons.mpr ⟨fun e hwide => Nat.not_lt_of_le hcount hwide.1, hargs⟩
      · next hcount => exact ⟨_, List.mem_cons_self, Nat.lt_of_not_le hcount, rfl⟩

theorem typeDataAll_blames (ts : List TypeTree) :
    Checked.Blames TooWide (nodesAll ts) (typeDataAll ts) := by
  cases ts with
  | nil => exact .ok []
  | cons t ts =>
    rw [nodesAll, typeDataAll_cons]
    exact (typeData_blames t).bind fun code => (typeDataAll_blames ts).bind_ok (code ++ ·)

end

/-- Code is emitted for exactly the trees whose nodes can all be counted. -/
theorem typeData_ok_iff {t : TypeTree} :
    (∃ code, typeData t = .ok code) ↔ ∀ s ∈ t.nodes, s.args.length ≤ 255 := by
  rw [(typeData_blames t).ok_iff]
  constructor
  · intro hnone s hs
    exact Nat.le_of_not_lt fun hwide => hnone s hs _ ⟨hwide, rfl⟩
  · intro hcount s hs e hwide
    exact Nat.not_lt_of_le (hcount s hs) hwide.1

/-- Code that pushes a type in any frame and on any machine, and does nothing else. -/
def Builds (code : Code) (t : TypeTree) : Prop :=
  ∀ callee type f m, Moves callee type code f m (f.push (.type t)) m

theorem typeData_builds {t : TypeTree} {code : Code} (h : typeData t = .ok code) :
    code.Builds t := (typeData_pushes h).moves

end Code

/-- Whatever is read back from the bytes of a class is that class. -/
theorem ClassBody.eq_of_encode {b b' : ClassBody} {bytes : Bytes}
    (hencode : b.encode = .ok bytes) (hdecode : ClassBody.decode bytes = .ok b') : b' = b := by
  obtain ⟨hok, herror⟩ := ClassBody.decode_of_encode hencode
  by_cases hformed : b.WellFormed
  · cases (hok hformed).symm.trans hdecode
    rfl
  · obtain ⟨e, he⟩ := herror hformed
    cases he.symm.trans hdecode

namespace Code

open Run

/-- Building a type round trips. Code is emitted if and only if every type in the tree has at most
255 arguments, else the error names a type that has more. The code pushes the type, in every frame
and on every machine, and so does what stands in its place when a class around it was written and
read back, which every well-formed class that was written can be. -/
theorem typeData_roundTrip (t : TypeTree) :
    ((∃ code, typeData t = .ok code) ↔ ∀ s ∈ t.nodes, s.args.length ≤ 255) ∧
    (∀ e, typeData t = .error e →
      ∃ s ∈ t.nodes, 255 < s.args.length ∧ e = .tooManyTypeArguments s.raw s.args.length) ∧
    ∀ code, typeData t = .ok code →
      code.Builds t ∧
      ∀ (b : ClassBody) (bytes : Bytes), b.encode = .ok bytes →
        (b.WellFormed → ∃ b', ClassBody.decode bytes = .ok b') ∧
        ∀ b', ClassBody.decode bytes = .ok b' →
          ∀ (i : Nat) (method : MethodDef) (before after : Code),
            b.methods[i]? = some method → method.code = before ++ code ++ after →
            ∃ (method' : MethodDef) (code' : Code), b'.methods[i]? = some method' ∧
              method'.code = before ++ code' ++ after ∧ code'.Builds t := by
  refine ⟨typeData_ok_iff, fun e he => (typeData_blames t).of_error he, ?_⟩
  intro code hcode
  have hbuilds := typeData_builds hcode
  refine ⟨hbuilds, fun b bytes hencode => ⟨fun hformed => ?_, ?_⟩⟩
  · exact ⟨b, (ClassBody.decode_of_encode hencode).1 hformed⟩
  · intro b' hdecode i method before after hmethod hsplit
    have hsame := ClassBody.eq_of_encode hencode hdecode
    subst hsame
    exact ⟨method, code, hmethod, hsplit, hbuilds⟩

/-- A class with one method, which answers what the code pushes. -/
def describing (code : Code) : ClassBody where
  name := "app.Describing"
  kind := .propertyModel
  methods := [.ofCode "typeData" "()Lcritter/mapping/TypeData;" AccessFlag.isPublic
    (code ++ [.returnValue])]

/-- A map from arrays of bounded lists to arrays of a variable, built by a method that was written
and read back. -/
theorem typeData_roundTrip_map :
    let shapes : TypeTree := { TypeTree.ofClass "app.Shape" with bound := .upper }
    let lists : TypeTree := { TypeTree.ofClass "java.util.List" with args := [shapes], dims := 1 }
    let arrays : TypeTree := { TypeTree.ofVariable "T" with dims := 2 }
    let t : TypeTree := { TypeTree.ofClass "java.util.Map" with args := [lists, arrays] }
    let code : Code :=
      [.newType .classType "app.Shape" .upper 0 0, .newType .classType "java.util.List" .exact 1 1,
        .newType .variable "T" .exact 2 0, .newType .classType "java.util.Map" .exact 0 2]
    typeData t = .ok code ∧
    ∃ (bytes : Bytes) (b' : ClassBody) (method' : MethodDef) (code' : Code),
      (describing code).encode = .ok bytes ∧ ClassBody.decode bytes = .ok b' ∧
      b'.methods[0]? = some method' ∧ method'.code = [] ++ code' ++ [.returnValue] ∧
      code'.Builds t := by
  intro shapes lists arrays t code
  have hcode : typeData t = .ok code := rfl
  obtain ⟨bytes, hbytes⟩ :=
    ClassBody.encode_of_limited (b := describing code) (by decide +kernel)
  obtain ⟨hread, hmethods⟩ := ((typeData_roundTrip t).2.2 code hcode).2 _ bytes hbytes
  obtain ⟨b', hb'⟩ := hread (by decide +kernel)
  obtain ⟨method', code', hmethod, hsplit, hbuilds⟩ :=
    hmethods b' hb' 0 _ [] [.returnValue] rfl rfl
  exact ⟨hcode, bytes, b', method', code', hbytes, hb', hmethod, hsplit, hbuilds⟩

end Code

end EntityForge
