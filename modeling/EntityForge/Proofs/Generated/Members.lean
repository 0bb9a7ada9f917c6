import EntityForge.Class.Code
import EntityForge.Generated.AccessorClass
import EntityForge.Generated.Members
import EntityForge.Proofs.Type.Erasure

/-!
The types that the descriptors of generated members denote, and the locals that their code gets.
-/

namespace EntityForge

namespace MethodType

/-- The type of a method without parameters that answers a class. -/
def answering (className : String) : MethodType := ⟨[], some (.ofClass className)⟩

theorem parse_plain : parse Construction.plain = .ok ⟨[], none⟩ :=
  parse_erased [] none (by decide) (by decide) (by decide)

theorem parse_fromConfig :
    parse Construction.fromConfig = .ok ⟨[.ofClass "critter.mapping.MappingConfig"], none⟩ :=
  parse_erased [.ofClass "critter.mapping.MappingConfig"] none (by decide) (by decide) (by decide)

theorem parse_get :
    parse AccessorMember.get.descriptor =
      .ok ⟨[.ofClass TypeTree.objectClass], some (.ofClass TypeTree.objectClass)⟩ :=
  parse_erased [.ofClass TypeTree.objectClass] (some (.ofClass TypeTree.objectClass)) (by decide)
    (by decide) (by decide)

theorem parse_set :
    parse AccessorMember.set.descriptor =
      .ok ⟨[.ofClass TypeTree.objectClass, .ofClass TypeTree.objectClass], none⟩ :=
  parse_erased [.ofClass TypeTree.objectClass, .ofClass TypeTree.objectClass] none (by decide)
    (by decide) (by decide)

/-- A descriptor without parameters, of which is known what it spells. -/
private theorem parse_spelled {s : String} {className : String}
    (hclass : (TypeTree.ofClass className).Denotable)
    (hs : "()" ++ (TypeTree.ofClass className).erasedDescriptor = s) :
    parse s = .ok (answering className) := hs ▸ parse_answering hclass

theorem parse_text (name : String) :
    parse (MethodRef.text name).descriptor = .ok (answering "java.lang.String") :=
  parse_spelled (s := "()Ljava/lang/String;") (by decide) (by decide)

theorem parse_list (name : String) :
    parse (MethodRef.list name).descriptor = .ok (answering "java.util.List") :=
  parse_spelled (s := "()Ljava/util/List;") (by decide) (by decide)

theorem parse_type (name : String) :
    parse (MethodRef.type name).descriptor = .ok (answering "critter.mapping.TypeData") :=
  parse_spelled (s := "()Lcritter/mapping/TypeData;") (by decide) (by decide)

theorem parse_bool (name : String) :
    parse (MethodRef.bool name).descriptor = .ok ⟨[], some (.ofPrimitive .boolean)⟩ :=
  parse_erased (s := "()Z") [] (some (.ofPrimitive .boolean)) (by decide) (by decide) (by decide)

theorem parse_accessor :
    parse PropertyQuery.accessor.descriptor = .ok (answering ClassName.accessor) :=
  parse_spelled (by decide) (by decide)

theorem parse_config :
    parse EntityQuery.config.descriptor = .ok (answering "critter.mapping.MappingConfig") :=
  parse_spelled (by decide) (by decide)

end MethodType

namespace Signature

private theorem parseType_spelled {t : TypeTree} {descriptor : String} (h : t.Denotable)
    (hdescriptor : t.erasedDescriptor = descriptor) : parseType descriptor = .ok t.erased :=
  hdescriptor ▸ parseType_erased h

theorem parseType_int : parseType "I" = .ok (.ofPrimitive .int) :=
  parseType_spelled (t := .ofPrimitive .int) (by decide) (by decide)

theorem parseType_list : parseType Descriptor.list = .ok (.ofClass "java.util.List") :=
  parseType_spelled (t := .ofClass "java.util.List") (by decide) (by decide)

theorem parseType_string : parseType Descriptor.string = .ok (.ofClass "java.lang.String") :=
  parseType_spelled (t := .ofClass "java.lang.String") (by decide) (by decide)

theorem parseType_config :
    parseType Descriptor.config = .ok (.ofClass "critter.mapping.MappingConfig") :=
  parseType_spelled (t := .ofClass "critter.mapping.MappingConfig") (by decide) (by decide)

theorem parseType_handle :
    parseType Descriptor.handle = .ok (.ofClass "critter.mapping.MemberHandle") :=
  parseType_spelled (t := .ofClass "critter.mapping.MemberHandle") (by decide) (by decide)

theorem parseType_accessor : parseType Descriptor.accessor = .ok (.ofClass ClassName.accessor) :=
  parseType_spelled (t := .ofClass ClassName.accessor) (by decide) (by decide)

end Signature

end EntityForge
