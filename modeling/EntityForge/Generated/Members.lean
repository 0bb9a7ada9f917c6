import EntityForge.Entity.Descriptor
import EntityForge.Failure

/-!
The classes and members through which generated classes are used: what an accessor, a property model
and an entity model must implement.
-/

namespace EntityForge

/-! Names of classes that generated code refers to. -/

namespace ClassName

def object : String := TypeTree.objectClass
def accessor : String := Failure.accessorInterface
def propertyModel : String := "critter.mapping.PropertyModel"
def entityModel : String := "critter.mapping.EntityModel"

end ClassName

/-! Descriptors of the fields of generated classes. -/

namespace Descriptor

def list : String := "Ljava/util/List;"
def object : String := "Ljava/lang/Object;"
def string : String := "Ljava/lang/String;"
def config : String := "Lcritter/mapping/MappingConfig;"
def handle : String := "Lcritter/mapping/MemberHandle;"
def accessor : String := "Lcritter/mapping/PropertyAccessor;"

end Descriptor

/-! Construction. -/

namespace Construction

def name : String := "<init>"

/-- The descriptor of the constructor without arguments. -/
def plain : String := "()V"

/-- The descriptor of the constructor of entity models. -/
def fromConfig : String := "(Lcritter/mapping/MappingConfig;)V"

end Construction

/-- The field in which a model keeps its annotations. -/
def annotationsField : String := "annotations"

namespace AccessorMember

def get : MethodRef := ⟨"get", "(Ljava/lang/Object;)Ljava/lang/Object;"⟩
def set : MethodRef := ⟨"set", "(Ljava/lang/Object;Ljava/lang/Object;)V"⟩

end AccessorMember

/-! Descriptors of queries by what they answer. -/

namespace MethodRef

def text (name : String) : MethodRef := ⟨name, "()Ljava/lang/String;"⟩

def list (name : String) : MethodRef := ⟨name, "()Ljava/util/List;"⟩

def type (name : String) : MethodRef := ⟨name, "()Lcritter/mapping/TypeData;"⟩

def bool (name : String) : MethodRef := ⟨name, "()Z"⟩

end MethodRef

/-! The queries of property models, and the field that holds the accessor. -/

namespace PropertyQuery

def name : MethodRef := .text "getName"
def fullName : MethodRef := .text "getFullName"
def mappedName : MethodRef := .text "getMappedName"
def loadNames : MethodRef := .list "getLoadNames"
def typeData : MethodRef := .type "getTypeData"
def isArray : MethodRef := .bool "isArray"
def isMap : MethodRef := .bool "isMap"
def isSet : MethodRef := .bool "isSet"
def isCollection : MethodRef := .bool "isCollection"
def isFinal : MethodRef := .bool "isFinal"
def isTransient : MethodRef := .bool "isTransient"
def isReference : MethodRef := .bool "isReference"
def isId : MethodRef := .bool "isId"
def isVersion : MethodRef := .bool "isVersion"
def accessor : MethodRef := ⟨"getAccessor", "()Lcritter/mapping/PropertyAccessor;"⟩
def annotations : MethodRef := .list "getAnnotations"

def accessorField : String := "accessor"

end PropertyQuery

/-! The queries of entity models, and the fields that hold what was computed once. -/

namespace EntityQuery

def name : MethodRef := .text "getName"
def simpleName : MethodRef := .text "getSimpleName"
def collectionName : MethodRef := .text "getCollectionName"
def discriminator : MethodRef := .text "getDiscriminator"
def discriminatorKey : MethodRef := .text "getDiscriminatorKey"
def useDiscriminator : MethodRef := .bool "isUseDiscriminator"
def isAbstract : MethodRef := .bool "isAbstract"
def isInterface : MethodRef := .bool "isInterface"
def isEmbedded : MethodRef := .bool "isEmbedded"
def type : MethodRef := .type "getType"
def properties : MethodRef := .list "getProperties"
def annotations : MethodRef := .list "getAnnotations"
def config : MethodRef := ⟨"getConfig", "()Lcritter/mapping/MappingConfig;"⟩

def configField : String := "config"
def collectionNameField : String := "collectionName"
def discriminatorField : String := "discriminator"
def discriminatorKeyField : String := "discriminatorKey"
def propertiesField : String := "properties"

end EntityQuery

end EntityForge
