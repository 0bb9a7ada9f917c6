/-!
The library classes that hold several values.
-/

namespace EntityForge.Container

def mapTypes : List String :=
  ["java.util.Map", "java.util.HashMap", "java.util.LinkedHashMap", "java.util.SortedMap",
   "java.util.TreeMap", "java.util.concurrent.ConcurrentHashMap"]

def setTypes : List String :=
  ["java.util.Set", "java.util.HashSet", "java.util.LinkedHashSet", "java.util.SortedSet",
   "java.util.TreeSet", "java.util.EnumSet"]

/-- The collection classes that are not sets. -/
def listTypes : List String :=
  ["java.lang.Iterable", "java.util.Collection", "java.util.List", "java.util.ArrayList",
   "java.util.LinkedList", "java.util.Vector", "java.util.Queue", "java.util.Deque"]

def isMap (name : String) : Bool := mapTypes.contains name

def isSet (name : String) : Bool := setTypes.contains name

/-- Whether a class is a collection; sets are. -/
def isCollection (name : String) : Bool := listTypes.contains name || isSet name

end EntityForge.Container
