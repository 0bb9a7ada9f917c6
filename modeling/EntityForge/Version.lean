/-!
The version of the library.
-/

namespace EntityForge

def version : String := "0.4.0"

end EntityForge
