import EntityForge.Number.Shortest
import EntityForge.Text.Quoted

/-!
Literals of compiled code: field initializers and pooled values. Booleans, bytes, characters and
shorts travel as `int`.
-/

namespace EntityForge

open Number

/-- A literal. Equality is equality of kind and bits. -/
inductive Constant where
  | int (value : Int32)
  | long (value : Int64)
  | float (value : Binary32)
  | double (value : Binary64)
  | text (value : String)
  deriving DecidableEq, Hashable, Inhabited

namespace Constant

/-- Equality by number for floating-point literals. -/
def same : Constant → Constant → Bool
  | float a, float b => a.numEq b
  | double a, double b => a.numEq b
  | a, b => a = b

/-- The literal behind the name of its kind. -/
def display : Constant → String
  | int v => s!"int {v.toInt}"
  | long v => s!"long {v.toInt}"
  | float v => s!"float {v.toText}"
  | double v => s!"double {v.toText}"
  | text v => s!"utf8 {Text.quote v}"

end Constant

end EntityForge
