import ElementMarkup.Number.Binary64

/-!
# Scalars

The constants of the host language that attributes and literals may hold.
-/

namespace ElementMarkup

/-- A constant of the host language. -/
inductive Scalar where
  | text (value : String)
  | integer (value : Int)
  | float (value : Number.Binary64)
  | boolean (value : Bool)
  | null
  | bytes (value : List UInt8)
  deriving DecidableEq, Repr

/-- The kind of a scalar, as messages name it. -/
def Scalar.kind : Scalar → String
  | text _ => "str"
  | integer _ => "int"
  | float _ => "float"
  | boolean _ => "bool"
  | null => "NoneType"
  | bytes _ => "bytes"

end ElementMarkup
