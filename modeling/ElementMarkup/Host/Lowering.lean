import ElementMarkup.CallTree
import ElementMarkup.Fault
import ElementMarkup.Host.Constant
import ElementMarkup.Host.Expr

/-!
# From call trees to expressions

A call tree whose interpolations are expressions or constants of the host language becomes an
expression. Anything else has no spelling there.
-/

namespace ElementMarkup.Host

/-- An interpolation as far as the host language can spell it. Anything else is known by its kind
only. -/
inductive Value where
  | expression (e : Expr)
  | scalar (value : Scalar)
  | other (kind : String)
  deriving Inhabited

/-- The kind of an interpolation, as messages name it. -/
def Value.kind : Value → String
  | expression e => e.kind
  | scalar value => value.kind
  | other kind => kind

/-- The expression for a name with dots. -/
def dottedName (name : String) : Expr :=
  match Text.splitOn '.' name.toList with
  | [] => .name ""
  | first :: members =>
    members.foldl (fun e member => .member e (String.ofList member)) (.name (String.ofList first))

/-- The expression for an interpolation. Bytes are no value of a template. -/
def lowerValue : Value → Except Fault Expr
  | .expression e => .ok e
  | .scalar (.bytes bs) => .error (.notLowerable (Scalar.bytes bs).kind)
  | .scalar value => .ok (.constant value)
  | .other kind => .error (.notLowerable kind)

mutual

/-- The expression for a call tree. -/
def lower : CallTree Value → Except Fault Expr
  | .call callee arguments => return .call 0 (dottedName callee) (← lowerAll arguments) [] []
  | .reference name => .ok (dottedName name)
  | .literal value => .ok (.constant value)
  | .null => .ok (.constant .null)
  | .concat parts => return .formatString (← lowerParts parts)
  | .props properties => do
    let values ← lowerProperties properties
    return .dict (properties.map fun p => .text p.key) values
  | .list items => return .list (← lowerAll items)
  | .interpolation value => lowerValue value

/-- The expressions for call trees, in order. -/
def lowerAll : List (CallTree Value) → Except Fault (List Expr)
  | [] => .ok []
  | tree :: trees => return (← lower tree) :: (← lowerAll trees)

/-- The parts of the format string for a concatenation: literals as text, and a field for each
other part. -/
def lowerParts : List (CallTree Value) → Except Fault (List Expr)
  | [] => .ok []
  | .literal value :: parts => return .text (formatted value) :: (← lowerParts parts)
  | part :: parts => return .field (← lower part) (-1) none :: (← lowerParts parts)

/-- The expressions for the values of properties, in order. -/
def lowerProperties : List (Property (CallTree Value)) → Except Fault (List Expr)
  | [] => .ok []
  | ⟨_, value, _⟩ :: properties => return (← lower value) :: (← lowerProperties properties)

end

end ElementMarkup.Host
