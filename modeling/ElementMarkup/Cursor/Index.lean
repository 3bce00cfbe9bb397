import ElementMarkup.Cursor
import ElementMarkup.Fault

/-!
# Numbers of items

The number that a scalar gives for an item of a cursor.
-/

namespace ElementMarkup.Cursor

variable {α : Type}

/-- The number of an item that a scalar gives. A truth value counts as one or zero. A number that
may have a fraction is compared with the numbers of the items: beyond them it names no item, and
among them it is of the wrong kind. -/
def index (c : Cursor α) : Scalar → Except Fault Int
  | .integer i => .ok i
  | .boolean b => .ok (if b then 1 else 0)
  | .float x => if x.isWithin c.size then .error (.wrongKind (.notIndex "float")) else .ok (-1)
  | value => .error (.wrongKind (.notOrdered "<=" "int" value.kind))

end ElementMarkup.Cursor
