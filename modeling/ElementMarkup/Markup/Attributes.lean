import ElementMarkup.Entries
import ElementMarkup.Markup

/-!
# Merging attributes

A tag may give an attribute several times, also under names that stand for the same property.
Texts are then joined with a space; any other value replaces what was there.
-/

namespace ElementMarkup.Attribute

/-- The name of the property that an attribute sets. -/
def propertyName (propertyNames : Entries String) (name : String) : String :=
  (propertyNames.get? name).getD name

/-- A value after another one for the same property. -/
def combine (previous : Option Scalar) (value : Scalar) : Scalar :=
  match previous, value with
  | some (.text a), .text b => .text (a ++ " " ++ b)
  | _, value => value

/-- The properties with one more attribute. -/
def mergeOne (propertyNames : Entries String) (merged : Entries Scalar) (a : Attribute) :
    Entries Scalar :=
  let key := propertyName propertyNames a.name
  merged.put key (combine (merged.get? key) a.value)

/-- The properties that a tag's attributes set, from left to right. -/
def merge (propertyNames : Entries String) (attributes : List Attribute) : Entries Scalar :=
  attributes.foldl (mergeOne propertyNames) []

end ElementMarkup.Attribute
