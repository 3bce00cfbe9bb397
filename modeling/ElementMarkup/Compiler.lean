import ElementMarkup.CallTree
import ElementMarkup.Cursor
import ElementMarkup.Event
import ElementMarkup.Markup.Attributes
import ElementMarkup.Placeholder
import ElementMarkup.Text.Capital
import ElementMarkup.Text.Identifier

/-!
# Compiling trees

A markup tree becomes a call tree. Each placeholder is replaced by the interpolation with its
number, which is taken from the cursor and cannot be taken again. A named block gives way to its
override, if there is one. Nodes may nest only so deep, which also ends overrides that contain
themselves.
-/

namespace ElementMarkup.Compiler

/-- How trees are compiled. In strict mode a placeholder without an interpolation is a fault;
otherwise it is dropped. -/
structure Options where
  factory : String
  propertyNames : Entries String
  strict : Bool
  maxDepth : Int

/-- What a compilation works with: the interpolations that are left, and the events so far. -/
structure Workspace (ι : Type) where
  cursor : Cursor (CallTree ι)
  events : List Event

variable {ι : Type}

/-- Reports an event. -/
def note (event : Event) : Attempt (Workspace ι) Unit :=
  modify fun w => { w with events := w.events ++ [event] }

/-- The interpolation with the given number, if it is left. -/
def takeInterpolation (strict : Bool) (index : Nat) :
    Attempt (Workspace ι) (List (CallTree ι)) := do
  let w ← get
  match w.cursor.take index with
  | (some item, cursor) =>
    set { w with cursor }
    return [item]
  | (none, _) =>
    if strict then throw (.template (.unmatchedPlaceholder index w.cursor.size))
    note (.placeholderDropped index w.cursor.size)
    return []

/-- A literal text, unless it is empty. -/
def segment (cs : List Char) : List (CallTree ι) :=
  if cs.isEmpty then [] else [CallTree.text cs]

/-- The interpolations and the texts after them, for the marks of a text. -/
def spliceMarks (strict : Bool) :
    List (List Char × List Char) → Attempt (Workspace ι) (List (CallTree ι))
  | [] => return []
  | (digits, text) :: marks => do
    let index ← liftExcept (Placeholder.index digits)
    let item ← takeInterpolation strict index
    let more ← spliceMarks strict marks
    return item ++ segment text ++ more

/-- The texts and interpolations of a text with placeholders. A text without any is one literal,
even if it is empty. -/
def splice (strict : Bool) (value : String) : Attempt (Workspace ι) (List (CallTree ι)) := do
  let pieces := Placeholder.split value.toList
  if pieces.marks.isEmpty then return [.literal (.text value)]
  let more ← spliceMarks strict pieces.marks
  return segment pieces.head ++ more

/-- The value of a property. A text becomes the single part it consists of or the concatenation of
its parts. -/
def attributeValue (strict : Bool) : Scalar → Attempt (Workspace ι) (CallTree ι)
  | .text value => do
    match ← splice strict value with
    | [] => return .literal (.text "")
    | [part] => return part
    | parts => return .concat parts
  | value => return .literal value

/-- A key that cannot be written as a bare identifier. -/
def needsQuotes (key : String) : Bool :=
  !Text.isIdentifier key.toList

/-- The property for a merged attribute. -/
def property (strict : Bool) (entry : String × Scalar) :
    Attempt (Workspace ι) (Property (CallTree ι)) := do
  let value ← attributeValue strict entry.2
  return ⟨entry.1, value, needsQuotes entry.1⟩

/-- The properties of a tag, or the mark for none. -/
def properties (options : Options) (attributes : List Attribute) :
    Attempt (Workspace ι) (CallTree ι) := do
  let merged := Attribute.merge options.propertyNames attributes
  if merged.isEmpty then return .null
  return .props (← merged.mapM (property options.strict))

/-- The tag of an element. A name that starts with a capital letter refers to a component. -/
def tagTree (name : String) : CallTree ι :=
  match name.toList with
  | c :: _ => if Text.isCapital c then .reference name else .literal (.text name)
  | [] => .literal (.text name)

/-- The first item of a list of results. -/
def firstResult : CallTree ι → CallTree ι
  | .list (item :: _) => item
  | result => result

/-- The overrides of named blocks. -/
abbrev Lookup := String → Option (List Markup)

/-- Compiles a node, given how to compile the nodes inside it. -/
def compileStep (options : Options) (lookup : Lookup)
    (descend : Markup → Attempt (Workspace ι) (CallTree ι)) :
    Markup → Attempt (Workspace ι) (CallTree ι)
  | .block _ nodes => return .list (← nodes.mapM descend)
  | .namedBlock _ name nodes =>
    match lookup name with
    | some override => do
      note (.blockOverridden name)
      return .list (← override.mapM descend)
    | none => return .list (← nodes.mapM descend)
  | .text _ value => return .list (← splice options.strict value)
  | .tag _ name attributes _ children => do
    let props ← properties options attributes
    let items ← children.mapM descend
    return .call options.factory (tagTree name :: props :: CallTree.flatten items)
  | .included _ _ tree => descend tree
  | .extended _ _ tree => return firstResult (← descend tree)
  | .foreign _ kind => throw (.template (.unsupportedNode kind))

/-- Compiles a node that may hold `room` more levels of nodes. -/
def compileWithin (options : Options) (lookup : Lookup) :
    Nat → Markup → Attempt (Workspace ι) (CallTree ι)
  | 0 =>
    compileStep options lookup fun _ => throw (.template (.tooDeep options.maxDepth none))
  | room + 1 => compileStep options lookup (compileWithin options lookup room)

/-- Compiles a tree. -/
def compile (options : Options) (lookup : Lookup) (tree : Markup) :
    Attempt (Workspace ι) (CallTree ι) :=
  compileWithin options lookup options.maxDepth.toNat tree

end ElementMarkup.Compiler
