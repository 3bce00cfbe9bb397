import ElementMarkup.Environment
import ElementMarkup.Proofs.Print.Syntax
import Mathlib.Data.List.Infix

/-!
# Templates with holes

A template of the host language is a tree of tags and texts in which items of the host stand. It is
written one node a line, as markup is, and cut at its holes into fragments. `meaning` is the call
tree that such a template stands for, told without regard to how it is written.
-/

namespace ElementMarkup

/-- A part of a text: an item of the host in a hole, or literal text. -/
inductive Part (ι : Type) where
  | hole (item : CallTree ι)
  | literal (value : String)

/-- The value of an attribute in a template. -/
inductive Setting (ι : Type) where
  | integer (value : Int)
  | boolean (value : Bool)
  | parts (parts : List (Part ι))

/-- A node of a template. -/
inductive Template (ι : Type) where
  | tag (name : String) (settings : List (String × Setting ι)) (children : List (Template ι))
  | text (parts : List (Part ι))

namespace Template

variable {ι : Type}

/-! ## Writing -/

/-- A piece of a written template: a character, or the hole of an item. -/
inductive Symbol (ι : Type) where
  | char (c : Char)
  | hole (item : CallTree ι)

/-- Characters as symbols. -/
def chars (cs : List Char) : List (Symbol ι) :=
  cs.map .char

/-- A part as it is written. -/
def partSymbols : Part ι → List (Symbol ι)
  | .hole item => [.hole item]
  | .literal value => chars value.toList

/-- A text as it is written. -/
def partsSymbols (parts : List (Part ι)) : List (Symbol ι) :=
  parts.flatMap partSymbols

/-- Symbols with a backslash in front of each backslash and double quote. -/
def escape : List (Symbol ι) → List (Symbol ι)
  | [] => []
  | .char c :: symbols =>
    if c = '\\' ∨ c = '"' then .char '\\' :: .char c :: escape symbols
    else .char c :: escape symbols
  | .hole item :: symbols => .hole item :: escape symbols

/-- The value of an attribute as it is written. -/
def settingSymbols : Setting ι → List (Symbol ι)
  | .integer value => chars (Placeholder.decimal value)
  | .boolean value => chars (if value then "true" else "false").toList
  | .parts parts => .char '"' :: escape (partsSymbols parts) ++ [.char '"']

/-- An attribute as it is written. -/
def pairSymbols (pair : String × Setting ι) : List (Symbol ι) :=
  chars pair.1.toList ++ .char '=' :: settingSymbols pair.2

/-- A tag without its children as it is written. -/
def headSymbols (name : String) (settings : List (String × Setting ι)) : List (Symbol ι) :=
  chars name.toList ++ .char '(' ::
    [.char ',', .char ' '].intercalate (settings.map pairSymbols) ++ [.char ')']

/-- A line at a level of indentation, two spaces for each level. -/
def indented (level : Nat) (content : List (Symbol ι)) : List (Symbol ι) :=
  chars (List.replicate (2 * level) ' ') ++ content

mutual

/-- The lines of a node at a level of indentation. -/
def lines (level : Nat) : Template ι → List (List (Symbol ι))
  | tag name settings children =>
    indented level (headSymbols name settings) :: linesOf (level + 1) children
  | text parts => [indented level (.char '|' :: .char ' ' :: partsSymbols parts)]

/-- The lines of several nodes at a level of indentation. -/
def linesOf (level : Nat) : List (Template ι) → List (List (Symbol ι))
  | [] => []
  | node :: nodes => lines level node ++ linesOf level nodes

end

/-- The written template. -/
def symbols (t : Template ι) : List (Symbol ι) :=
  [.char '\n'].intercalate (lines 0 t)

/-- The texts between the holes. -/
def cut : List (Symbol ι) → List (List Char)
  | [] => [[]]
  | .char c :: symbols => (cut symbols).modifyHead (c :: ·)
  | .hole _ :: symbols => [] :: cut symbols

/-- The items in the holes, in order. -/
def itemsIn (symbols : List (Symbol ι)) : List (CallTree ι) :=
  symbols.filterMap fun
    | .char _ => none
    | .hole item => some item

/-- The fragments of a template: the written template cut at its holes. -/
def fragments (t : Template ι) : List String :=
  (cut t.symbols).map String.ofList

/-- The interpolations of a template: the items in its holes, in the order in which they are
written. -/
def interpolations (t : Template ι) : List (CallTree ι) :=
  itemsIn t.symbols

/-! ## Meaning -/

/-- The call tree of a part. -/
def partTree : Part ι → CallTree ι
  | .hole item => item
  | .literal value => .literal (.text value)

/-- The children that a text stands for. A text without parts is the empty text. -/
def partTrees (parts : List (Part ι)) : List (CallTree ι) :=
  if parts.isEmpty then [.literal (.text "")] else parts.map partTree

/-- The value of a property: a number, a truth value, a single part, or the parts joined. -/
def settingTree : Setting ι → CallTree ι
  | .integer value => .literal (.integer value)
  | .boolean value => .literal (.boolean value)
  | .parts [] => .literal (.text "")
  | .parts [part] => partTree part
  | .parts parts => .concat (parts.map partTree)

/-- The property that an attribute sets. -/
def property (propertyNames : Entries String) (pair : String × Setting ι) :
    Property (CallTree ι) :=
  let key := Attribute.propertyName propertyNames pair.1
  ⟨key, settingTree pair.2, Compiler.needsQuotes key⟩

/-- The properties of a tag, or the mark for none. -/
def properties (propertyNames : Entries String) (settings : List (String × Setting ι)) :
    CallTree ι :=
  if settings.isEmpty then .null else .props (settings.map (property propertyNames))

mutual

/-- The children that a node stands for. -/
def items (factory : String) (propertyNames : Entries String) : Template ι → List (CallTree ι)
  | tag name settings children =>
    [.call factory (Compiler.tagTree name :: properties propertyNames settings ::
      itemsOf factory propertyNames children)]
  | text parts => partTrees parts

/-- The children that several nodes stand for. -/
def itemsOf (factory : String) (propertyNames : Entries String) :
    List (Template ι) → List (CallTree ι)
  | [] => []
  | node :: nodes => items factory propertyNames node ++ itemsOf factory propertyNames nodes

end

/-- The call tree that a node stands for. The children of a text stand in a list. -/
def meaning (factory : String) (propertyNames : Entries String) : Template ι → CallTree ι
  | tag name settings children =>
    .call factory (Compiler.tagTree name :: properties propertyNames settings ::
      itemsOf factory propertyNames children)
  | text parts => .list (partTrees parts)

/-! ## Well-formed templates -/

/-- An item that is not a list, and so is one child. -/
def isSingle : CallTree ι → Bool
  | .list _ => false
  | _ => true

/-- A literal text that is not empty, fits on a line and has no start of a mark in it. -/
def isLiteral (cs : List Char) : Bool :=
  !cs.isEmpty && Print.isLineText cs && !decide (['/', '~'] <:+: cs)

/-- The parts do not start with a literal text. -/
def opensWithHole : List (Part ι) → Bool
  | .literal _ :: _ => false
  | _ => true

/-- The parts of a text, with no two literal texts next to each other. -/
def areParts : List (Part ι) → Bool
  | [] => true
  | .hole item :: parts => isSingle item && areParts parts
  | .literal value :: parts =>
    isLiteral value.toList && opensWithHole parts && areParts parts

/-- The value of an attribute that can be written. -/
def isSetting : Setting ι → Bool
  | .integer value => Print.isValue (.integer value)
  | .boolean _ => true
  | .parts parts => areParts parts

/-- An attribute that can be written. -/
def isPair (pair : String × Setting ι) : Bool :=
  Print.isAttributeName pair.1.toList && isSetting pair.2

/-- The attributes of a tag set different properties. -/
def areDistinct (propertyNames : Entries String) (settings : List (String × Setting ι)) : Bool :=
  decide (settings.map fun pair => Attribute.propertyName propertyNames pair.1).Nodup

mutual

/-- A template that can be written and of which each attribute has a property of its own. -/
def isWellFormed (propertyNames : Entries String) : Template ι → Bool
  | tag name settings children =>
    Print.isTagName name.toList && settings.all isPair && areDistinct propertyNames settings &&
      areWellFormed propertyNames children
  | text parts => areParts parts

/-- All of the nodes are well-formed. -/
def areWellFormed (propertyNames : Entries String) : List (Template ι) → Bool
  | [] => true
  | node :: nodes => isWellFormed propertyNames node && areWellFormed propertyNames nodes

end

mutual

/-- How many levels of nodes stand below a node. -/
def height : Template ι → Nat
  | tag _ _ children => heightOf children
  | text _ => 0

/-- How many levels of nodes a list of nodes has. -/
def heightOf : List (Template ι) → Nat
  | [] => 0
  | node :: nodes => max (height node + 1) (heightOf nodes)

end

end Template

end ElementMarkup
