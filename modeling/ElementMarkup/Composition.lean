import ElementMarkup.Entries
import ElementMarkup.Event
import ElementMarkup.Markup

/-!
# Composition

A template that extends another one consists of the parent's root and of named blocks that replace
those of the parent. Parents may extend further templates; the blocks of the most derived one win.
-/

namespace ElementMarkup

/-- The root of a composed template, and the content of the blocks that are replaced. -/
structure Composition where
  root : Markup
  overrides : Entries (List Markup)

namespace Composition

/-- The content that replaces a block. -/
def lookup (c : Composition) (name : String) : Option (List Markup) :=
  c.overrides.get? name

/-- The place of a node that stands on a known line. -/
def knownLine (node : Markup) : Option Int :=
  if node.position.line = 0 then none else some node.position.line

/-- The blocks that follow an extends line for a template of the given path. Nothing else may
follow it; the message says on which line it does, so that it has to have a place. -/
def collectOverrides (path : Option String) :
    Entries (List Markup) → List Markup → Except Fault (Entries (List Markup))
  | overrides, [] => .ok overrides
  | overrides, .namedBlock _ name nodes :: siblings =>
    collectOverrides path (overrides.put name nodes) siblings
  | _, .foreign none kind :: _ => .error (.wrongKind (.noMember kind "lineno"))
  | _, sibling :: _ =>
    .error (.template (.badSyntax .lexing
      { problem := .contentAfterExtends sibling.kind, line := knownLine sibling, name := path }))

/-- The composition of a parent template, given the path that it was extended by and the nodes that
follow the extends line. The parent's own overrides count where the derived template has none. -/
def ofParent (path : Option String) (siblings : List Markup) : Markup → Except Fault Composition
  | .extended _ grandPath grandParent => do
    let overrides ← collectOverrides path [] siblings
    let inherited ← ofParent grandPath [] grandParent
    return ⟨inherited.root, inherited.overrides.putAll overrides⟩
  | .block _ (.extended _ grandPath grandParent :: more) => do
    let overrides ← collectOverrides path [] siblings
    let inherited ← ofParent grandPath more grandParent
    return ⟨inherited.root, inherited.overrides.putAll overrides⟩
  | .block _ [] => do
    let _ ← collectOverrides path [] siblings
    .error (.template (.emptyParent path))
  | .block _ (first :: _) => return ⟨first, ← collectOverrides path [] siblings⟩
  | node => return ⟨node, ← collectOverrides path [] siblings⟩

/-- The composition of a template with the given nodes at its top. -/
def ofNodes : List Markup → Logged Composition
  | [] => throw (.template .noContent)
  | .extended _ path parent :: siblings => do
    let composition ← liftExcept (ofParent path siblings parent)
    report (.resolvedExtends path composition.overrides.keys)
    return composition
  | [root] => return ⟨root, []⟩
  | nodes => throw (.template (.multipleRoots nodes.length))

end Composition

end ElementMarkup
