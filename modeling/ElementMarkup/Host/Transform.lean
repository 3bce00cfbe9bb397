import ElementMarkup.Environment
import ElementMarkup.Host.Language
import ElementMarkup.Host.Lowering

/-!
# Compiling the templates of a program

A call of the template tag with one string or format string stands for a template: the literal
parts are its fragments and the fields its interpolations. Such calls are replaced by the
expressions that their templates compile to, from the inside out.
-/

namespace ElementMarkup.Host

/-- The interpolation that a field stands for: its bare value, or a format string of its own if the
field formats the value. -/
def fieldInterpolation (value : Expr) (conversion : Int) (spec : Option Expr) : Expr :=
  match conversion, spec with
  | -1, none => value
  | conversion, spec => .formatString [.field value conversion spec]

/-- What an expression that is neither a constant nor a field lacks to be a field: a value, or for
want of nothing else a conversion. -/
def lackingMember : Expr → String
  | .member _ _ => "conversion"
  | .subscript _ _ => "conversion"
  | _ => "value"

/-- The fragments and interpolations of the parts of a format string, given the fragment that is
being read. Adjacent texts belong to one fragment. Nothing but texts and fields can be split. -/
def splitParts (fragment : String) : List Expr → Except Fault (List String × List Expr)
  | [] => .ok ([fragment], [])
  | .field value conversion spec :: parts => do
    let (fragments, interpolations) ← splitParts "" parts
    return (fragment :: fragments, fieldInterpolation value conversion spec :: interpolations)
  | .constant (.text s) :: parts => splitParts (fragment ++ s) parts
  | .constant value :: _ => .error (.wrongKind (.notText value.kind))
  | part :: _ => .error (.wrongKind (.noMember part.kind (lackingMember part)))

/-- The fragments and interpolations of a string or a format string. -/
def splitTemplate : Expr → Except Fault (Option (List String × List Expr))
  | .constant (.text s) => .ok (some ([s], []))
  | .formatString parts => return some (← splitParts "" parts)
  | _ => .ok none

/-- The line and the template of a call of the template tag. -/
def templateCall? (tag : String) : Expr → Except Fault (Option (Nat × List String × List Expr))
  | .call line (.name id) [argument] [] [] =>
    if id = tag then return (← splitTemplate argument).map fun template => (line, template)
    else .ok none
  | _ => .ok none

/-- The number of templates that have been compiled, and the events so far. -/
structure Progress where
  count : Nat
  events : List Event

/-- A computation that only reports events, as a part of one that also counts. -/
def liftLogged {α : Type} (action : Logged α) : Attempt Progress α :=
  ExceptT.mk fun p =>
    let (result, events) := action.run.run p.events
    (result, { p with events })

/-- The result of a computation that counts, with the count. -/
def countTemplates {α : Type} (action : Attempt Progress α) : Logged (α × Nat) :=
  ExceptT.mk fun events =>
    let (result, p) := action.run.run ⟨0, events⟩
    (result.map fun a => (a, p.count), p.events)

/-- What an environment is asked to compile: templates behind the given tag. -/
structure Transformer where
  env : Environment
  tag : String

/-- The expression that a call of the template tag stands for; any other expression stands for
itself. -/
def expand (t : Transformer) (e : Expr) : Attempt Progress Expr := do
  match ← liftExcept (templateCall? t.tag e) with
  | none => return e
  | some (line, fragments, interpolations) =>
    liftLogged (report (.compilingCall t.tag line))
    let values := interpolations.map fun e => CallTree.interpolation (Value.expression e)
    let tree ← liftLogged (t.env.compile fragments values none)
    modify fun p => { p with count := p.count + 1 }
    liftExcept (lower tree)

mutual

/-- The expression with the templates in it compiled, from the inside out and from left to right. -/
def transform (t : Transformer) : Expr → Attempt Progress Expr
  | .name id => return .name id
  | .member value attr => return .member (← transform t value) attr
  | .constant value => return .constant value
  | .call line function arguments keywords keywordValues => do
    let function ← transform t function
    let arguments ← transformAll t arguments
    let keywordValues ← transformAll t keywordValues
    expand t (.call line function arguments keywords keywordValues)
  | .formatString parts => return .formatString (← transformAll t parts)
  | .field value conversion spec => do
    let value ← transform t value
    return .field value conversion (← transformSpec t spec)
  | .list items => return .list (← transformAll t items)
  | .tuple items => return .tuple (← transformAll t items)
  | .dict keys values => do
    let keys ← transformAll t keys
    return .dict keys (← transformAll t values)
  | .subscript value index => do
    let value ← transform t value
    return .subscript value (← transform t index)
  | .binary left op right => do
    let left ← transform t left
    return .binary left op (← transform t right)
  | .negate operand => return .negate (← transform t operand)
  | .conditional test body orElse => do
    let test ← transform t test
    let body ← transform t body
    return .conditional test body (← transform t orElse)
  | .comprehension item target source => do
    let item ← transform t item
    let target ← transform t target
    return .comprehension item target (← transform t source)
  | .other form parts => return .other form (← transformAll t parts)

/-- Expressions with the templates in them compiled, in order. -/
def transformAll (t : Transformer) : List Expr → Attempt Progress (List Expr)
  | [] => return []
  | e :: es => do
    let e ← transform t e
    return e :: (← transformAll t es)

/-- The specification of a field with the templates in it compiled. -/
def transformSpec (t : Transformer) : Option Expr → Attempt Progress (Option Expr)
  | none => return none
  | some spec => return some (← transform t spec)

end

mutual

/-- A statement with the templates in it compiled. -/
def transformStatement (t : Transformer) : Statement → Attempt Progress Statement
  | .assign targets value => do
    let targets ← transformAll t targets
    return .assign targets (← transform t value)
  | .expression value => return .expression (← transform t value)
  | .define name parameters body => return .define name parameters (← transformBody t body)
  | .giveBack value => return .giveBack (← transformSpec t value)
  | .other form parts body => do
    let parts ← transformAll t parts
    return .other form parts (← transformBody t body)

/-- Statements with the templates in them compiled, in order. -/
def transformBody (t : Transformer) : List Statement → Attempt Progress (List Statement)
  | [] => return []
  | s :: statements => do
    let s ← transformStatement t s
    return s :: (← transformBody t statements)

end

/-- The tag that marks the templates of a program. -/
def templateTag : String := "pug"

/-- The source of the program in the given file with its templates compiled. -/
def Language.transformSource (host : Language) (env : Environment) (file : String)
    (source : String) : Logged String := do
  let program ← liftExcept ((host.read source).mapError (Fault.hostSyntax file))
  let (statements, count) ← countTemplates (transformBody ⟨env, templateTag⟩ program.statements)
  report (.transformed count file)
  liftExcept (host.write ⟨statements⟩)

/-- The source of a program of the language at hand with its templates compiled. -/
def transformSource (env : Environment) (file : String) (source : String) : Logged String :=
  Language.core.transformSource env file source

end ElementMarkup.Host
