import ElementMarkup.Compiler
import ElementMarkup.Composition
import ElementMarkup.Defaults
import ElementMarkup.Fragments
import ElementMarkup.Loader
import ElementMarkup.Markup.Parser
import ElementMarkup.TemplateName
import ElementMarkup.Token.Lexer

/-!
# Environments

An environment holds the options of a compilation and the loader of further templates. It takes the
fragments and interpolations of a template through all stages: the markup text, the tree with all
templates that it includes or extends, the composition, and the call tree.
-/

namespace ElementMarkup

/-- One or more identifiers joined by dots. -/
def isDottedName (name : String) : Bool :=
  (Text.splitOn '.' name.toList).all Text.isIdentifier

/-- The options of a compilation. -/
structure Environment where
  loader : Option Loader
  files : FileTree
  factory : String
  propertyNames : Entries String
  strict : Bool
  maxDepth : Nat
  max_depth_pos : 0 < maxDepth
  factory_dotted : isDottedName factory = true

/-- A template of the host language: its strings and the values between them. Something that lacks
one of the two is no template. -/
structure HostTemplate (α : Type) where
  strings : Option (List String)
  values : Option (List α)

namespace Environment

/-- The environment with the given options, if they are valid. -/
def make (loader : Option Loader) (files : FileTree) (factory : String)
    (propertyNames : Entries String) (strict : Bool) (maxDepth : Int) :
    Except Fault Environment :=
  if hdepth : 0 < maxDepth.toNat then
    if hfactory : isDottedName factory = true then
      .ok ⟨loader, files, factory, propertyNames, strict, maxDepth.toNat, hdepth, hfactory⟩
    else .error (.invalidFactory factory)
  else .error (.invalidDepth maxDepth)

/-- The environment with default options and without a loader. -/
def default : Environment :=
  ⟨none, .empty, Defaults.factory, Defaults.propertyNames, false, Defaults.maxDepth, by decide,
    by decide +kernel⟩

/-- How trees are compiled in an environment. -/
def options (env : Environment) : Compiler.Options :=
  ⟨env.factory, env.propertyNames, env.strict, env.maxDepth⟩

/-- The source of a template from the loader, on behalf of the template `parent`. -/
def fetchFor (env : Environment) (parent : Option String) (target : String) :
    Except Fault TemplateSource :=
  match env.loader with
  | none => .error (.template (.notFound (.noLoaderFrom target parent)))
  | some loader => loader.fetch env.files target

/-- Loads a template for the template `parent` while those of `stack` are being loaded. The source
is parsed by `parseNext`; without it the templates are nested too deep. -/
def load (env : Environment) (stack : List String) (parent : Option String)
    (parseNext : Option (List String → Option String → String → Logged Markup)) (path : String) :
    Logged Markup := do
  let target := TemplateName.resolve path parent
  if stack.contains target then throw (.template (.circular (stack ++ [target])))
  match parseNext with
  | none => throw (.template (.tooDeep env.maxDepth (some target)))
  | some parseNext =>
    let source ← liftExcept (env.fetchFor parent target)
    report (.loading target source.file parent)
    parseNext (stack ++ [target]) (some target) source.text

/-- The tree of a source, given how the templates that it names are loaded. -/
def parseSource (name : Option String) (load : String → Logged Markup) (source : String) :
    Logged Markup := do
  let tokens ← liftExcept (Token.ofSource source name)
  Parser.parse ⟨name, some source, fun path _ => load path⟩ tokens

/-- The tree of a source while the templates of `stack`, itself included, are being loaded. Up to
`room` more templates may be loaded inside each other. -/
def parseWithin (env : Environment) : Nat → List String → Option String → String → Logged Markup
  | 0, stack, name, source => parseSource name (env.load stack name none) source
  | room + 1, stack, name, source =>
    parseSource name (env.load stack name (some (env.parseWithin room))) source

/-- The tree of the source of a template that may have a name. -/
def parse (env : Environment) (source : String) (name : Option String) : Logged Markup :=
  env.parseWithin (env.maxDepth - name.toList.length) name.toList name source

variable {ι : Type}

/-- The call tree of a composition, and the interpolations that are left. -/
def compileComposition (env : Environment) (composition : Composition)
    (interpolations : List (CallTree ι)) : Logged (CallTree ι × Cursor (CallTree ι)) :=
  ExceptT.mk fun events =>
    let (result, w) :=
      (Compiler.compile env.options composition.lookup composition.root).run.run
        ⟨Cursor.ofList interpolations, events⟩
    (result.map fun tree => (tree, w.cursor), w.events)

/-- The call tree of a template given by its fragments and interpolations. -/
def compile (env : Environment) (fragments : List String) (interpolations : List (CallTree ι))
    (name : Option String) : Logged (CallTree ι) := do
  let source ← Fragments.encode fragments interpolations.length
  report (.encoded name fragments.length interpolations.length)
  let tree ← env.parse source name
  let composition ← Composition.ofNodes tree.topLevel
  let (result, cursor) ← env.compileComposition composition interpolations
  if !cursor.unconsumed.isEmpty then
    report (.interpolationsUnused name cursor.unconsumed)
  report (.compiled name cursor.consumed cursor.size)
  return result

/-- The call tree of a markup source without interpolations. -/
def fromString (env : Environment) (source : String) (name : Option String) :
    Logged (CallTree ι) :=
  env.compile [source] [] name

/-- The call tree of a template from the loader. -/
def getTemplate (env : Environment) (name : String) : Logged (CallTree ι) := do
  match env.loader with
  | none => throw (.template (.notFound (.noLoader name)))
  | some loader =>
    let source ← liftExcept (loader.fetch env.files name)
    env.compile [source.text] [] (some name)

/-- The call tree of a template of the host language. A fault names the caller. -/
def compileTemplate (env : Environment) (caller : String)
    (template : HostTemplate (CallTree ι)) : Logged (CallTree ι) :=
  match template.strings, template.values with
  | some strings, some values => env.compile strings values none
  | _, _ => throw (.notTemplate caller)

end Environment

end ElementMarkup
