import ElementMarkup.Event
import ElementMarkup.Markup
import ElementMarkup.Text.Word

/-!
# Building trees from tokens

The tokens are read one by one. The state holds the lines whose indented content is still being
read, the nodes of the current level, and how far the current line has been read. Indented content
belongs to the innermost node of the line above it. Included and extended templates are loaded as
their lines are met.
-/

namespace ElementMarkup.Parser

/-- The context of a tree: the template's name and source for messages, and how to load another
template from a path that stands on a line. -/
structure Context where
  name : Option String
  source : Option String
  load : String → Int → Logged Markup

/-- The context of a template that cannot load others. -/
def Context.isolated (name source : Option String) : Context :=
  ⟨name, source, fun path line => throw (.template (.notFound (.noLoaderAtLine path name line)))⟩

/-- The fault for a problem at a place. -/
def Context.fault (context : Context) (problem : Problem) (position : Position) : Fault :=
  .template (.badSyntax .parsing
    { problem, line := some position.line, column := some position.column, name := context.name,
      source := context.source })

/-- A tag whose attributes are being read. -/
structure OpenTag where
  position : Position
  name : String
  attributes : List Attribute

/-- The tag with inline content. -/
def OpenTag.close (t : OpenTag) (inline : List Markup) : Markup :=
  .tag t.position t.name t.attributes (some ⟨t.position.line, 0⟩) inline

/-- A line whose indented content is being read: its nodes with the innermost first, and the nodes
before it on its level. -/
structure OpenLine where
  chain : List Markup
  before : List Markup

/-- How far the current line has been read. A chain holds the nodes of the line so far with the
innermost first. -/
inductive Phase where
  | lineStart
  | afterColon (chain : List Markup)
  | inTag (tag : OpenTag) (chain : List Markup)
  | afterDot (tag : OpenTag) (chain : List Markup)
  | afterTag (chain : List Markup)
  | lineEnd (chain : List Markup)
  | afterLine (chain : List Markup)

/-- The state of the construction: the lines that are open with the innermost first, the nodes of
the current level, and the phase of the current line. -/
structure State where
  openLines : List OpenLine
  nodes : List Markup
  phase : Phase

/-- The state before the first token. -/
def State.start : State :=
  ⟨[], [], .lineStart⟩

/-- A node with content added inside it. Only tags and named blocks can hold content. -/
def attach (context : Context) (node : Markup) (content : List Markup) : Except Fault Markup :=
  match content, node with
  | [], node => .ok node
  | content, .tag position name attributes _ children =>
    .ok (.tag position name attributes (some ⟨position.line, 0⟩) (children ++ content))
  | content, .namedBlock position name nodes => .ok (.namedBlock position name (nodes ++ content))
  | _, node =>
    .error (context.fault (.nestedContent node.kind) ⟨node.position.line + 1, 0⟩)

/-- The nodes of a line put inside each other, given the innermost one. -/
def nest (context : Context) (inner : Markup) : List Markup → Except Fault Markup
  | [] => .ok inner
  | outer :: chain => do
    let node ← attach context outer [inner]
    nest context node chain

/-- The node of a line whose indented content has been read. -/
def closeLine (context : Context) (chain content : List Markup) : Except Fault (List Markup) :=
  match chain with
  | [] => .ok []
  | inner :: outer => do
    let node ← attach context inner content
    return [← nest context node outer]

/-- A block name is one or more word characters or hyphens. -/
def isBlockName (name : List Char) : Bool :=
  !name.isEmpty && name.all Text.isWordOrHyphen

/-- The text node of a text token. -/
def textNode (position : Position) (value : String) : Markup :=
  .text position value

/-- The phase after the first token of an item of a line: a tag, a text or a directive. -/
def beginItem (context : Context) (nested : Bool) (chain : List Markup) (t : Token) :
    Logged Phase := do
  match t.lexeme with
  | .tagName name => return .inTag ⟨t.position, name, []⟩ chain
  | .text value => return .lineEnd (textNode t.position value :: chain)
  | .blockName (.text name) =>
    if isBlockName name.toList then return .lineEnd (.namedBlock t.position name [] :: chain)
    else throw (context.fault (.invalidBlockName name) t.position)
  | .blockName name => throw (.wrongKind (.notSearchable name.kind))
  | .extendsPath path =>
    if nested || !chain.isEmpty then throw (context.fault .extendsNotTopLevel t.position)
    let tree ← context.load path t.position.line
    return .lineEnd (.extended t.position (some path) tree :: chain)
  | .includePath path =>
    let tree ← context.load path t.position.line
    return .lineEnd (.included t.position (some path) tree :: chain)
  | lexeme => throw (context.fault (.unexpectedToken lexeme.kind) t.position)

/-- The state after a token that starts a line or ends the current level. -/
def beginLine (context : Context) (openLines : List OpenLine) (nodes : List Markup) (t : Token) :
    Logged State := do
  match t.lexeme, openLines with
  | .outdent _, [] => throw (context.fault .unexpectedDedent t.position)
  | .outdent _, line :: openLines =>
    let closed ← liftExcept (closeLine context line.chain nodes)
    return ⟨openLines, line.before ++ closed, .lineStart⟩
  | .endOfSource, _ :: _ => throw (context.fault .expectedDedent t.position)
  | .endOfSource, [] => return ⟨[], nodes, .lineStart⟩
  | .indent _, _ => throw (context.fault .unexpectedIndentation t.position)
  | .extendsPath _, _ =>
    if !nodes.isEmpty then throw (context.fault .extendsNotFirst t.position)
    return ⟨openLines, nodes, ← beginItem context (!openLines.isEmpty) [] t⟩
  | _, _ => return ⟨openLines, nodes, ← beginItem context (!openLines.isEmpty) [] t⟩

/-- The phase after the end of a line. -/
def endLine (context : Context) (chain : List Markup) (t : Token) : Except Fault Phase :=
  match t.lexeme with
  | .newline => .ok (.afterLine chain)
  | _ => .error (context.fault .expectedLineEnd t.position)

/-- The phase after a token that follows a complete tag. -/
def afterTag (context : Context) (chain : List Markup) (t : Token) : Except Fault Phase :=
  match t.lexeme with
  | .colon => .ok (.afterColon chain)
  | _ => endLine context chain t

/-- The phase after a token that follows the dot of a tag. -/
def afterDot (context : Context) (tag : OpenTag) (chain : List Markup) (t : Token) :
    Except Fault Phase :=
  match t.lexeme with
  | .text value => .ok (.afterTag (tag.close [textNode t.position value] :: chain))
  | _ => afterTag context (tag.close [] :: chain) t

/-- The phase after a token that follows a tag name or an attribute. -/
def inTag (context : Context) (tag : OpenTag) (chain : List Markup) (t : Token) :
    Except Fault Phase :=
  let withAttribute (name : String) (value : Scalar) : Except Fault Phase :=
    .ok (.inTag { tag with attributes := tag.attributes ++ [⟨name, value⟩] } chain)
  match t.lexeme with
  | .idName value => withAttribute "id" value
  | .className value => withAttribute "class" value
  | .attributePair name value => withAttribute name value
  | .dot => .ok (.afterDot tag chain)
  | _ => afterDot context tag chain t

/-- The state after one more token. -/
def step (context : Context) (state : State) (t : Token) : Logged State := do
  match state.phase with
  | .lineStart => beginLine context state.openLines state.nodes t
  | .afterColon chain =>
    return { state with phase := ← beginItem context (!state.openLines.isEmpty) chain t }
  | .inTag tag chain => return { state with phase := ← liftExcept (inTag context tag chain t) }
  | .afterDot tag chain =>
    return { state with phase := ← liftExcept (afterDot context tag chain t) }
  | .afterTag chain => return { state with phase := ← liftExcept (afterTag context chain t) }
  | .lineEnd chain => return { state with phase := ← liftExcept (endLine context chain t) }
  | .afterLine chain =>
    match t.lexeme with
    | .indent _ => return ⟨⟨chain, state.nodes⟩ :: state.openLines, [], .lineStart⟩
    | _ =>
      let closed ← liftExcept (closeLine context chain [])
      beginLine context state.openLines (state.nodes ++ closed) t

/-- The tokens up to the end of the source. If there is no end, the last token goes on for ever;
repeating it as often as there are tokens shows what comes of that. -/
def upToEnd (tokens : List Token) : List Token :=
  match tokens.find? Token.isEnd, tokens.getLast? with
  | some last, _ => tokens.takeWhile (fun t => !t.isEnd) ++ [last]
  | none, some last => tokens ++ List.replicate (tokens.length + 1) last
  | none, none => []

/-- The tree of a token list. -/
def parse (context : Context) (tokens : List Token) : Logged Markup := do
  if tokens.isEmpty then throw .noTokens
  let final ← (upToEnd tokens).foldlM (step context) .start
  return .block ⟨1, 0⟩ final.nodes

end ElementMarkup.Parser
