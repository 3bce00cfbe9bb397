import ElementMarkup.Fault.Missing
import ElementMarkup.Fault.Problem
import ElementMarkup.Snippet

/-!
# Template faults

The faults of a template itself, as opposed to those of its surroundings. Each has a code, a
message and a report: the message with the place, the source around it and advice.
-/

namespace ElementMarkup

/-- The codes by which faults can be looked up. -/
inductive FaultCode where
  | emptyTemplate
  | syntaxError
  | noParseResult
  | multipleRoots
  | unsupportedNode
  | unmatchedPlaceholder
  | depthExceeded
  | templateNotFound
  | circularTemplate
  deriving DecidableEq, Repr

namespace FaultCode

/-- All codes, in the order in which they are listed. -/
def all : List FaultCode :=
  [emptyTemplate, syntaxError, noParseResult, multipleRoots, unsupportedNode, unmatchedPlaceholder,
    depthExceeded, templateNotFound, circularTemplate]

/-- The name of a code. -/
def name : FaultCode → String
  | emptyTemplate => "EMPTY_TEMPLATE"
  | syntaxError => "SYNTAX_ERROR"
  | noParseResult => "NO_PARSE_RESULT"
  | multipleRoots => "MULTIPLE_ROOTS"
  | unsupportedNode => "UNSUPPORTED_NODE"
  | unmatchedPlaceholder => "UNMATCHED_PLACEHOLDER"
  | depthExceeded => "DEPTH_EXCEEDED"
  | templateNotFound => "TEMPLATE_NOT_FOUND"
  | circularTemplate => "CIRCULAR_TEMPLATE"

/-- The text of a code. -/
def text : FaultCode → String
  | emptyTemplate => "PT-ENC-001"
  | syntaxError => "PT-PAR-001"
  | noParseResult => "PT-PAR-002"
  | multipleRoots => "PT-CMP-001"
  | unsupportedNode => "PT-CMP-002"
  | unmatchedPlaceholder => "PT-CMP-003"
  | depthExceeded => "PT-CMP-004"
  | templateNotFound => "PT-TPL-001"
  | circularTemplate => "PT-TPL-002"

/-- The stage of compilation that a code belongs to. -/
def category : FaultCode → String
  | emptyTemplate => "encoder"
  | syntaxError => "parser"
  | noParseResult => "parser"
  | multipleRoots => "compiler"
  | unsupportedNode => "compiler"
  | unmatchedPlaceholder => "compiler"
  | depthExceeded => "compiler"
  | templateNotFound => "template"
  | circularTemplate => "template"

end FaultCode

/-- A problem with markup, and where it lies as far as that is known. -/
structure SyntaxFault where
  problem : Problem
  line : Option Int := none
  column : Option Int := none
  name : Option String := none
  source : Option String := none
  deriving DecidableEq, Repr

namespace SyntaxFault

/-- The name of the template, the line and the column. A line number of zero counts as unknown. -/
def location (f : SyntaxFault) : String :=
  match f.line with
  | some line =>
    if line = 0 then templateLabel f.name
    else
      templateLabel f.name ++ ":" ++ toString line ++
        (match f.column with
        | some column => ":" ++ toString column
        | none => "")
  | none => templateLabel f.name

/-- The source and the line number, if there is a source to show. -/
def shownSource? (f : SyntaxFault) : Option (String × Int) :=
  match f.source, f.line with
  | some source, some line => if source = "" ∨ line = 0 then none else some (source, line)
  | _, _ => none

/-- The line at fault with a caret below the column. -/
def quotedLine (f : SyntaxFault) : String :=
  match f.shownSource? with
  | none => ""
  | some (source, line) =>
    if line < 1 then ""
    else
      match (Text.displayLines source.toList)[line.toNat - 1]? with
      | none => ""
      | some content =>
        "\n   |\n" ++ Terminal.paddedNumber line ++ " | " ++ String.ofList content ++
          (match f.column with
          | some column => "\n   | " ++ Snippet.blanks column ++ "^"
          | none => "")

/-- The message, the place and the line at fault. -/
def message (f : SyntaxFault) : String :=
  "Syntax Error: " ++ f.problem.message ++ "\n  --> " ++ f.location ++ f.quotedLine

end SyntaxFault

/-- The stage that found a problem with markup. -/
inductive Stage where
  | lexing
  | parsing
  deriving DecidableEq, Repr

/-- A fault of a template. -/
inductive TemplateFault where
  | general (message : String)
  | emptyTemplate (message : String)
  | badSyntax (stage : Stage) (fault : SyntaxFault)
  | noParseResult (message : String)
  | multipleRoots (count : Int)
  | unsupportedNode (kind : String)
  | unmatchedPlaceholder (index : Int) (available : Int)
  | tooDeep (limit : Int) (name : Option String)
  | notFound (cause : Missing)
  | circular (chain : List String)
  deriving DecidableEq, Repr

namespace TemplateFault

/-- A template without literal fragments. -/
def noFragments : TemplateFault :=
  emptyTemplate "Template has no literal fragments"

/-- A template without content. -/
def noContent : TemplateFault :=
  noParseResult "No markup nodes could be generated from the template"

/-- A parent template without content. -/
def emptyParent (path : Option String) : TemplateFault :=
  noParseResult ("Parent template '" ++ path.getD "None" ++ "' is empty")

/-- The name of the kind of a fault. -/
def kind : TemplateFault → String
  | general _ => "TemplateError"
  | emptyTemplate _ => "EmptyTemplateError"
  | badSyntax .lexing _ => "TemplateSyntaxError"
  | badSyntax .parsing _ => "ParseError"
  | noParseResult _ => "NoParseResultError"
  | multipleRoots _ => "MultipleRootElementsError"
  | unsupportedNode _ => "UnsupportedNodeTypeError"
  | unmatchedPlaceholder _ _ => "UnmatchedPlaceholderError"
  | tooDeep _ _ => "TemplateDepthError"
  | notFound _ => "TemplateNotFoundError"
  | circular _ => "CircularTemplateError"

/-- The code of a fault. -/
def code? : TemplateFault → Option FaultCode
  | general _ => none
  | emptyTemplate _ => some .emptyTemplate
  | badSyntax _ _ => some .syntaxError
  | noParseResult _ => some .noParseResult
  | multipleRoots _ => some .multipleRoots
  | unsupportedNode _ => some .unsupportedNode
  | unmatchedPlaceholder _ _ => some .unmatchedPlaceholder
  | tooDeep _ _ => some .depthExceeded
  | notFound _ => some .templateNotFound
  | circular _ => some .circularTemplate

/-- The message of a fault. -/
def message : TemplateFault → String
  | general message => message
  | emptyTemplate message => message
  | badSyntax _ fault => fault.message
  | noParseResult message => message
  | multipleRoots count => "Template must have a single root element, found " ++ toString count
  | unsupportedNode kind => "Unsupported node type: " ++ kind
  | unmatchedPlaceholder index available =>
    "Placeholder /~" ++ toString index ++ "~/ has no matching interpolation (" ++
      toString available ++ " supplied)"
  | tooDeep limit name =>
    "Maximum template depth of " ++ toString limit ++ " exceeded" ++
      (match name with
      | some name => if name = "" then "" else " in " ++ name
      | none => "")
  | notFound cause => cause.message
  | circular chain => "Circular template reference: " ++ Text.joinStrings " -> " chain

/-- The advice that goes with a fault. -/
def suggestion? : TemplateFault → Option String
  | badSyntax _ fault => fault.problem.suggestion?
  | multipleRoots _ => some "Wrap the elements in a single parent tag"
  | unmatchedPlaceholder _ _ => some "Check that every placeholder token came from the encoder"
  | tooDeep _ _ => some "Raise Environment(max_depth=...) or flatten the template"
  | _ => none

/-- The line of a report that gives advice, if there is any. -/
def adviceLines (colors : Bool) (suggestion : Option String) : List String :=
  match suggestion with
  | some suggestion =>
    if suggestion = "" then [] else ["  " ++ Terminal.hint colors "Hint:" ++ " " ++ suggestion]
  | none => []

/-- The lines of a report that show the place of a problem with markup. -/
def placeLines (colors : Bool) (fault : SyntaxFault) : List String :=
  ("  --> " ++ Terminal.location colors fault.location) ::
    (match fault.shownSource? with
    | some (source, line) => [(Snippet.ofSource source line 2 fault.column).format colors]
    | none => [])

/-- The report of a fault. -/
def report (colors : Bool) (fault : TemplateFault) : String :=
  let code := fault.code?.map FaultCode.text
  let advice := adviceLines colors fault.suggestion?
  match fault with
  | badSyntax _ s =>
    Text.joinStrings "\n"
      (Terminal.errorHeader colors code s.problem.message :: placeLines colors s ++ advice)
  | _ => Text.joinStrings "\n" (Terminal.errorHeader colors code fault.message :: advice)

end TemplateFault

end ElementMarkup
