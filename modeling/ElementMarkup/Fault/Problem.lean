import ElementMarkup.Text.Quoted
import ElementMarkup.Token

/-!
# What can be wrong with markup

Each way in which a template can be malformed, with its message and, where there is one, advice
for the author.
-/

namespace ElementMarkup

/-- The character that a template uses for indentation. -/
inductive IndentChar where
  | space
  | tab
  deriving DecidableEq, Repr

/-- The word for lines indented with a character. -/
def IndentChar.plural : IndentChar → String
  | space => "spaces"
  | tab => "tabs"

/-- A way in which markup can be malformed. -/
inductive Problem where
  | mixedIndentation
  | otherIndentation (expected : IndentChar)
  | misalignedDedent
  | missingArgument (directive : Directive)
  | unexpectedText (content : String)
  | missingId
  | invalidClass
  | missingExpansion
  | unexpectedCharacter (c : Char)
  | unclosedAttributes
  | missingAttributeName
  | missingAttributeValue
  | unterminatedString
  | unquotedValue (raw : String)
  | unexpectedDedent
  | unexpectedIndentation
  | extendsNotFirst
  | extendsNotTopLevel
  | expectedLineEnd
  | expectedDedent
  | unexpectedToken (kind : String)
  | nestedContent (kind : String)
  | invalidBlockName (name : String)
  | contentAfterExtends (kind : String)
  | other (message : String) (suggestion : Option String)
  deriving DecidableEq, Repr

/-- The message of a problem. -/
def Problem.message : Problem → String
  | mixedIndentation => "Mixed tabs and spaces in indentation"
  | otherIndentation expected => "Inconsistent indentation, expected " ++ expected.plural
  | misalignedDedent => "Inconsistent indentation"
  | missingArgument directive =>
    "Expected a " ++ directive.argument ++ " after '" ++ directive.word ++ "'"
  | unexpectedText content => "Unexpected text '" ++ content ++ "'"
  | missingId => "Expected an id after '#'"
  | invalidClass => "Invalid class name"
  | missingExpansion => "Expected content after ':'"
  | unexpectedCharacter c => "Unexpected character " ++ Text.quotedString (String.singleton c)
  | unclosedAttributes => "Unclosed attribute list"
  | missingAttributeName => "Expected attribute name"
  | missingAttributeValue => "Expected attribute value"
  | unterminatedString => "Unterminated attribute string"
  | unquotedValue raw => "Unquoted attribute value '" ++ raw ++ "'"
  | unexpectedDedent => "Unexpected dedent"
  | unexpectedIndentation => "Unexpected indentation"
  | extendsNotFirst => "'extends' must be the first line of the template"
  | extendsNotTopLevel => "'extends' is only allowed at the top level"
  | expectedLineEnd => "Expected end of line"
  | expectedDedent => "Expected dedent"
  | unexpectedToken kind => "Unexpected " ++ kind
  | nestedContent kind => kind ++ " cannot have nested content"
  | invalidBlockName name => "Invalid block name '" ++ name ++ "'"
  | contentAfterExtends kind => "Only named blocks may follow extends, found " ++ kind
  | other message _ => message

/-- The advice that goes with a problem. -/
def Problem.suggestion? : Problem → Option String
  | misalignedDedent => some "Dedent to the same column as an enclosing line"
  | unexpectedText _ => some "Start plain text lines with '| '"
  | unclosedAttributes => some "Close the attribute list with ')' on the same line"
  | unquotedValue _ => some "Quote the value, or interpolate the expression"
  | extendsNotFirst => some "Move 'extends' above all other content"
  | invalidBlockName _ =>
    some "Block names are single words; append/prepend modes are not supported"
  | contentAfterExtends _ =>
    some "Move content into a 'block' that the parent template declares"
  | other _ suggestion => suggestion
  | _ => none

end ElementMarkup
