import ElementMarkup.Markup.Parser
import ElementMarkup.Proofs.Text
import ElementMarkup.Token.Line
import Mathlib.Tactic.Tauto

/-!
# Written markup

A tree is written one node a line, the children of a node below it and one unit of spaces deeper.
A tag always has its parentheses, and texts among its attributes stand in double quotes with a
backslash in front of backslashes and double quotes. `isPrintable` says which nodes can be written
so; their names are taken from the grammar and not from the reader.
-/

namespace ElementMarkup.Print

/-! ## Names and values -/

/-- A name that a tag can have: a letter or underscore, then word characters, colons and hyphens,
the last of which is a word character. -/
def isTagName : List Char → Bool
  | [] => false
  | c :: cs => Line.isNameStart c && cs.all Line.isTagChar && cs.getLast?.all Text.isWord

/-- A name that an attribute can have. -/
def isAttributeName (cs : List Char) : Bool :=
  !cs.isEmpty && cs.all Line.isAttributeChar

/-- A text that fits on a line. -/
def isLineText (cs : List Char) : Bool :=
  !cs.contains '\n' && !cs.contains '\r'

/-- A path as it can stand at the end of a line. -/
def isPath (cs : List Char) : Bool :=
  !cs.isEmpty && isLineText cs && Text.trim cs == cs

/-- A value that can be written: a text of one line, a whole number that is not too long to be read,
or a truth value. -/
def isValue : Scalar → Bool
  | .text value => isLineText value.toList
  | .integer value => (Nat.toDigits 10 value.natAbs).length ≤ integerDigitLimit
  | .boolean _ => true
  | _ => false

/-- An attribute that can be written. -/
def isAttribute (a : Attribute) : Bool :=
  isAttributeName a.name.toList && isValue a.value

mutual

/-- A node that can be written: a tag with a block of its own, a text, a named block or an included
template. -/
def isPrintable : Markup → Bool
  | .tag _ name attributes blockPosition children =>
    isTagName name.toList && attributes.all isAttribute && blockPosition.isSome &&
      arePrintable children
  | .text _ value => isLineText value.toList
  | .namedBlock _ name nodes => Parser.isBlockName name.toList && arePrintable nodes
  | .included _ (some path) _ => isPath path.toList
  | _ => false

/-- All of the nodes can be written. -/
def arePrintable : List Markup → Bool
  | [] => true
  | node :: nodes => isPrintable node && arePrintable nodes

end

/-! ## Writing -/

/-- A text with a backslash in front of each backslash and double quote. -/
def escape : List Char → List Char
  | [] => []
  | c :: cs => if c = '\\' ∨ c = '"' then '\\' :: c :: escape cs else c :: escape cs

/-- A value as it is written. -/
def valueText : Scalar → List Char
  | .text text => '"' :: escape text.toList ++ ['"']
  | .integer n => Placeholder.decimal n
  | .boolean true => "true".toList
  | .boolean false => "false".toList
  | _ => []

/-- An attribute as it is written. -/
def attributeText (a : Attribute) : List Char :=
  a.name.toList ++ '=' :: valueText a.value

/-- The attributes of a tag as they are written. -/
def attributesText (as : List Attribute) : List Char :=
  Text.joinWith [',', ' '] (as.map attributeText)

/-- A tag without its children as it is written. -/
def tagHead (name : List Char) (as : List Attribute) : List Char :=
  name ++ '(' :: attributesText as ++ [')']

/-- A directive as it is written. -/
def directiveText (directive : Directive) (argument : List Char) : List Char :=
  directive.word.toList ++ ' ' :: argument

/-- A line at a level of indentation. -/
def indented (unit level : Nat) (content : List Char) : List Char :=
  List.replicate (unit * level) ' ' ++ content

mutual

/-- The lines of a node at a level of indentation. -/
def lines (unit level : Nat) : Markup → List (List Char)
  | .tag _ name attributes _ children =>
    indented unit level (tagHead name.toList attributes) :: linesOf unit (level + 1) children
  | .text _ value => [indented unit level ('|' :: ' ' :: value.toList)]
  | .namedBlock _ name nodes =>
    indented unit level (directiveText .blockName name.toList) :: linesOf unit (level + 1) nodes
  | .included _ path _ => [indented unit level (directiveText .includePath (path.getD "").toList)]
  | .extended _ path _ => [indented unit level (directiveText .extendsPath (path.getD "").toList)]
  | .block _ nodes => linesOf unit level nodes
  | .foreign _ _ => []

/-- The lines of several nodes at a level of indentation. -/
def linesOf (unit level : Nat) : List Markup → List (List Char)
  | [] => []
  | node :: nodes => lines unit level node ++ linesOf unit level nodes

end

/-- The source of a list of nodes, indented by a unit of spaces. -/
def source (unit : Nat) (nodes : List Markup) : String :=
  String.ofList (Text.joinWith ['\n'] (linesOf unit 0 nodes))

/-! ## The lexemes of written markup -/

mutual

/-- The lexemes that a node is read as, with the widths of indentation left open. -/
def lexemes : Markup → List Lexeme
  | .tag _ name attributes _ children =>
    .tagName name :: attributes.map (fun a => .attributePair a.name a.value) ++
      .newline :: nestedLexemes children
  | .text _ value => [.text value, .newline]
  | .namedBlock _ name nodes => .blockName (.text name) :: .newline :: nestedLexemes nodes
  | .included _ path _ => [.includePath (path.getD ""), .newline]
  | .extended _ path _ => [.extendsPath (path.getD ""), .newline]
  | .block _ nodes => lexemesOf nodes
  | .foreign _ _ => []

/-- The lexemes of the nodes inside another one. -/
def nestedLexemes : List Markup → List Lexeme
  | [] => []
  | node :: nodes => .indent none :: (lexemes node ++ lexemesOf nodes) ++ [.outdent none]

/-- The lexemes of several nodes. -/
def lexemesOf : List Markup → List Lexeme
  | [] => []
  | node :: nodes => lexemes node ++ lexemesOf nodes

end

/-- A lexeme with the width of indentation left open. -/
def shape : Lexeme → Lexeme
  | .indent _ => .indent none
  | .outdent _ => .outdent none
  | lexeme => lexeme

/-- The lexemes of tokens, with the widths of indentation left open. -/
def shapes (tokens : List Token) : List Lexeme :=
  tokens.map fun t => shape t.lexeme

/-- Tokens in a row have their lexemes in a row. -/
@[simp] theorem shapes_append (first second : List Token) :
    shapes (first ++ second) = shapes first ++ shapes second :=
  List.map_append

/-- One more token adds its lexeme. -/
@[simp] theorem shapes_cons (t : Token) (tokens : List Token) :
    shapes (t :: tokens) = shape t.lexeme :: shapes tokens :=
  rfl

/-- No tokens have no lexemes. -/
@[simp] theorem shapes_nil : shapes [] = [] :=
  rfl

/-! ## Written lines hold no line ends -/

/-- A text fits on a line if none of its characters ends one. -/
theorem is_line_text_iff {cs : List Char} :
    isLineText cs = true ↔ '\n' ∉ cs ∧ '\r' ∉ cs := by
  simp [isLineText]

/-- A text fits on a line if its first character and the others do. -/
@[simp] theorem is_line_text_cons (c : Char) (cs : List Char) :
    isLineText (c :: cs) = (c != '\n' && c != '\r' && isLineText cs) := by
  rw [Bool.eq_iff_iff]
  simp only [Bool.and_eq_true, bne_iff_ne, is_line_text_iff, List.mem_cons, not_or]
  tauto

/-- Two texts in a row fit on a line if both of them do. -/
@[simp] theorem is_line_text_append (first second : List Char) :
    isLineText (first ++ second) = (isLineText first && isLineText second) := by
  rw [Bool.eq_iff_iff]
  simp only [Bool.and_eq_true, is_line_text_iff, List.mem_append, not_or]
  tauto

/-- A text without blanks fits on a line. -/
theorem is_line_text_of_not_blank {cs : List Char} (h : ∀ c ∈ cs, Text.isBlank c = false) :
    isLineText cs = true := by
  rw [is_line_text_iff]
  constructor <;> intro hc <;> exact absurd (h _ hc) (by decide)

/-- Escaping a text adds no line end. -/
theorem is_line_text_escape {cs : List Char} (h : isLineText cs = true) :
    isLineText (escape cs) = true := by
  induction cs with
  | nil => rfl
  | cons c cs ih =>
      rw [is_line_text_cons, Bool.and_eq_true] at h
      unfold escape
      split <;> simp_all

/-- A written number fits on a line. -/
theorem is_line_text_decimal (n : Int) : isLineText (Placeholder.decimal n) = true := by
  have hdigits (m : Nat) : isLineText (Nat.toDigits 10 m) = true := by
    rw [is_line_text_iff]
    constructor <;> intro hc <;> exact absurd (Text.is_digit_of_mem_to_digits hc) (by decide)
  cases n with
  | ofNat m => exact hdigits m
  | negSucc m =>
      show isLineText ('-' :: Nat.toDigits 10 (m + 1)) = true
      rw [is_line_text_cons, hdigits]
      rfl

/-- A written value fits on a line. -/
theorem is_line_text_value_text {value : Scalar} (h : isValue value = true) :
    isLineText (valueText value) = true := by
  cases value with
  | text v =>
      show isLineText ('"' :: (escape v.toList ++ ['"'])) = true
      rw [is_line_text_cons, is_line_text_append, is_line_text_escape h]
      rfl
  | integer n => exact is_line_text_decimal n
  | boolean b => cases b <;> rfl
  | float _ => cases h
  | null => cases h
  | bytes _ => cases h

/-- A written attribute fits on a line. -/
theorem is_line_text_attribute_text {a : Attribute} (h : isAttribute a = true) :
    isLineText (attributeText a) = true := by
  simp only [isAttribute, isAttributeName, Bool.and_eq_true, List.all_eq_true] at h
  have hname : isLineText a.name.toList = true := by
    refine is_line_text_of_not_blank fun c hc => ?_
    have hchar := h.1.2 c hc
    simp only [Line.isAttributeChar, Bool.and_eq_true, Bool.not_eq_true'] at hchar
    exact hchar.1.1.1.1.1.1
  unfold attributeText
  rw [is_line_text_append, hname, is_line_text_cons, is_line_text_value_text h.2]
  rfl

/-- Written attributes fit on a line. -/
theorem is_line_text_attributes_text {as : List Attribute} (h : as.all isAttribute = true) :
    isLineText (attributesText as) = true := by
  unfold attributesText Text.joinWith
  induction as with
  | nil => rfl
  | cons a as ih =>
      rw [List.all_cons, Bool.and_eq_true] at h
      cases as with
      | nil =>
          rw [List.map_cons, List.map_nil, List.intercalate_singleton]
          exact is_line_text_attribute_text h.1
      | cons b as =>
          have hmore := ih h.2
          rw [List.map_cons] at hmore ⊢
          rw [List.map_cons, List.intercalate_cons_cons, is_line_text_append, is_line_text_append,
            is_line_text_attribute_text h.1, hmore]
          rfl

/-- An indented line fits on a line if its content does. -/
theorem is_line_text_indented (unit level : Nat) (content : List Char) :
    isLineText (indented unit level content) = isLineText content := by
  have hspaces : isLineText (List.replicate (unit * level) ' ') = true := by
    rw [is_line_text_iff]
    constructor <;> intro hc <;> exact absurd (List.eq_of_mem_replicate hc) (by decide)
  unfold indented
  rw [is_line_text_append, hspaces, Bool.true_and]

end ElementMarkup.Print
