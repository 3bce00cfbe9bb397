import ElementMarkup.Fault
import ElementMarkup.Number.Numeral
import ElementMarkup.Placeholder
import ElementMarkup.Text.Blank
import ElementMarkup.Text.Word

/-!
# The tokens of a line

The content of a line is a text, a directive, or a tag with its shorthand, attributes and inline
content. A colon after a tag puts the rest of the line inside the tag.
-/

namespace ElementMarkup

/-- What is wrong with a line. -/
inductive Flaw where
  | malformed (problem : Problem) (column : Nat)
  | integerTooLong (digits : Nat)
  deriving DecidableEq, Repr

namespace Line

/-- A letter of ASCII or the underscore. -/
def isNameStart (c : Char) : Bool :=
  c.isAlpha || c == '_'

/-- A character inside a tag name. -/
def isTagChar (c : Char) : Bool :=
  Text.isWord c || c == ':' || c == '-'

/-- The tag name at the start of a text. It may hold colons and hyphens but does not end with
one. -/
def tagName : List Char → List Char
  | [] => []
  | c :: cs =>
    if isNameStart c then
      c :: ((cs.takeWhile isTagChar).reverse.dropWhile (fun c => !Text.isWord c)).reverse
    else []

/-- The class name at the start of a text. -/
def className (cs : List Char) : List Char :=
  let (hyphen, rest) :=
    match cs with
    | '-' :: rest => (['-'], rest)
    | rest => ([], rest)
  match rest with
  | c :: more => if isNameStart c then hyphen ++ c :: more.takeWhile Text.isWordOrHyphen else []
  | [] => []

/-- A space or a tab. -/
def isGap (c : Char) : Bool :=
  c == ' ' || c == '\t'

/-- A character that may stand between attributes. -/
def isSeparator (c : Char) : Bool :=
  isGap c || c == ','

/-- A character inside an attribute name. -/
def isAttributeChar (c : Char) : Bool :=
  !Text.isBlank c && c != '=' && c != ',' && c != '(' && c != ')' && c != '\'' && c != '"'

/-- A character inside a value without quotes. -/
def isBareChar (c : Char) : Bool :=
  !isSeparator c && c != ')'

/-- The content of a quoted value up to the closing quote, and what follows the quote. A backslash
stands for the character after it. -/
def quotedValue? (quote : Char) : List Char → Option (List Char × List Char)
  | [] => none
  | '\\' :: c :: cs => (quotedValue? quote cs).map fun (value, rest) => (c :: value, rest)
  | c :: cs =>
    if c = quote then some ([], cs)
    else (quotedValue? quote cs).map fun (value, rest) => (c :: value, rest)

/-- The value that is written without quotes: a truth value, a number or a placeholder. -/
def bareValue (raw : List Char) (column : Nat) : Except Flaw Scalar :=
  if raw = "true".toList then .ok (.boolean true)
  else if raw = "false".toList then .ok (.boolean false)
  else
    match Number.numeral? raw with
    | some numeral =>
      if !numeral.isWhole then .ok (.float numeral.toBinary64)
      else if integerDigitLimit < numeral.whole.length then
        .error (.integerTooLong numeral.whole.length)
      else .ok (.integer numeral.toInt)
    | none =>
      if Placeholder.isMark raw then .ok (.text (String.ofList raw))
      else .error (.malformed (.unquotedValue (String.ofList raw)) column)

/-- The attribute value at the start of a text, and what follows it. -/
def attributeValue (column : Nat) : List Char → Except Flaw (Scalar × List Char)
  | [] => .error (.malformed .missingAttributeValue column)
  | c :: cs =>
    if c = '\'' ∨ c = '"' then
      match quotedValue? c cs with
      | some (value, rest) => .ok (.text (String.ofList value), rest)
      | none => .error (.malformed .unterminatedString column)
    else do
      let value ← bareValue ((c :: cs).takeWhile isBareChar) column
      return (value, (c :: cs).dropWhile isBareChar)

/-- The attribute at the start of a text, and what follows it. An attribute without a value is
true. -/
def attributePair (line column : Nat) (cs : List Char) : Except Flaw (Token × List Char) :=
  let name := cs.takeWhile isAttributeChar
  if name.isEmpty then .error (.malformed .missingAttributeName column)
  else
    let token (value : Scalar) : Token :=
      ⟨.attributePair (String.ofList name) value, ⟨line, column⟩⟩
    match (cs.dropWhile isAttributeChar).dropWhile isGap with
    | '=' :: rest => do
      let start := rest.dropWhile isGap
      let (value, after) ← attributeValue (column + (cs.length - start.length)) start
      return (token value, after)
    | rest => .ok (token (.boolean true), rest)

/-- What follows a quoted value is shorter than the text after the opening quote. -/
theorem length_lt_of_quoted_value? {quote : Char} {cs value rest : List Char}
    (h : quotedValue? quote cs = some (value, rest)) : rest.length < cs.length := by
  fun_induction quotedValue? quote cs generalizing value rest with
  | case1 => cases h
  | case2 c cs ih =>
    obtain ⟨⟨v, r⟩, hv, heq⟩ := Option.map_eq_some_iff.1 h
    cases heq
    have := ih hv
    simp only [List.length_cons]
    omega
  | case3 cs => cases h; simp
  | case4 c cs _ hc ih =>
    obtain ⟨⟨v, r⟩, hv, heq⟩ := Option.map_eq_some_iff.1 h
    cases heq
    have := ih hv
    simp only [List.length_cons]
    omega

/-- What follows an attribute value is no longer than the text before it. -/
theorem length_le_of_attribute_value {column : Nat} {cs rest : List Char} {value : Scalar}
    (h : attributeValue column cs = .ok (value, rest)) : rest.length ≤ cs.length := by
  unfold attributeValue at h
  split at h
  · cases h
  · rename_i c cs'
    split at h
    · split at h
      · rename_i hq
        cases h
        have := length_lt_of_quoted_value? hq
        simp only [List.length_cons]
        omega
      · cases h
    · cases hb : bareValue ((c :: cs').takeWhile isBareChar) column with
      | error e => simp [hb, bind, Except.bind] at h
      | ok v =>
        simp only [hb, bind, Except.bind, pure, Except.pure] at h
        cases h
        exact (List.dropWhile_suffix isBareChar).length_le

/-- What follows an attribute is shorter than the text before it. -/
theorem length_lt_of_attribute_pair {line column : Nat} {cs rest : List Char} {token : Token}
    (h : attributePair line column cs = .ok (token, rest)) : rest.length < cs.length := by
  unfold attributePair at h
  simp only at h
  split at h
  · cases h
  · rename_i hname
    have hparts : (cs.takeWhile isAttributeChar).length +
        (cs.dropWhile isAttributeChar).length = cs.length := by
      rw [← List.length_append, List.takeWhile_append_dropWhile]
    have hpos : 0 < (cs.takeWhile isAttributeChar).length := by
      rw [List.isEmpty_iff] at hname
      exact List.length_pos_iff.mpr hname
    have hgap := (List.dropWhile_suffix isGap (l := cs.dropWhile isAttributeChar)).length_le
    split at h
    · rename_i more hmore
      have hstart := (List.dropWhile_suffix isGap (l := more)).length_le
      rw [hmore] at hgap
      simp only [List.length_cons] at hgap
      cases hv : attributeValue (column + (cs.length - (more.dropWhile isGap).length))
          (more.dropWhile isGap) with
      | error e => simp [hv, bind, Except.bind] at h
      | ok r =>
        obtain ⟨value, after⟩ := r
        simp only [hv, bind, Except.bind, pure, Except.pure] at h
        cases h
        have := length_le_of_attribute_value hv
        omega
    · cases h
      omega

/-- The attributes up to the closing parenthesis, and what follows it. -/
def attributeList (line column : Nat) (cs : List Char) : Except Flaw (List Token × List Char) :=
  let start := cs.dropWhile isSeparator
  let place := column + (cs.length - start.length)
  match _hstart : start with
  | [] => .error (.malformed .unclosedAttributes place)
  | c :: rest =>
    if c = ')' then .ok ([], rest)
    else
      match _hpair : attributePair line place (c :: rest) with
      | .error flaw => .error flaw
      | .ok (token, after) => do
        let (tokens, beyond) ← attributeList line (place + (start.length - after.length)) after
        return (token :: tokens, beyond)
termination_by cs.length
decreasing_by
  have h := length_lt_of_attribute_pair _hpair
  have hle := (List.dropWhile_suffix isSeparator (l := cs)).length_le
  simp only [start] at _hstart
  rw [_hstart] at hle
  omega

/-- What follows an attribute list is shorter than the text after the opening parenthesis. -/
theorem length_lt_of_attribute_list {line column : Nat} {cs rest : List Char}
    {tokens : List Token} (h : attributeList line column cs = .ok (tokens, rest)) :
    rest.length < cs.length := by
  fun_induction attributeList line column cs generalizing tokens rest with
  | case1 => cases h
  | case2 =>
    rename_i column cs start rest' hstart
    cases h
    have hle : start.length ≤ cs.length := (List.dropWhile_suffix isSeparator).length_le
    rw [hstart, List.length_cons] at hle
    omega
  | case3 => cases h
  | case4 =>
    rename_i column cs start place c rest' hstart hopen token after hpair ih
    have hle : start.length ≤ cs.length := (List.dropWhile_suffix isSeparator).length_le
    rw [hstart] at hle
    have hlt := length_lt_of_attribute_pair hpair
    cases hrec : attributeList line (place + (start.length - after.length)) after with
    | error e => simp [hrec, bind, Except.bind] at h
    | ok r =>
      obtain ⟨more, beyond⟩ := r
      simp only [hrec, bind, Except.bind, pure, Except.pure] at h
      cases h
      have := ih hrec
      omega

/-- The directive that opens a text, and its argument. The word is followed by a blank or by
nothing. -/
def directive? (cs : List Char) : Option (Directive × List Char) :=
  [Directive.extendsPath, .includePath, .blockName].findSome? fun directive =>
    let word := directive.word.toList
    if word.isPrefixOf cs then
      match cs.drop word.length with
      | [] => some (directive, [])
      | c :: rest => if Text.isBlank c then some (directive, Text.trim (c :: rest)) else none
    else none

/-- The token of a directive. -/
def directiveToken (line column : Nat) (directive : Directive) (argument : List Char) :
    Except Flaw Token :=
  if argument.isEmpty then
    .error (.malformed (.missingArgument directive) (column + directive.word.length))
  else .ok ⟨directive.lexeme (String.ofList argument), ⟨line, column⟩⟩

/-- The text of a line that starts with a bar: what follows the bar and one space. -/
def barText : List Char → List Char
  | ' ' :: cs => cs
  | cs => cs

mutual

/-- The tokens of a line's content that starts at the given column. -/
def tokens (line column : Nat) (cs : List Char) : Except Flaw (List Token) :=
  if cs.head? = some '|' then
    .ok [⟨.text (String.ofList (barText cs.tail)), ⟨line, column⟩⟩]
  else if Placeholder.startsWithMark cs then
    .ok [⟨.text (String.ofList cs), ⟨line, column⟩⟩]
  else
    match directive? cs with
    | some (directive, argument) => do
      return [← directiveToken line column directive argument]
    | none =>
      let name := tagName cs
      if !name.isEmpty then do
        let more ← tagTokens line (column + name.length) (cs.drop name.length)
        return ⟨.tagName (String.ofList name), ⟨line, column⟩⟩ :: more
      else if cs.head? = some '#' ∨ cs.head? = some '.' then do
        let more ← tagTokens line column cs
        return ⟨.tagName "div", ⟨line, column⟩⟩ :: more
      else .error (.malformed (.unexpectedText (String.ofList cs)) column)
termination_by 2 * cs.length + 1

/-- The tokens of what follows a tag name: shorthand, attributes and inline content. -/
def tagTokens (line column : Nat) (cs : List Char) : Except Flaw (List Token) :=
  match _hcs : cs with
  | [] => .ok []
  | c :: rest =>
    if c = '#' then
      let name := rest.takeWhile Text.isWordOrHyphen
      if name.isEmpty then .error (.malformed .missingId column)
      else do
        let more ← tagTokens line (column + 1 + name.length) (rest.drop name.length)
        return ⟨.idName (.text (String.ofList name)), ⟨line, column⟩⟩ :: more
    else if c = '.' then
      let name := className rest
      if !name.isEmpty then do
        let more ← tagTokens line (column + 1 + name.length) (rest.drop name.length)
        return ⟨.className (.text (String.ofList name)), ⟨line, column⟩⟩ :: more
      else if rest.isEmpty then .ok [⟨.dot, ⟨line, column⟩⟩]
      else .error (.malformed .invalidClass (column + 1))
    else if c = '(' then
      match _hlist : attributeList line (column + 1) rest with
      | .error flaw => .error flaw
      | .ok (attributes, after) => do
        let more ← tagTokens line (column + 1 + (rest.length - after.length)) after
        return attributes ++ more
    else if c = ':' then
      let inner := Text.trimStart rest
      if inner.isEmpty then .error (.malformed .missingExpansion column)
      else do
        let more ← tokens line (column + 1 + (rest.length - inner.length)) inner
        return ⟨.colon, ⟨line, column⟩⟩ :: more
    else if c = ' ' then
      if Text.allBlank rest then .ok []
      else .ok [⟨.text (String.ofList rest), ⟨line, column + 1⟩⟩]
    else .error (.malformed (.unexpectedCharacter c) column)
termination_by 2 * cs.length
decreasing_by
  all_goals simp only [List.length_cons, List.length_drop]
  · omega
  · omega
  · have := length_lt_of_attribute_list _hlist
    omega
  · have := Text.length_trim_start_le rest
    omega

end

end Line

end ElementMarkup
