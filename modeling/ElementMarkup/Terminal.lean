import ElementMarkup.Text.Lines

/-!
# Terminal styles

Reports may be coloured for a terminal. A style is a control sequence before the text, and the
plain style is restored after it. Removing the control sequences gives the uncoloured report.
-/

namespace ElementMarkup.Terminal

/-- A way to show text. -/
inductive Style where
  | reset
  | bold
  | dim
  | cyan
  | yellow
  | green
  | brightRed
  deriving DecidableEq, Repr

/-- The number that selects a style. -/
def Style.number : Style → String
  | reset => "0"
  | bold => "1"
  | dim => "2"
  | cyan => "36"
  | yellow => "33"
  | green => "32"
  | brightRed => "91"

/-- The control sequence of a style. -/
def Style.code (style : Style) : String :=
  "\x1b[" ++ style.number ++ "m"

/-- The style with the given name. -/
def Style.ofName? : String → Option Style
  | "reset" => some reset
  | "bold" => some bold
  | "dim" => some dim
  | "cyan" => some cyan
  | "yellow" => some yellow
  | "green" => some green
  | "bright_red" => some brightRed
  | _ => none

/-- The text in the given styles. Without colours, and without a style, it stays as it is. -/
def paint (colors : Bool) (styles : List Style) (text : String) : String :=
  if !colors || styles.isEmpty then text
  else String.join (styles.map Style.code) ++ text ++ Style.reset.code

/-- The text in the styles with the given names. Unknown names count for nothing. -/
def paintNamed (colors : Bool) (names : List String) (text : String) : String :=
  paint colors (names.filterMap Style.ofName?) text

/-- Colours are used on a terminal unless they are declined; forcing them wins over both. An empty
setting counts as absent. -/
def useColors (force decline : Option String) (terminal : Bool) : Bool :=
  if force.any (· ≠ "") then true else if decline.any (· ≠ "") then false else terminal

/-- The code of an error. -/
def errorCode (colors : Bool) (text : String) : String :=
  paint colors [.brightRed, .bold] text

/-- The place of an error. -/
def location (colors : Bool) (text : String) : String :=
  paint colors [.cyan] text

/-- The number of a line of source. -/
def lineNumber (colors : Bool) (text : String) : String :=
  paint colors [.yellow] text

/-- The line of source at fault. -/
def errorLine (colors : Bool) (text : String) : String :=
  paint colors [.brightRed] text

/-- The word before a suggestion. -/
def hint (colors : Bool) (text : String) : String :=
  paint colors [.green] text

/-- Text that stands back. -/
def dimmed (colors : Bool) (text : String) : String :=
  paint colors [.dim] text

/-- The first line of a report: the code, if there is one, and the message. -/
def errorHeader (colors : Bool) (code : Option String) (message : String) : String :=
  match code with
  | some code => if code = "" then message else errorCode colors code ++ ": " ++ message
  | none => message

/-- The number with blanks in front, at least three characters wide. -/
def paddedNumber (n : Int) : String :=
  let digits := toString n
  String.ofList (List.replicate (3 - digits.length) ' ') ++ digits

/-- A numbered line of source, the one at fault being marked. -/
def sourceLine (colors : Bool) (number : Int) (content : String) (atFault : Bool) : String :=
  let marker := if atFault then ">" else " "
  let shown := if atFault then errorLine colors content else dimmed colors content
  lineNumber colors (marker ++ paddedNumber number) ++ " | " ++ shown

/-- A character in the given range of code points. -/
def isBetween (first last : Char) (c : Char) : Bool :=
  first ≤ c && c ≤ last

/-- What follows a control sequence that starts after an escape character, if one does: a single
letter, or a bracket with parameters, intermediate characters and a final one. -/
def afterControl? : List Char → Option (List Char)
  | '[' :: cs =>
    match (cs.dropWhile (isBetween '0' '?')).dropWhile (isBetween ' ' '/') with
    | c :: rest => if isBetween '@' '~' c then some rest else none
    | [] => none
  | c :: rest => if isBetween '@' 'Z' c || isBetween '\\' '_' c then some rest else none
  | [] => none

/-- What follows a control sequence is shorter than what follows the escape character. -/
theorem length_after_control?_lt {cs rest : List Char} (h : afterControl? cs = some rest) :
    rest.length < cs.length := by
  unfold afterControl? at h
  split at h
  · rename_i cs'
    split at h
    · rename_i c tail hdrop
      split at h
      · cases h
        have hle := (List.dropWhile_suffix (isBetween ' ' '/')
          (l := cs'.dropWhile (isBetween '0' '?'))).length_le
        have hle' := (List.dropWhile_suffix (isBetween '0' '?') (l := cs')).length_le
        rw [hdrop] at hle
        simp only [List.length_cons] at hle ⊢
        omega
      · cases h
    · cases h
  · split at h
    · cases h; simp
    · cases h
  · cases h

/-- The text without its control sequences. -/
def stripChars : List Char → List Char
  | [] => []
  | c :: cs =>
    if c = '\x1b' then
      match _h : afterControl? cs with
      | some rest => stripChars rest
      | none => c :: stripChars cs
    else c :: stripChars cs
termination_by cs => cs.length
decreasing_by
  · have := length_after_control?_lt _h
    simp only [List.length_cons]
    omega
  · simp
  · simp

/-- The string without its control sequences. -/
def strip (s : String) : String :=
  String.ofList (stripChars s.toList)

end ElementMarkup.Terminal
