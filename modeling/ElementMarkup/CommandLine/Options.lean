import ElementMarkup.Defaults
import ElementMarkup.Fault
import ElementMarkup.Text.Blank
import ElementMarkup.Text.Digit

/-!
# Options of the command line

The flags of the program with their spellings, the options that they set, and what can be wrong
with the arguments.
-/

namespace ElementMarkup.CommandLine

/-- A flag of the command line. -/
inductive Flag where
  | help
  | output
  | factory
  | strict
  | templates
  | maxDepth
  | list
  | verbose
  deriving DecidableEq, Repr

namespace Flag

/-- The flags in the order of their description. -/
def all : List Flag :=
  [help, output, factory, strict, templates, maxDepth, list, verbose]

/-- How a flag is written. -/
def spellings : Flag → List String
  | help => ["-h", "--help"]
  | output => ["-o", "--output"]
  | factory => ["--factory"]
  | strict => ["--strict"]
  | templates => ["--templates"]
  | maxDepth => ["--max-depth"]
  | list => ["--list"]
  | verbose => ["-v", "--verbose"]

/-- A value belongs to the flag. -/
def takesValue : Flag → Bool
  | output => true
  | factory => true
  | templates => true
  | maxDepth => true
  | _ => false

/-- The flag in messages. -/
def label (flag : Flag) : String :=
  Text.joinStrings "/" flag.spellings

end Flag

/-- All spellings of flags, in order. -/
def spelledFlags : List (String × Flag) :=
  Flag.all.flatMap fun flag => flag.spellings.map fun spelling => (spelling, flag)

/-- What is wrong with the arguments. -/
inductive Complaint where
  | ambiguous (argument : String) (spellings : List String)
  | invalidNumber (flag : Flag) (value : String)
  | missingValue (flag : Flag)
  | unusedValue (flag : Flag) (value : String)
  | unrecognized (arguments : List String)
  deriving DecidableEq, Repr

/-- The message for what is wrong with the arguments. -/
def Complaint.message : Complaint → String
  | ambiguous argument spellings =>
    "ambiguous option: " ++ argument ++ " could match " ++ Text.joinStrings ", " spellings
  | invalidNumber flag value =>
    "argument " ++ flag.label ++ ": invalid int value: " ++ Text.quotedString value
  | missingValue flag => "argument " ++ flag.label ++ ": expected one argument"
  | unusedValue flag value =>
    "argument " ++ flag.label ++ ": ignored explicit argument " ++ Text.quotedString value
  | unrecognized arguments => "unrecognized arguments: " ++ Text.joinStrings " " arguments

/-- The digits of a number in which single underscores may stand between digits. -/
def separatedDigits? : List Char → Option (List Char)
  | [] => none
  | [c] => if Text.isDigit c then some [c] else none
  | c :: '_' :: cs => if Text.isDigit c then (separatedDigits? cs).map (c :: ·) else none
  | c :: cs => if Text.isDigit c then (separatedDigits? cs).map (c :: ·) else none

/-- A blank that may stand around a number: any blank but the separators of ASCII. -/
def isNumberMargin (c : Char) : Bool :=
  Text.isPlainBlank c || (128 ≤ c.toNat && Text.isBlank c)

/-- The whole number that a text is: digits of any script with an optional sign and blanks around
them, up to so many digits. -/
def integerOfText? (s : String) : Option Int := do
  let (negative, cs) :=
    match Text.trimWhere isNumberMargin s.toList with
    | '-' :: cs => (true, cs)
    | '+' :: cs => (false, cs)
    | cs => (false, cs)
  let digits ← separatedDigits? cs
  if integerDigitLimit < digits.length then none
  let magnitude : Int := Text.digitsValue digits
  return if negative then -magnitude else magnitude

/-- What the program is asked to do. -/
structure Options where
  input : Option String := none
  output : Option String := none
  factory : String := Defaults.factory
  strict : Bool := false
  templates : List String := []
  maxDepth : Int := Defaults.maxDepth
  list : Bool := false
  verbose : Bool := false
  deriving DecidableEq, Repr

/-- Why the arguments give no options: help is wanted, or something is wrong. -/
inductive Stop where
  | help
  | complaint (c : Complaint)
  deriving DecidableEq, Repr

/-- The options after a flag without a value. -/
def Options.switch (options : Options) : Flag → Except Stop Options
  | .help => .error .help
  | .strict => .ok { options with strict := true }
  | .list => .ok { options with list := true }
  | .verbose => .ok { options with verbose := true }
  | flag => .error (.complaint (.missingValue flag))

/-- The options after a flag with its value. The last value counts; directories add up. -/
def Options.assign (options : Options) (flag : Flag) (value : String) : Except Stop Options :=
  match flag with
  | .output => .ok { options with output := some value }
  | .factory => .ok { options with factory := value }
  | .templates => .ok { options with templates := options.templates ++ [value] }
  | .maxDepth =>
    match integerOfText? value with
    | some depth => .ok { options with maxDepth := depth }
    | none => .error (.complaint (.invalidNumber flag value))
  | flag => .error (.complaint (.unusedValue flag value))

end ElementMarkup.CommandLine
