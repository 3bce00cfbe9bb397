import ElementMarkup.CommandLine.Options

/-!
# Arguments of the command line

First every argument is classified: a flag by one of its spellings or by the unique start of a long
one, with its value attached or not, or a plain argument. Two dashes make all that follows plain.
Then flags and plain arguments are taken in order; the first plain argument that is not the value of
a flag is the input.
-/

namespace ElementMarkup.CommandLine

/-- An argument of the command line. A text may be attached to a flag, after an equals sign or, if
the flag is short, right behind it. -/
inductive Argument where
  | plain (text : String)
  | flag (flag : Flag) (short : Bool) (attached : Option (List Char))
  | unknown (text : String)
  | divider
  deriving DecidableEq, Repr

namespace Argument

/-- The argument is written as a flag. -/
def isFlag : Argument → Bool
  | flag _ _ _ => true
  | unknown _ => true
  | _ => false

/-- The text of an argument that is no flag. -/
def text : Argument → String
  | plain text => text
  | unknown text => text
  | divider => "--"
  | flag _ _ _ => ""

end Argument

/-- A negative number, which is never taken for a flag. -/
def isNegativeNumber : List Char → Bool
  | '-' :: cs =>
    let cs := if cs.getLast? = some '\n' then cs.dropLast else cs
    let fraction := (cs.dropWhile Text.isDigit).drop 1
    if cs.all Text.isDigit then !cs.isEmpty
    else (cs.dropWhile Text.isDigit).head? = some '.' && !fraction.isEmpty &&
      fraction.all Text.isDigit
  | _ => false

/-- The text up to the first equals sign, and the text after it if there is one. -/
def cutAtEquals (cs : List Char) : List Char × Option (List Char) :=
  let before := cs.takeWhile (· != '=')
  match cs.drop before.length with
  | _ :: after => (before, some after)
  | [] => (before, none)

/-- The flag of exactly this spelling. -/
def flagOf? (spelling : List Char) : Option Flag :=
  spelledFlags.lookup (String.ofList spelling)

/-- The flags that an argument with two dashes may abbreviate. -/
def abbreviated (start : List Char) : List (String × Flag) :=
  spelledFlags.filter fun (spelling, _) => start.isPrefixOf spelling.toList

/-- The argument that a text with dashes is, if it is no flag by a full spelling. -/
def classifyRest (text : String) : Except Complaint Argument :=
  let unmatched : Argument :=
    if isNegativeNumber text.toList || text.toList.contains ' ' then .plain text
    else .unknown text
  match text.toList with
  | '-' :: '-' :: _ =>
    let (start, value) := cutAtEquals text.toList
    match abbreviated start with
    | [] => .ok unmatched
    | [(_, flag)] => .ok (.flag flag false value)
    | candidates => .error (.ambiguous text (candidates.map (·.1)))
  | '-' :: c :: rest =>
    match flagOf? ['-', c] with
    | some flag => .ok (.flag flag true (some rest))
    | none => .ok unmatched
  | _ => .ok unmatched

/-- The argument that a text is, in front of any two dashes on their own. -/
def classify (text : String) : Except Complaint Argument :=
  match text.toList with
  | '-' :: c :: cs =>
    let short := c != '-'
    match flagOf? ('-' :: c :: cs), cutAtEquals ('-' :: c :: cs) with
    | some flag, _ => .ok (.flag flag short none)
    | none, (before, some value) =>
      match flagOf? before with
      | some flag => .ok (.flag flag short (some value))
      | none => classifyRest text
    | none, (_, none) => classifyRest text
  | _ => .ok (.plain text)

/-- The arguments that texts are. -/
def classifyAll : List String → Except Complaint (List Argument)
  | [] => .ok []
  | text :: texts =>
    if text = "--" then .ok (.divider :: texts.map .plain)
    else do
      let argument ← classify text
      return argument :: (← classifyAll texts)

/-- What the last of several flags in one argument needs. -/
inductive Ending where
  | valued (flag : Flag) (value : String)
  | bare (flag : Flag)
  deriving DecidableEq, Repr

/-- The flags of one argument: those without a value, then the last one. -/
structure Cluster where
  switches : List Flag
  ending : Ending
  deriving DecidableEq, Repr

/-- The flags of an argument with a short flag and the text attached to it: the value of the flag if
it takes one, otherwise the letters of more flags, the last of which may have a value in turn. -/
def shortCluster (flag : Flag) : List Char → Except Complaint Cluster
  | [] =>
    if flag.takesValue then .ok ⟨[], .valued flag ""⟩ else .error (.unusedValue flag "")
  | c :: cs =>
    if flag.takesValue then .ok ⟨[], .valued flag (String.ofList (c :: cs))⟩
    else
      match flagOf? ['-', c], cs with
      | none, cs => .error (.unusedValue flag (String.ofList (c :: cs)))
      | some next, [] => .ok ⟨[flag], .bare next⟩
      | some next, d :: cs => do
        let cluster ← shortCluster next (d :: cs)
        return ⟨flag :: cluster.switches, cluster.ending⟩

/-- The flags of an argument that is written as a flag. -/
def clusterOf (flag : Flag) (short : Bool) : Option (List Char) → Except Complaint Cluster
  | none => .ok ⟨[], .bare flag⟩
  | some attached =>
    if short then shortCluster flag attached
    else if flag.takesValue then .ok ⟨[], .valued flag (String.ofList attached)⟩
    else .error (.unusedValue flag (String.ofList attached))

/-- What has been taken from the arguments. The input stays open until a plain argument fills it. -/
structure Taken where
  options : Options
  inputOpen : Bool
  leftOver : List String

/-- The arguments after the last flag: the input may stand before or after two dashes. -/
def takeTail (taken : Taken) (arguments : List Argument) : Taken :=
  let leaving (rest : List Argument) (input : Option String) : Taken :=
    { taken with
      options := { taken.options with input },
      leftOver := taken.leftOver ++ rest.map Argument.text }
  if taken.inputOpen then
    match arguments with
    | .divider :: .plain text :: rest => leaving rest (some text)
    | .divider :: rest => leaving rest none
    | .plain text :: .divider :: rest => leaving rest (some text)
    | .plain text :: rest => leaving rest (some text)
    | rest => leaving rest none
  else leaving arguments taken.options.input

/-- The options after the flags of one argument, apart from a value that is yet to come. -/
def takeSwitches (options : Options) (switches : List Flag) : Except Stop Options :=
  switches.foldlM Options.switch options

/-- Takes the arguments in order. -/
def takeAll : Taken → List Argument → Except Stop Taken
  | taken, [] => .ok (takeTail taken [])
  | taken, argument :: rest =>
    if (argument :: rest).all fun a => !a.isFlag then .ok (takeTail taken (argument :: rest))
    else
      match argument with
      | .flag flag short attached =>
        match clusterOf flag short attached with
        | .error complaint => .error (.complaint complaint)
        | .ok cluster =>
          match cluster.ending with
          | .valued flag value => do
            let options ← takeSwitches taken.options cluster.switches
            takeAll { taken with options := ← options.assign flag value } rest
          | .bare flag =>
            if flag.takesValue then
              match rest with
              | .plain value :: rest => do
                let options ← takeSwitches taken.options cluster.switches
                takeAll { taken with options := ← options.assign flag value } rest
              | _ => .error (.complaint (.missingValue flag))
            else do
              let options ← takeSwitches taken.options (cluster.switches ++ [flag])
              takeAll { taken with options } rest
      | .plain text =>
        if taken.inputOpen then
          takeAll
            { taken with
              options := { taken.options with input := some text }, inputOpen := false }
            rest
        else takeAll { taken with leftOver := taken.leftOver ++ [text] } rest
      | argument => takeAll { taken with leftOver := taken.leftOver ++ [argument.text] } rest

/-- The options that the arguments of the program stand for. -/
def Options.ofArguments (texts : List String) : Except Stop Options := do
  let arguments ← (classifyAll texts).mapError Stop.complaint
  let taken ← takeAll ⟨{}, true, []⟩ arguments
  if taken.leftOver.isEmpty then return taken.options
  .error (.complaint (.unrecognized taken.leftOver))

end ElementMarkup.CommandLine
