import ElementMarkup.CommandLine.Arguments
import ElementMarkup.CommandLine.Usage
import ElementMarkup.Host.Transform

/-!
# Running the program

A run takes the arguments and the files, and yields the exit code, the two output streams and the
file that is written.
-/

namespace ElementMarkup.CommandLine

/-- What a run yields. If the output file cannot be written, there is a fault in place of an exit
code. -/
structure Outcome where
  exit : Except Fault Nat
  stdout : String := ""
  stderr : String := ""
  written : Option (Path × List UInt8) := none

/-- The extension of templates in directories. -/
def templateExtension : String := ".pug"

/-- The directories of templates. -/
def Options.directories (options : Options) : List Path :=
  options.templates.map Path.ofString

/-- The loader for directories of templates. -/
def directoryLoader (directories : List Path) : Loader :=
  .directories directories [templateExtension] .utf8

/-- The path that a text names; an empty text names none. -/
def pathOf? (text : Option String) : Option Path :=
  (text.filter (· ≠ "")).map Path.ofString

/-- The environment that the options describe. -/
def Options.environment (options : Options) (files : FileTree) : Except Fault Environment :=
  let directories := options.directories
  let loader := if directories.isEmpty then none else some (directoryLoader directories)
  Environment.make loader files options.factory Defaults.propertyNames options.strict
    options.maxDepth

/-- The source of the input file with its templates compiled. The input is read before the options
are looked at. -/
def Options.compileInput (options : Options) (host : Host.Language) (files : FileTree) :
    Logged String := do
  match pathOf? options.input with
  | none => throw .missingInput
  | some path =>
    let bytes ← liftExcept (files.read path)
    let source ← liftExcept ((Text.decodeFile .utf8 bytes).mapError Fault.undecodable)
    let env ← liftExcept (options.environment files)
    host.transformSource env path.text (String.ofList source)

/-- The line for an event: all events with their channels if asked for, otherwise warnings only. -/
def eventLine? (verbose : Bool) (event : Event) : Option String :=
  if verbose then some (event.channel.name ++ ": " ++ event.message)
  else if event.level = .warning then some event.message
  else none

/-- The lines for events, in order. -/
def eventText (verbose : Bool) (events : List Event) : String :=
  textOfLines (events.filterMap (eventLine? verbose))

/-- The exit code for a fault that is reported: one if it concerns a template, and two if it
concerns a file, the program that is read and written, or the configuration. Any other fault, such
as a value of the wrong kind, is not reported. -/
def exitCode? : Fault → Option Nat
  | .template _ => some 1
  | .integerTooLong _ => some 2
  | .invalidDepth _ => some 2
  | .invalidFactory _ => some 2
  | .backslashInField => some 2
  | .undecodable _ => some 2
  | .file _ => some 2
  | .hostSyntax _ _ => some 2
  | .missingInput => some 2
  | .nullInPath => some 2
  | .strayPart _ => some 2
  | .noCharacter => some 2
  | _ => none

/-- The report of a fault: those of templates are reported in full. -/
def faultText (colors : Bool) : Fault → String
  | .template fault => fault.report colors
  | fault => "error: " ++ fault.message

/-- The run that ends with a fault. -/
def failedRun (colors : Bool) (log : String) (fault : Fault) : Outcome :=
  match exitCode? fault with
  | some code => ⟨.ok code, "", log ++ faultText colors fault ++ "\n", none⟩
  | none => ⟨.error fault, "", log, none⟩

/-- The run that compiles the input file. -/
def compileRun (host : Host.Language) (colors : Bool) (options : Options) (files : FileTree) :
    Outcome :=
  let (result, events) := (options.compileInput host files).outcome
  let log := eventText options.verbose events
  match result with
  | .error fault => failedRun colors log fault
  | .ok source =>
    let output := source ++ "\n"
    match pathOf? options.output with
    | none => ⟨.ok 0, output, log, none⟩
    | some path =>
      let bytes := output.toUTF8.toList
      match files.write path bytes with
      | .ok _ => ⟨.ok 0, "", log, some (path, bytes)⟩
      | .error fault => ⟨.error fault, "", log, none⟩

/-- The run that lists the templates in the directories. -/
def listRun (directories : List Path) (files : FileTree) : Outcome :=
  if directories.isEmpty then
    ⟨.ok 2, "", "error: --list needs at least one --templates directory\n", none⟩
  else ⟨.ok 0, textOfLines ((directoryLoader directories).names files), "", none⟩

/-- The run of the program for a host language with the given arguments and files. -/
def runFor (host : Host.Language) (colors : Bool) (arguments : List String) (files : FileTree) :
    Outcome :=
  match Options.ofArguments arguments with
  | .error .help => ⟨.ok 0, help, "", none⟩
  | .error (.complaint complaint) => ⟨.ok 2, "", complaint.report, none⟩
  | .ok options =>
    if options.list then listRun options.directories files
    else compileRun host colors options files

/-- The run of the program for the language at hand. -/
def run (colors : Bool) (arguments : List String) (files : FileTree) : Outcome :=
  runFor .core colors arguments files

end ElementMarkup.CommandLine
