import ElementMarkup.CommandLine.Options

/-!
# Usage of the command line

The texts that describe how the program is called.
-/

namespace ElementMarkup.CommandLine

/-- The name of the program. -/
def programName : String := "pugtree"

/-- Lines of text, each with its end. -/
def textOfLines (lines : List String) : String :=
  String.join (lines.map fun line => line ++ "\n")

/-- How the program is called. -/
def usage : String :=
  textOfLines [
    "usage: pugtree [-h] [-o OUTPUT] [--factory NAME] [--strict] [--templates DIR]",
    "               [--max-depth N] [--list] [-v]",
    "               [input]"]

/-- How the program is called, with a description of the arguments. -/
def help : String :=
  usage ++ textOfLines [
    "",
    "Compile pug(...) markup templates in a Python file to element factory calls",
    "",
    "positional arguments:",
    "  input                 Input .py file",
    "",
    "options:",
    "  -h, --help            show this help message and exit",
    "  -o OUTPUT, --output OUTPUT",
    "                        Output file (default: stdout)",
    "  --factory NAME        Element factory to call (default: " ++ Defaults.factory ++ ")",
    "  --strict              Fail on placeholders without a matching interpolation",
    "  --templates DIR       Directory for include/extends targets (repeatable)",
    "  --max-depth N         Nesting limit for tags and includes (default: " ++
      toString Defaults.maxDepth ++ ")",
    "  --list                List the templates found under --templates and exit",
    "  -v, --verbose         Log pipeline stages to stderr"]

/-- The text for arguments that are wrong. -/
def Complaint.report (c : Complaint) : String :=
  usage ++ programName ++ ": error: " ++ c.message ++ "\n"

end ElementMarkup.CommandLine
