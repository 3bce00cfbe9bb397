import ElementMarkup.Fault.Arguments
import ElementMarkup.Fault.Kind
import ElementMarkup.Fault.Template
import ElementMarkup.Text.Utf8

/-!
# Faults

Everything that can stop a compilation: a fault of a template, or one of its surroundings (the
configuration, the files, the source of the host program, the values passed in).
-/

namespace ElementMarkup

/-- What went wrong with a file. -/
inductive FileFault where
  | absent (path : String)
  | directory (path : String)
  | belowFile (path : String)
  deriving DecidableEq, Repr

/-- The message for a file. -/
def FileFault.message : FileFault → String
  | absent path => "[Errno 2] No such file or directory: " ++ Text.quotedString path
  | directory path => "[Errno 21] Is a directory: " ++ Text.quotedString path
  | belowFile path => "[Errno 20] Not a directory: " ++ Text.quotedString path

/-- The reason why bytes are not UTF-8, in words. -/
def Text.Utf8Reason.phrase : Text.Utf8Reason → String
  | invalidStart => "invalid start byte"
  | invalidContinuation => "invalid continuation byte"
  | unexpectedEnd => "unexpected end of data"

/-- The message for bytes that are not UTF-8. -/
def Text.Utf8Fault.message (f : Text.Utf8Fault) : String :=
  let place :=
    if f.width = 1 then
      "byte 0x" ++ String.ofList (Text.hexDigits 2 f.firstByte.toNat) ++ " in position " ++
        toString f.position
    else "bytes in position " ++ toString f.position ++ "-" ++ toString (f.position + f.width - 1)
  "'utf-8' codec can't decode " ++ place ++ ": " ++ f.reason.phrase

/-- What is wrong with the blanks in front of a line of a host program. A missing block is one that
should follow the definition on the given line. -/
inductive IndentFault where
  | unexpected
  | unmatched
  | missing (opener : Nat)
  | tooDeep
  | mixed
  deriving DecidableEq, Repr

/-- What is wrong with the blanks, in words. -/
def IndentFault.phrase : IndentFault → String
  | unexpected => "unexpected indent"
  | unmatched => "unindent does not match any outer indentation level"
  | missing opener =>
    "expected an indented block after function definition on line " ++ toString opener
  | tooDeep => "too many levels of indentation"
  | mixed => "inconsistent use of tabs and spaces in indentation"

/-- What is wrong with the source of a host program. A source may be refused for other reasons than
those that are told apart here, with or without a line at fault. -/
inductive HostFault where
  | nullCharacter
  | invalidSyntax (line : Nat)
  | strayCharacter (c : Char) (line : Nat)
  | strayBackslash (line : Nat)
  | earlyEnd (line : Nat)
  | indentation (fault : IndentFault) (line : Nat)
  | refused (reason : String) (line : Option Nat)
  deriving DecidableEq, Repr

namespace HostFault

/-- The fault of a backslash that continues no line, because of what follows it. -/
def ofBackslash (line : Nat) (rest : List Char) : HostFault :=
  if rest = [] ∨ rest = ['\n'] then earlyEnd line else strayBackslash line

/-- The line at fault, unless the source is refused as a whole. -/
def line? : HostFault → Option Nat
  | nullCharacter => none
  | invalidSyntax line => some line
  | strayCharacter _ line => some line
  | strayBackslash line => some line
  | earlyEnd line => some line
  | indentation _ line => some line
  | refused _ line => line

/-- The fault concerns how lines go on or are indented, not the words on them. -/
def isLayout : HostFault → Bool
  | strayBackslash _ => true
  | earlyEnd _ => true
  | indentation _ _ => true
  | _ => false

end HostFault

/-- The code point in capital hexadecimal digits, at least four of them. -/
def codePointLabel (c : Char) : String :=
  let digits := (Nat.toDigits 16 c.toNat).map Char.toUpper
  "U+" ++ String.ofList (List.replicate (4 - digits.length) '0' ++ digits)

/-- What is wrong, without the place. -/
def HostFault.phrase : HostFault → String
  | nullCharacter => "source code string cannot contain null bytes"
  | invalidSyntax _ => "invalid syntax"
  | strayCharacter c _ =>
    if Text.isPrintable c then
      "invalid character '" ++ String.singleton c ++ "' (" ++ codePointLabel c ++ ")"
    else "invalid non-printable character " ++ codePointLabel c
  | strayBackslash _ => "unexpected character after line continuation character"
  | earlyEnd _ => "unexpected EOF while parsing"
  | indentation fault _ => fault.phrase
  | refused reason _ => reason

/-- The message for the source of a host program in the given file, which is named without its
directory and only along with a line. -/
def HostFault.message (file : String) (f : HostFault) : String :=
  match f.line? with
  | none => f.phrase
  | some line =>
    let name := String.ofList ((Text.splitOn '/' file.toList).getLastD [])
    f.phrase ++ " (" ++ name ++ ", line " ++ toString line ++ ")"

/-- Anything that can stop a compilation. -/
inductive Fault where
  | template (fault : TemplateFault)
  | integerTooLong (digits : Nat)
  | invalidDepth (depth : Int)
  | invalidFactory (name : String)
  | notTemplate (caller : String)
  | unknownPath (path : String)
  | noTokens
  | missingArgument
  | notLowerable (kind : String)
  | backslashInField
  | undecodable (fault : Text.Utf8Fault)
  | file (fault : FileFault)
  | hostSyntax (file : String) (fault : HostFault)
  | missingInput
  | nullInPath
  | strayPart (kind : String)
  | noCharacter
  | wrongKind (fault : KindFault)
  | badArguments (fault : ArgumentFault)
  deriving DecidableEq, Repr

/-- The greatest number of digits of a whole number that is read or written. -/
def integerDigitLimit : Nat := 4300

/-- The message of a fault. -/
def Fault.message : Fault → String
  | template fault => fault.message
  | integerTooLong digits =>
    "Exceeds the limit (" ++ toString integerDigitLimit ++
      " digits) for integer string conversion: value has " ++ toString digits ++
      " digits; use sys.set_int_max_str_digits() to increase the limit"
  | invalidDepth depth => "max_depth must be at least 1, got " ++ toString depth
  | invalidFactory name => "factory must be a dotted name, got " ++ Text.quotedString name
  | notTemplate caller =>
    caller ++ "() expects a string.templatelib.Template or compatible object"
  | unknownPath path => path
  | noTokens => "list index out of range"
  | missingArgument => "tuple index out of range"
  | notLowerable kind => "Cannot lower " ++ kind ++ " to a Python expression"
  | backslashInField => "Unable to avoid backslash in f-string expression part"
  | undecodable fault => fault.message
  | file fault => fault.message
  | hostSyntax name fault => fault.message name
  | missingInput => "an input file is required"
  | nullInPath => "embedded null byte"
  | strayPart kind => "Unexpected node inside JoinedStr, " ++ kind
  | noCharacter => "chr() arg not in range(0x110000)"
  | wrongKind fault => fault.message
  | badArguments fault => fault.message

end ElementMarkup
