import ElementMarkup.Host.Printer
import ElementMarkup.Host.Reader

/-!
# The host language

Templates are compiled in programs of any language that can be read into statements and written from
them again. `Language.core` is the part of the host language that is covered here.
-/

namespace ElementMarkup.Host

/-- A language of programs: how the source of a program is read, and how a program is written. -/
structure Language where
  read : String → Except HostFault Module
  write : Module → Except Fault String

/-- The part of the host language with assignments, expressions, function definitions and return
statements. -/
def Language.core : Language :=
  ⟨Module.ofSource, Module.source⟩

end ElementMarkup.Host
