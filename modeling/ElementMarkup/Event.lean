import ElementMarkup.Fault

/-!
# Events

A compilation reports what it does. Events of the level `warning` are of interest to the author of
a template; the others trace the stages.
-/

namespace ElementMarkup

/-- How much an event matters. -/
inductive Level where
  | debug
  | warning
  deriving DecidableEq, Repr

/-- The part of the compiler that reports an event. -/
inductive Channel where
  | encoder
  | environment
  | composition
  | compiler
  | interpolation
  | transform
  deriving DecidableEq, Repr

/-- The name under which a part of the compiler reports. -/
def Channel.name : Channel → String
  | encoder => "pugtree.encoder"
  | environment => "pugtree.environment.core"
  | composition => "pugtree.composition"
  | compiler => "pugtree.compiler.core"
  | interpolation => "pugtree.compiler.interpolation"
  | transform => "pugtree.transform"

/-- Something that happened during a compilation. -/
inductive Event where
  | fragmentMismatch (fragments interpolations : Nat)
  | encoded (name : Option String) (fragments interpolations : Nat)
  | loading (target : String) (file : Option String) (parent : Option String)
  | resolvedExtends (path : Option String) (overrides : List String)
  | blockOverridden (name : String)
  | placeholderDropped (index available : Nat)
  | interpolationsUnused (name : Option String) (indices : List Nat)
  | compiled (name : Option String) (consumed supplied : Nat)
  | compilingCall (tag : String) (line : Nat)
  | transformed (count : Nat) (file : String)
  deriving DecidableEq, Repr

namespace Event

/-- How much an event matters. -/
def level : Event → Level
  | fragmentMismatch _ _ => .warning
  | placeholderDropped _ _ => .warning
  | interpolationsUnused _ _ => .warning
  | _ => .debug

/-- Where an event is reported. -/
def channel : Event → Channel
  | fragmentMismatch _ _ => .encoder
  | encoded _ _ _ => .environment
  | loading _ _ _ => .environment
  | resolvedExtends _ _ => .composition
  | blockOverridden _ => .compiler
  | placeholderDropped _ _ => .interpolation
  | interpolationsUnused _ _ => .environment
  | compiled _ _ _ => .environment
  | compilingCall _ _ => .transform
  | transformed _ _ => .transform

/-- The string, or another one if it is absent or empty. -/
def orElse (s : Option String) (other : String) : String :=
  match s with
  | some s => if s = "" then other else s
  | none => other

/-- The message of an event. -/
def message : Event → String
  | fragmentMismatch fragments interpolations =>
    "Expected " ++ toString (interpolations + 1) ++ " fragment(s) for " ++
      toString interpolations ++ " interpolation(s), got " ++ toString fragments
  | encoded name fragments interpolations =>
    "Encoded " ++ templateLabel name ++ ": " ++ toString fragments ++ " fragments, " ++
      toString interpolations ++ " interpolations"
  | loading target file parent =>
    "Loading " ++ target ++ " (" ++ orElse file "memory" ++ ") from " ++ templateLabel parent
  | resolvedExtends path overrides =>
    "Resolved extends " ++ orElse path "<tree>" ++ " with overrides: " ++
      orElse (some (Text.joinStrings ", " overrides)) "none"
  | blockOverridden name => "Block '" ++ name ++ "' overridden"
  | placeholderDropped index available =>
    "Dropping placeholder /~" ++ toString index ++ "~/: no unconsumed interpolation (" ++
      toString available ++ " supplied)"
  | interpolationsUnused name indices =>
    templateLabel name ++ ": " ++ toString indices.length ++ " interpolation(s) never used: " ++
      Text.joinStrings ", " (indices.map toString)
  | compiled name consumed supplied =>
    "Compiled " ++ templateLabel name ++ " (" ++ toString consumed ++ "/" ++ toString supplied ++
      " interpolations consumed)"
  | compilingCall tag line =>
    "Compiling " ++ tag ++ "() call at line " ++ toString line
  | transformed count file =>
    "Transformed " ++ toString count ++ " template(s) in " ++ file

end Event

/-- A computation that may fail and that keeps its state also when it fails. -/
abbrev Attempt (σ : Type) := ExceptT Fault (StateM σ)

/-- A computation that reports events and may fail. The events before a failure are kept. -/
abbrev Logged := Attempt (List Event)

/-- Reports an event. -/
def report (event : Event) : Logged Unit :=
  modify (· ++ [event])

/-- The outcome of a computation, and what it reported. -/
def Logged.outcome {α : Type} (action : Logged α) : Except Fault α × List Event :=
  action.run.run []

end ElementMarkup
