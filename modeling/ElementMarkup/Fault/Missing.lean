import ElementMarkup.Text.Lines
import ElementMarkup.Text.Similarity

/-!
# Templates that cannot be loaded

Why the target of an include or of an extends line was not found. Where the known names can be
listed, the message offers the closest of them or else the first few.
-/

namespace ElementMarkup

/-- The name of a template, or the word for one without a name. -/
def templateLabel (name : Option String) : String :=
  match name with
  | some name => if name = "" then "<template>" else name
  | none => "<template>"

/-- Where a template was sought. -/
inductive SearchPlace where
  | table
  | directories (paths : List String)
  | loaders (count : Nat)
  deriving DecidableEq, Repr

/-- The words for the place of a search. -/
def SearchPlace.phrase : SearchPlace → String
  | table => ""
  | directories paths => " in: " ++ Text.joinStrings ", " paths
  | loaders count => " in any of " ++ toString count ++ " loaders"

/-- Why a template was not found. -/
inductive Missing where
  | noLoaderAtLine (path : String) (parent : Option String) (line : Int)
  | noLoaderFrom (target : String) (parent : Option String)
  | noLoader (name : String)
  | outsideSearchPath (name : String)
  | unknownName (name : String) (place : SearchPlace) (known : List String)
  | unknownToFunction (name : String) (description : String)
  | other (message : String)
  deriving DecidableEq, Repr

/-- How many known names a message lists. -/
def listedNames : Nat := 10

/-- What a message says about the known names. -/
def knownNamesAdvice (name : String) (known : List String) : String :=
  match Text.closestName? name known with
  | some closest => ". Did you mean '" ++ closest ++ "'?"
  | none =>
    if known.isEmpty then ""
    else
      ". Available: " ++ Text.joinStrings ", " (known.take listedNames) ++
        (if listedNames < known.length then " ... (" ++ toString known.length ++ " total)" else "")

/-- The message for a template that was not found. -/
def Missing.message : Missing → String
  | noLoaderAtLine path parent line =>
    "Cannot load '" ++ path ++ "' from " ++ templateLabel parent ++ ":" ++ toString line ++
      ": no loader configured"
  | noLoaderFrom target parent =>
    "Cannot load '" ++ target ++ "' from " ++ templateLabel parent ++ ": no loader configured"
  | noLoader name => "Cannot load '" ++ name ++ "': no loader configured"
  | outsideSearchPath name => "Template '" ++ name ++ "' is outside the search path"
  | unknownName name place known =>
    "Template '" ++ name ++ "' not found" ++ place.phrase ++ knownNamesAdvice name known
  | unknownToFunction name description =>
    "Template '" ++ name ++ "' not found by " ++ description
  | other message => message

end ElementMarkup
