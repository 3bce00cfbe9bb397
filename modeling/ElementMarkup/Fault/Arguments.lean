import ElementMarkup.Text.Lines

/-!
# Arguments of faults

A tool can make a template fault by the name of its kind. The arguments are given by their places or
by their names, and have to fit the parameters of the kind.
-/

namespace ElementMarkup

/-- What is wrong with the arguments for a fault of the given kind. A count of arguments includes
the fault itself. -/
inductive ArgumentFault where
  | noNames (kind : String)
  | unexpected (kind name : String)
  | repeated (kind name : String)
  | tooMany (kind : String) (least most given : Nat)
  | missing (kind : String) (names : List String)
  deriving DecidableEq, Repr

namespace ArgumentFault

/-- Names between quotes, with the last of them set apart. -/
def enumeration (names : List String) : String :=
  match names.map fun name => "'" ++ name ++ "'" with
  | [first, second] => first ++ " and " ++ second
  | quoted =>
    match quoted.reverse with
    | last :: earlier@(_ :: _) => Text.joinStrings ", " earlier.reverse ++ ", and " ++ last
    | _ => Text.joinStrings ", " quoted

/-- The message for wrong arguments. -/
def message : ArgumentFault → String
  | noNames kind => kind ++ "() takes no keyword arguments"
  | unexpected kind name =>
    kind ++ ".__init__() got an unexpected keyword argument '" ++ name ++ "'"
  | repeated kind name => kind ++ ".__init__() got multiple values for argument '" ++ name ++ "'"
  | tooMany kind least most given =>
    let range := if least = most then toString most else
      "from " ++ toString least ++ " to " ++ toString most
    kind ++ ".__init__() takes " ++ range ++ " positional arguments but " ++ toString given ++
      " were given"
  | missing kind names =>
    kind ++ ".__init__() missing " ++ toString names.length ++ " required positional argument" ++
      (if names.length = 1 then "" else "s") ++ ": " ++ enumeration names

end ArgumentFault

/-- The parameters of a kind of fault: those that need an argument, and those that may have one. -/
structure Parameters where
  required : List String
  optional : List String
  deriving DecidableEq, Repr

namespace Parameters

/-- The parameters of a kind of fault. A kind that takes any arguments by place, and none by name,
has none. -/
def ofKind? : String → Option Parameters
  | "EmptyTemplateError" => some ⟨[], ["message"]⟩
  | "TemplateSyntaxError" =>
    some ⟨["message"], ["lineno", "name", "source", "col_offset", "suggestion"]⟩
  | "NoParseResultError" => some ⟨[], ["message"]⟩
  | "MultipleRootElementsError" => some ⟨["count"], []⟩
  | "UnsupportedNodeTypeError" => some ⟨["node_type"], []⟩
  | "UnmatchedPlaceholderError" => some ⟨["index", "available"], []⟩
  | "TemplateDepthError" => some ⟨["max_depth"], ["name"]⟩
  | "CircularTemplateError" => some ⟨["chain"], []⟩
  | _ => none

/-- The parameters in the order of their places. -/
def all (p : Parameters) : List String :=
  p.required ++ p.optional

/-- The parameters fit `count` arguments by place and others by name. Each of the names has to be
that of a parameter without an argument; then the count is looked at, and then what is missing. -/
def check (p : Parameters) (kind : String) (count : Nat) (names : List String) :
    Except ArgumentFault Unit := do
  for name in names do
    if !p.all.contains name then throw (.unexpected kind name)
    if (p.all.take count).contains name then throw (.repeated kind name)
  if p.all.length < count then
    throw (.tooMany kind (p.required.length + 1) (p.all.length + 1) (count + 1))
  let missing := (p.required.drop count).filter fun name => !names.contains name
  if !missing.isEmpty then throw (.missing kind missing)

/-- A fault of the given kind can be made from `count` arguments by place and others by name. -/
def checkKind (kind : String) (count : Nat) (names : List String) : Except ArgumentFault Unit :=
  match ofKind? kind with
  | some p => p.check kind count names
  | none => if names.isEmpty then .ok () else .error (.noNames kind)

end Parameters

end ElementMarkup
