import ElementMarkup.Entries
import ElementMarkup.FileTree

/-!
# Loaders

A loader supplies the source of a template by its name: from a table, from directories, from a
function, or from the first of several loaders that has it. Loaders that can list their templates
help with names that are not found.
-/

namespace ElementMarkup

/-- The source of a template, and the file that it was read from, if any. -/
structure TemplateSource where
  text : String
  file : Option String
  deriving DecidableEq, Repr

/-- Where templates come from. An `unlisted` loader has no templates and cannot list them. -/
inductive Loader where
  | table (templates : Entries String)
  | directories (paths : List Path) (extensions : List String) (encoding : Text.Encoding)
  | function (description : String) (serve : String → Option TemplateSource)
  | unlisted
  | choice (loaders : List Loader)

/-- The strings in increasing order, each once. -/
def sortNames (names : List String) : List String :=
  (names.mergeSort fun a b => !(b < a)).eraseReps

namespace Loader

/-- A template name that leads out of the search path. -/
def isOutside (name : Path) : Bool :=
  name.isAbsolute || name.parts.contains ".."

/-- The first of the paths below which a file with the given parts stands, with its content. -/
def findFile (files : FileTree) (parts : List String) : List Path → Option (Path × List UInt8)
  | [] => none
  | base :: paths =>
    match files.file? (base.append parts) with
    | some content => some (base.append parts, content)
    | none => findFile files parts paths

/-- The names of the templates below a directory that have one of the extensions. -/
def namesBelow (files : FileTree) (extensions : List String) (base : Path) : List String :=
  match files.locate base with
  | .error _ => []
  | .ok place =>
    if files.entry? place = some .directory then
      (files.filesBelow place).filterMap fun parts =>
        if extensions.contains (Path.suffix (parts.getLastD "")) then
          some (Text.joinStrings "/" parts)
        else none
    else []

/-- The names of the templates below several directories. -/
def directoryNames (files : FileTree) (paths : List Path) (extensions : List String) :
    List String :=
  sortNames (paths.flatMap (namesBelow files extensions))

mutual

/-- The names of the templates of a loader. A loader that cannot list them has none to offer. -/
def names (files : FileTree) : Loader → List String
  | table templates => sortNames templates.keys
  | directories paths extensions _ => directoryNames files paths extensions
  | function _ _ => []
  | unlisted => []
  | choice loaders => sortNames (allNames files loaders)

/-- The names of the templates of several loaders. -/
def allNames (files : FileTree) : List Loader → List String
  | [] => []
  | loader :: loaders => names files loader ++ allNames files loaders

end

/-- The names of the templates of a loader that can list them. -/
def listing (files : FileTree) : Loader → Except Fault (List String)
  | function _ _ => .error (.wrongKind (.noMember "FunctionLoader" "list_templates"))
  | unlisted => .error (.wrongKind (.noMember "Loader" "list_templates"))
  | loader => .ok (loader.names files)

/-- The source of a template that stands in one of the directories. -/
def fetchFile (files : FileTree) (paths : List Path) (extensions : List String)
    (encoding : Text.Encoding) (name : String) : Except Fault TemplateSource :=
  let path := Path.ofString name
  if isOutside path then .error (.template (.notFound (.outsideSearchPath name)))
  else
    match findFile files path.parts paths with
    | some (found, content) =>
      match Text.decodeFile encoding content with
      | .ok cs => .ok ⟨String.ofList cs, some found.text⟩
      | .error fault => .error (.undecodable fault)
    | none =>
      .error (.template (.notFound (.unknownName name (.directories (paths.map Path.text))
        (directoryNames files paths extensions))))

mutual

/-- The source of the template with the given name. -/
def fetch (files : FileTree) (name : String) : Loader → Except Fault TemplateSource
  | table templates =>
    match templates.get? name with
    | some text => .ok ⟨text, none⟩
    | none =>
      .error (.template (.notFound (.unknownName name .table (sortNames templates.keys))))
  | directories paths extensions encoding => fetchFile files paths extensions encoding name
  | function description serve =>
    match serve name with
    | some source => .ok source
    | none => .error (.template (.notFound (.unknownToFunction name description)))
  | unlisted => .error (.template (.notFound (.other name)))
  | choice loaders => do
    match ← fetchFirst files name loaders with
    | some source => .ok source
    | none =>
      .error (.template (.notFound (.unknownName name (.loaders loaders.length)
        (sortNames (allNames files loaders)))))

/-- The source from the first loader that has the template. A fault other than its absence ends the
search. -/
def fetchFirst (files : FileTree) (name : String) :
    List Loader → Except Fault (Option TemplateSource)
  | [] => .ok none
  | loader :: loaders =>
    match fetch files name loader with
    | .ok source => .ok (some source)
    | .error (.template (.notFound _)) => fetchFirst files name loaders
    | .error fault => .error fault

end

end Loader

end ElementMarkup
