import ElementMarkup.CommandLine.Run

/-!
# The program

The command line as a process: the files that the arguments name are read, the run is computed, and
its outcome is written.
-/

namespace ElementMarkup.CommandLine

/-- A directory entry for a path as text. -/
def directoryEntry (path : String) : IO.FS.DirEntry :=
  ⟨path, "."⟩

/-- The path of a place below the root. -/
def placeText (place : List String) : String :=
  "/" ++ Text.joinStrings "/" place

/-- The tree with what stands at a place, if anything does. -/
def addPlace (files : FileTree) (place : List String) : IO FileTree := do
  let path := placeText place
  try
    if ← (directoryEntry path).path.isDir then return files.insert place .directory
    return files.insert place (.file (← IO.FS.readBinFile path).toList)
  catch _ => return files

/-- The tree with all that stands below a place. -/
partial def addBelow (files : FileTree) (place : List String) : IO FileTree := do
  let files ← addPlace files place
  if files.entry? place != some .directory then return files
  try
    let entries ← (directoryEntry (placeText place)).path.readDir
    entries.foldlM (fun files entry => addBelow files (place ++ [entry.fileName])) files
  catch _ => return files

/-- The place of a path, with two dots leading to the parent. -/
def placeOf (home : List String) (path : Path) : List String :=
  path.parts.foldl (fun place part => if part = ".." then place.dropLast else place ++ [part])
    (if path.isAbsolute then [] else home)

/-- The tree with what stands at a path and at the directories on the way to it. -/
def addPath (files : FileTree) (path : Path) : IO FileTree :=
  let place := placeOf files.home path
  (List.range (place.length + 1)).foldlM (fun files n => addPlace files (place.take n)) files

/-- The files that the arguments name: the input, the place of the output and the templates. -/
def namedFiles (home : List String) (arguments : List String) : IO FileTree := do
  let files : FileTree := ⟨home, []⟩
  match Options.ofArguments arguments with
  | .error _ => return files
  | .ok options =>
    let paths := (pathOf? options.input).toList ++ (pathOf? options.output).toList
    let files ← paths.foldlM addPath files
    options.directories.foldlM (fun files path => addBelow files (placeOf home path)) files

end ElementMarkup.CommandLine

open ElementMarkup CommandLine in
/-- Runs the program. -/
def main (arguments : List String) : IO UInt32 := do
  let home := (Path.ofString (← IO.currentDir).toString).parts
  let files ← namedFiles home arguments
  let terminal ← (← IO.getStderr).isTty
  let colors := Terminal.useColors (← IO.getEnv "FORCE_COLOR") (← IO.getEnv "NO_COLOR") terminal
  let outcome := run colors arguments files
  IO.print outcome.stdout
  IO.eprint outcome.stderr
  match outcome.written with
  | some (path, content) => IO.FS.writeBinFile path.text ⟨content.toArray⟩
  | none => pure ()
  match outcome.exit with
  | .ok code => return UInt32.ofNat code
  | .error fault =>
    IO.eprintln fault.message
    return 1
