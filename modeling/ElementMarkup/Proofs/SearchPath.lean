import ElementMarkup.Environment
import ElementMarkup.Proofs.TemplateName

/-!
# Templates come from below the search path

A loader of directories reads files below its search path and no others. Which files are read is
said by what the outcome depends on: `FileTree.rewrite` puts other contents into the files of a
tree, and the outcome is the same as long as the one file that the template is read from keeps its
content. So a file that is not below the search path has no influence on a template, on the
templates that it includes, and so on. Main statement: `compile_below_search_path`.
-/

namespace ElementMarkup

/-! ## Other contents in the files of a tree -/

/-- The entry with another content, if it is a file. -/
def FileEntry.rewrite (change : List UInt8 → List UInt8) : FileEntry → FileEntry
  | file content => file (change content)
  | directory => directory

namespace FileTree

/-- The tree with other contents in its files. -/
def rewrite (change : List String → List UInt8 → List UInt8) (tree : FileTree) : FileTree :=
  { tree with entries := tree.entries.map fun entry => (entry.1, entry.2.rewrite (change entry.1)) }

variable (change : List String → List UInt8 → List UInt8) (tree : FileTree)

/-- Putting the same contents into the files changes nothing. -/
theorem rewrite_same : tree.rewrite (fun _ content => content) = tree := by
  have hentry (entry : FileEntry) : entry.rewrite (fun content => content) = entry := by
    cases entry <;> rfl
  unfold rewrite
  simp only [hentry, Prod.eta, List.map_id']

/-- What stands at a place is what stood there, with another content. -/
theorem entry?_rewrite (place : List String) :
    entry? (tree.rewrite change) place =
      FileEntry.rewrite (change place) <$> tree.entry? place := by
  have hlookup : (tree.rewrite change).entries.lookup place =
      (tree.entries.lookup place).map (FileEntry.rewrite (change place)) := by
    unfold rewrite
    dsimp only
    induction tree.entries with
    | nil => rfl
    | cons entry entries ih =>
        obtain ⟨other, entry⟩ := entry
        rw [List.map_cons, List.lookup_cons, List.lookup_cons, ih]
        cases hplace : place == other with
        | true => rw [eq_of_beq hplace]; rfl
        | false => rfl
  have hany : (tree.rewrite change).entries.any (fun entry => place.isPrefixOf entry.1) =
      tree.entries.any (fun entry => place.isPrefixOf entry.1) := by
    unfold rewrite
    rw [List.any_map]
    rfl
  unfold entry?
  rw [hlookup]
  cases tree.entries.lookup place with
  | some entry => rfl
  | none =>
      show (if place.isPrefixOf tree.home ||
        (tree.rewrite change).entries.any (fun entry => place.isPrefixOf entry.1) then _ else _) = _
      rw [hany]
      show _ = FileEntry.rewrite (change place) <$> (if place.isPrefixOf tree.home ||
        tree.entries.any (fun entry => place.isPrefixOf entry.1) then _ else _)
      split <;> rfl

/-- The way along a path does not depend on the contents of files. -/
theorem walk_rewrite (place parts : List String) :
    (tree.rewrite change).walk place parts = tree.walk place parts := by
  induction parts generalizing place with
  | nil => rfl
  | cons part parts ih =>
      rw [walk, walk, entry?_rewrite]
      cases tree.entry? place with
      | none => rfl
      | some entry =>
          cases entry with
          | file content => rfl
          | directory =>
              rw [ih, ih]
              rfl

/-- The place of a path does not depend on the contents of files. -/
theorem locate_rewrite (path : Path) : (tree.rewrite change).locate path = tree.locate path :=
  walk_rewrite change tree _ _

/-- The names of files do not depend on their contents. -/
theorem files_below_rewrite (place : List String) :
    (tree.rewrite change).filesBelow place = tree.filesBelow place := by
  unfold filesBelow rewrite
  rw [List.filterMap_map]
  congr 1
  funext entry
  obtain ⟨other, entry⟩ := entry
  cases entry <;> rfl

/-- There is a directory at a place whatever the contents of files are. -/
theorem entry?_rewrite_eq_directory (place : List String) :
    entry? (tree.rewrite change) place = some .directory ↔
      tree.entry? place = some .directory := by
  rw [entry?_rewrite]
  cases tree.entry? place with
  | none => simp
  | some entry => cases entry <;> simp [FileEntry.rewrite]

end FileTree

/-! ## Ways that lead down -/

/-- A part of a path that leads one step down. -/
def StepsDown (part : String) : Prop :=
  part ≠ ".." ∧ part ≠ "." ∧ part ≠ "" ∧ '/' ∉ part.toList

namespace FileTree

variable {tree : FileTree}

/-- The place is reached from the place of one of the paths by steps that lead down. -/
def IsBelow (tree : FileTree) (paths : List Path) (place : List String) : Prop :=
  ∃ base ∈ paths, ∃ start parts, tree.locate base = .ok start ∧ place = start ++ parts ∧
    ∀ part ∈ parts, StepsDown part

/-- A way in two pieces. -/
theorem walk_append (tree : FileTree) (place first second : List String) :
    tree.walk place (first ++ second) = (tree.walk place first).bind (tree.walk · second) := by
  induction first generalizing place with
  | nil => rfl
  | cons part first ih =>
      rw [List.cons_append, walk, walk]
      split
      · split <;> exact ih _
      · rfl
      · rfl

/-- A way that leads down ends below the place where it starts. -/
theorem eq_append_of_walk {place target parts : List String}
    (hdown : ∀ part ∈ parts, StepsDown part) (h : tree.walk place parts = .ok target) :
    target = place ++ parts := by
  induction parts generalizing place with
  | nil =>
      cases h
      exact (List.append_nil _).symm
  | cons part parts ih =>
      obtain ⟨hpart, hparts⟩ := List.forall_mem_cons.mp hdown
      rw [walk] at h
      split at h
      · rw [if_neg hpart.1] at h
        rw [ih hparts h, List.append_assoc, List.singleton_append]
      · cases h
      · cases h

/-- What lies below a path is found from the place of the path. -/
theorem exists_of_locate_append {base : Path} {parts place : List String}
    (hdown : ∀ part ∈ parts, StepsDown part) (h : tree.locate (base.append parts) = .ok place) :
    ∃ start, tree.locate base = .ok start ∧ place = start ++ parts := by
  have hwalk : tree.locate (base.append parts) = (tree.locate base).bind (tree.walk · parts) :=
    walk_append tree _ base.parts parts
  rw [hwalk] at h
  cases hbase : tree.locate base with
  | error obstacle =>
      rw [hbase] at h
      cases h
  | ok start =>
      rw [hbase] at h
      exact ⟨start, rfl, eq_append_of_walk hdown h⟩

/-- A file is read at its place, or there is none to be read, whatever the contents are. -/
theorem file?_rewrite (tree : FileTree) (path : Path) :
    (∃ place content, tree.locate path = .ok place ∧ tree.entry? place = some (.file content) ∧
      ∀ change, (tree.rewrite change).file? path = some (change place content)) ∨
    ∀ change, (tree.rewrite change).file? path = none := by
  unfold file? find?
  simp only [locate_rewrite]
  cases tree.locate path with
  | error obstacle => exact .inr fun _ => rfl
  | ok place =>
      simp only [entry?_rewrite]
      cases hentry : tree.entry? place with
      | none => exact .inr fun _ => rfl
      | some entry =>
          cases entry with
          | file content => exact .inl ⟨place, content, rfl, hentry, fun _ => rfl⟩
          | directory => exact .inr fun _ => rfl

end FileTree

/-! ## Loaders of directories -/

namespace Loader

/-- The parts of a name that is not refused lead down. -/
theorem steps_down_of_mem {name : String} (h : isOutside (Path.ofString name) = false)
    {part : String} (hpart : part ∈ (Path.ofString name).parts) : StepsDown part := by
  obtain ⟨-, hup⟩ := Bool.or_eq_false_iff.mp h
  refine ⟨?_, ?_⟩
  · rintro rfl
    rw [List.contains_iff_mem.mpr hpart] at hup
    cases hup
  · obtain ⟨cs, hcs, rfl⟩ := List.mem_map.mp hpart
    obtain ⟨hsplit, hkept⟩ := List.mem_filter.mp hcs
    obtain ⟨hempty, hdot⟩ := of_decide_eq_true hkept
    refine ⟨fun h => hdot ?_, fun h => hempty ?_, ?_⟩
    · simpa using congrArg String.toList h
    · simpa using congrArg String.toList h
    · rw [String.toList_ofList]
      exact Text.not_mem_of_mem_split_on hsplit

/-- A file is found below one of the paths, or there is none to be found, whatever the contents
are. -/
theorem find_file_rewrite (files : FileTree) {parts : List String}
    (hdown : ∀ part ∈ parts, StepsDown part) (paths : List Path) :
    (∃ base ∈ paths, ∃ start content, files.locate base = .ok start ∧
      files.entry? (start ++ parts) = some (.file content) ∧
      ∀ change, findFile (files.rewrite change) parts paths =
        some (base.append parts, change (start ++ parts) content)) ∨
    ∀ change, findFile (files.rewrite change) parts paths = none := by
  induction paths with
  | nil => exact .inr fun _ => rfl
  | cons base paths ih =>
      rcases files.file?_rewrite (base.append parts) with
        ⟨place, content, hplace, hentry, hfile⟩ | hnone
      · obtain ⟨start, hstart, rfl⟩ := FileTree.exists_of_locate_append hdown hplace
        refine .inl ⟨base, List.mem_cons_self, start, content, hstart, hentry, fun change => ?_⟩
        rw [findFile, hfile]
      · have hnext (change : List String → List UInt8 → List UInt8) :
            findFile (files.rewrite change) parts (base :: paths) =
              findFile (files.rewrite change) parts paths := by
          rw [findFile, hnone]
        simp only [hnext]
        rcases ih with ⟨found, hfound, hread⟩ | hmissing
        · exact .inl ⟨found, List.mem_cons_of_mem _ hfound, hread⟩
        · exact .inr hmissing

/-- The names of templates do not depend on what the templates contain. -/
theorem directory_names_rewrite (change : List String → List UInt8 → List UInt8) (files : FileTree)
    (paths : List Path) (extensions : List String) :
    directoryNames (files.rewrite change) paths extensions =
      directoryNames files paths extensions := by
  have hnames (base : Path) :
      namesBelow (files.rewrite change) extensions base = namesBelow files extensions base := by
    unfold namesBelow
    rw [FileTree.locate_rewrite]
    cases files.locate base with
    | error obstacle => rfl
    | ok place =>
        dsimp only
        simp only [FileTree.entry?_rewrite_eq_directory, FileTree.files_below_rewrite]
  unfold directoryNames
  rw [funext hnames]

/-- The source that a template has if it is read from a file. -/
def sourceOf (encoding : Text.Encoding) (path : Path) (content : List UInt8) :
    Except Fault TemplateSource :=
  match Text.decodeFile encoding content with
  | .ok cs => .ok ⟨String.ofList cs, some path.text⟩
  | .error fault => .error (.undecodable fault)

/-- A template is read from one file below one of the paths, or it is not found, whatever the
contents of files are. -/
theorem fetch_file_rewrite (files : FileTree) (paths : List Path) (extensions : List String)
    (encoding : Text.Encoding) (name : String) :
    (∃ base ∈ paths, ∃ start content,
      (∀ part ∈ (Path.ofString name).parts, StepsDown part) ∧ files.locate base = .ok start ∧
      files.entry? (start ++ (Path.ofString name).parts) = some (.file content) ∧
      ∀ change, fetchFile (files.rewrite change) paths extensions encoding name =
        sourceOf encoding (base.append (Path.ofString name).parts)
          (change (start ++ (Path.ofString name).parts) content)) ∨
    ∃ reason, ∀ change, fetchFile (files.rewrite change) paths extensions encoding name =
      .error (.template (.notFound reason)) := by
  unfold fetchFile
  dsimp only
  cases houtside : isOutside (Path.ofString name) with
  | true => exact .inr ⟨_, fun _ => rfl⟩
  | false =>
      have hdown : ∀ part ∈ (Path.ofString name).parts, StepsDown part :=
        fun _ => steps_down_of_mem houtside
      rcases find_file_rewrite files hdown paths with
        ⟨base, hbase, start, content, hstart, hentry, hfind⟩ | hnone
      · refine .inl ⟨base, hbase, start, content, hdown, hstart, hentry, fun change => ?_⟩
        rw [hfind change]
        rfl
      · simp only [hnone, directory_names_rewrite]
        exact .inr ⟨_, fun _ => rfl⟩

/-- A normal name is refused if it starts at the root or with double dots. -/
theorem is_outside_of_is_normal {name : String} (h : TemplateName.IsNormal name.toList) :
    isOutside (Path.ofString name) = true ↔ name.toList.head? = some '/' ∨
      (TemplateName.parts name.toList).head? = some ['.', '.'] := by
  obtain ⟨ups, rest, hparts, hrest, -⟩ := h.ups_first
  have hups : ".." ∈ (Path.ofString name).parts ↔
      (TemplateName.parts name.toList).head? = some ['.', '.'] := by
    rw [h.parts_of_string, hparts]
    cases ups with
    | zero =>
        rw [List.replicate_zero, List.nil_append]
        refine iff_of_false (fun hmem => hrest ?_) fun hhead => hrest (List.mem_of_mem_head? hhead)
        obtain ⟨part, hpart, hup⟩ := List.mem_map.mp hmem
        have hdots : part = ['.', '.'] := by simpa using congrArg String.toList hup
        exact hdots ▸ hpart
    | succ ups => exact iff_of_true List.mem_cons_self rfl
  rw [isOutside, Bool.or_eq_true, TemplateName.is_absolute_of_string, List.contains_iff_mem, hups]

/-! ## Loaders made of loaders -/

mutual

/-- The paths below which a loader looks for files. -/
def searchPaths : Loader → List Path
  | directories paths _ _ => paths
  | choice loaders => searchPathsOf loaders
  | table _ | function _ _ | unlisted => []

/-- The paths below which several loaders look for files. -/
def searchPathsOf : List Loader → List Path
  | [] => []
  | loader :: loaders => searchPaths loader ++ searchPathsOf loaders

end

mutual

/-- The names of the templates of a loader do not depend on what files contain. -/
theorem names_rewrite (change : List String → List UInt8 → List UInt8) (files : FileTree)
    (loader : Loader) : names (files.rewrite change) loader = names files loader := by
  match loader with
  | table _ | function _ _ | unlisted => rw [names, names]
  | directories paths extensions _ => rw [names, names, directory_names_rewrite]
  | choice loaders => rw [names, names, all_names_rewrite change files loaders]

/-- The names of the templates of several loaders do not depend on what files contain. -/
theorem all_names_rewrite (change : List String → List UInt8 → List UInt8) (files : FileTree)
    (loaders : List Loader) :
    allNames (files.rewrite change) loaders = allNames files loaders := by
  match loaders with
  | [] => rw [allNames, allNames]
  | loader :: loaders =>
      rw [allNames, allNames, names_rewrite change files loader,
        all_names_rewrite change files loaders]

end

/-- The files below the paths keep their contents. -/
def Keeps (change : List String → List UInt8 → List UInt8) (files : FileTree)
    (paths : List Path) : Prop :=
  ∀ place content, files.IsBelow paths place → change place content = content

/-- What keeps the files below several paths keeps those below some of them. -/
theorem Keeps.mono {change : List String → List UInt8 → List UInt8} {files : FileTree}
    {paths others : List Path} (h : Keeps change files paths) (hsub : others ⊆ paths) :
    Keeps change files others := by
  rintro place content ⟨base, hbase, hplace⟩
  exact h place content ⟨base, hsub hbase, hplace⟩

/-- A loader of directories fetches the same if the files below them keep their contents. -/
theorem fetch_file_of_keeps {change : List String → List UInt8 → List UInt8} {files : FileTree}
    {paths : List Path} (h : Keeps change files paths) (extensions : List String)
    (encoding : Text.Encoding) (name : String) :
    fetchFile (files.rewrite change) paths extensions encoding name =
      fetchFile files paths extensions encoding name := by
  have hsame := files.rewrite_same
  rcases fetch_file_rewrite files paths extensions encoding name with
    ⟨base, hbase, start, content, hdown, hstart, -, hread⟩ | ⟨reason, hmissing⟩
  · have hkept := h _ content ⟨base, hbase, start, _, hstart, rfl, hdown⟩
    have hnow := hread fun _ content => content
    rw [hsame] at hnow
    rw [hread, hnow, hkept]
  · have hnow := hmissing fun _ content => content
    rw [hsame] at hnow
    rw [hmissing, hnow]

mutual

/-- A loader fetches the same if the files below its search paths keep their contents. -/
theorem fetch_of_keeps {change : List String → List UInt8 → List UInt8} {files : FileTree}
    (name : String) (loader : Loader) (h : Keeps change files loader.searchPaths) :
    fetch (files.rewrite change) name loader = fetch files name loader := by
  match loader with
  | table _ | function _ _ | unlisted => rw [fetch, fetch]
  | directories paths extensions encoding =>
      rw [searchPaths] at h
      rw [fetch, fetch, fetch_file_of_keeps h]
  | choice loaders =>
      rw [searchPaths] at h
      rw [fetch, fetch, fetch_first_of_keeps name loaders h, all_names_rewrite]

/-- Several loaders fetch the same if the files below their search paths keep their contents. -/
theorem fetch_first_of_keeps {change : List String → List UInt8 → List UInt8} {files : FileTree}
    (name : String) (loaders : List Loader) (h : Keeps change files (searchPathsOf loaders)) :
    fetchFirst (files.rewrite change) name loaders = fetchFirst files name loaders := by
  match loaders with
  | [] => rw [fetchFirst, fetchFirst]
  | loader :: loaders =>
      rw [searchPathsOf] at h
      have hfirst := fetch_of_keeps name loader (h.mono (List.subset_append_left _ _))
      have hmore := fetch_first_of_keeps name loaders (h.mono (List.subset_append_right _ _))
      rw [fetchFirst, fetchFirst, hfirst, hmore]

end

end Loader

namespace Environment

/-- The environment with other contents in its files. -/
def rewrite (change : List String → List UInt8 → List UInt8) (env : Environment) : Environment :=
  { env with files := env.files.rewrite change }

/-- The paths below which templates are looked for. -/
def searchPaths (env : Environment) : List Path :=
  (env.loader.map Loader.searchPaths).getD []

section

variable {env : Environment} {change : List String → List UInt8 → List UInt8}
  (h : Loader.Keeps change env.files env.searchPaths)

include h

/-- The search paths are those of the loader. -/
theorem keeps_of_loader {loader : Loader} (hloader : env.loader = some loader) :
    Loader.Keeps change env.files loader.searchPaths := by
  unfold searchPaths at h
  rw [hloader] at h
  exact h

/-- The same templates are fetched if the files below the search paths keep their contents. -/
theorem fetch_for_rewrite : (env.rewrite change).fetchFor = env.fetchFor := by
  funext parent name
  unfold fetchFor rewrite
  cases hloader : env.loader with
  | none => rfl
  | some loader => exact Loader.fetch_of_keeps name loader (keeps_of_loader h hloader)

/-- The same templates are loaded if the files below the search paths keep their contents. -/
theorem parse_within_rewrite (room : Nat) :
    (env.rewrite change).parseWithin room = env.parseWithin room := by
  have hload : (env.rewrite change).load = env.load := by
    unfold load
    rw [fetch_for_rewrite h]
    rfl
  induction room with
  | zero =>
      funext stack name source
      rw [parseWithin, parseWithin, hload]
  | succ room ih =>
      funext stack name source
      rw [parseWithin, parseWithin, hload, ih]

/-- A template becomes the same if the files below the search paths keep their contents. -/
theorem compile_rewrite {ι : Type} (fragments : List String) (xs : List (CallTree ι))
    (name : Option String) :
    (env.rewrite change).compile fragments xs name = env.compile fragments xs name := by
  have hparse : (env.rewrite change).parse = env.parse := by
    funext source name
    unfold parse
    rw [parse_within_rewrite h]
    rfl
  unfold compile
  rw [hparse]
  rfl

/-- A template of the loader becomes the same if the files below the search paths keep their
contents. -/
theorem get_template_rewrite {ι : Type} (name : String) :
    (env.rewrite change).getTemplate name = (env.getTemplate name : Logged (CallTree ι)) := by
  have hfiles : (env.rewrite change).files = env.files.rewrite change := rfl
  have hsame : (env.rewrite change).loader = env.loader := rfl
  unfold getTemplate
  rw [hsame, hfiles]
  cases hloader : env.loader with
  | none => rfl
  | some loader =>
      dsimp only
      rw [Loader.fetch_of_keeps name loader (keeps_of_loader h hloader)]
      simp only [compile_rewrite h]

end

/-- Every file that a template comes from lies below the search path. The name that a path stands
for is normal; it starts at the root only if it is relative to a name that does; and it has the
parts that it has as the path of a file, so that it is refused if it starts at the root or with
double dots. A loader of directories reads a template from one file, which is one of its paths
followed by parts that lead down, and the source depends on the content of this file only; any
other name is not found, whatever the files contain. So what is compiled, with all templates that it
includes or extends, does not depend on files that are not below a search path. -/
theorem compile_below_search_path :
    (∀ (path : String) (parent : Option String),
      let name := TemplateName.resolve path parent
      TemplateName.IsNormal name.toList ∧
      (name.toList.head? = some '/' ↔
        (parent.getD "").toList.head? = some '/' ∧ path.toList.head? ≠ some '/') ∧
      (Path.ofString name).parts = (TemplateName.parts name.toList).map String.ofList ∧
      (Loader.isOutside (Path.ofString name) = true ↔ name.toList.head? = some '/' ∨
        (TemplateName.parts name.toList).head? = some ['.', '.'])) ∧
    (∀ (files : FileTree) (paths : List Path) (extensions : List String)
        (encoding : Text.Encoding) (name : String),
      let parts := (Path.ofString name).parts
      let fetched (change : List String → List UInt8 → List UInt8) : Except Fault TemplateSource :=
        Loader.fetch (files.rewrite change) name (.directories paths extensions encoding)
      (∃ base ∈ paths, ∃ start content, (∀ part ∈ parts, StepsDown part) ∧
        files.locate base = .ok start ∧ files.entry? (start ++ parts) = some (.file content) ∧
        ∀ change, fetched change =
          Loader.sourceOf encoding (base.append parts) (change (start ++ parts) content)) ∨
      ∃ reason, ∀ change, fetched change = .error (.template (.notFound reason))) ∧
    ∀ (ι : Type) (env : Environment) (change : List String → List UInt8 → List UInt8),
      (∀ place content, env.files.IsBelow env.searchPaths place → change place content = content) →
      (∀ (fragments : List String) (xs : List (CallTree ι)) (name : Option String),
        (env.rewrite change).compile fragments xs name = env.compile fragments xs name) ∧
      ∀ name : String,
        (env.rewrite change).getTemplate name = (env.getTemplate name : Logged (CallTree ι)) := by
  refine ⟨?_, ?_, ?_⟩
  · intro path parent name
    have hname : name.toList =
        TemplateName.resolveChars path.toList (parent.getD "").toList :=
      String.toList_ofList
    have hnormal : TemplateName.IsNormal name.toList :=
      hname ▸ TemplateName.is_normal_resolve_chars _ _
    refine ⟨hnormal, ?_, hnormal.parts_of_string, Loader.is_outside_of_is_normal hnormal⟩
    rw [hname]
    exact TemplateName.head?_resolve_chars _ _
  · intro files paths extensions encoding name parts fetched
    have hfetched : fetched =
        fun change => Loader.fetchFile (files.rewrite change) paths extensions encoding name :=
      funext fun change => by
        show Loader.fetch _ _ _ = _
        rw [Loader.fetch]
    rw [hfetched]
    exact Loader.fetch_file_rewrite files paths extensions encoding name
  · intro ι env change hchange
    exact ⟨fun fragments xs name => compile_rewrite hchange fragments xs name,
      fun name => get_template_rewrite hchange name⟩

/-- A template outside the search path, which the line `include ../etc/b` of a template on the
search path asks for, has no influence. -/
theorem compile_below_search_path_outside :
    let paths : List Path := [⟨1, ["srv"]⟩]
    let env : Environment := { default with
      loader := some (.choice [.directories paths [".pug"] .utf8])
      files := ⟨["home"], [(["etc", "b.pug"], .file [112]), (["srv", "a.pug"], .file
        [105, 110, 99, 108, 117, 100, 101, 32, 46, 46, 47, 101, 116, 99, 47, 98])]⟩ }
    let erase (place : List String) (content : List UInt8) : List UInt8 :=
      if place = ["etc", "b.pug"] then [] else content
    (∀ place content, env.files.IsBelow env.searchPaths place → erase place content = content) ∧
    FileTree.entry? (env.rewrite erase).files ["etc", "b.pug"] ≠
      env.files.entry? ["etc", "b.pug"] ∧
    (env.rewrite erase).getTemplate "a.pug" =
      (env.getTemplate "a.pug" : Logged (CallTree Nat)) := by
  intro paths env erase
  have herase : ∀ place content, env.files.IsBelow env.searchPaths place →
      erase place content = content := by
    rintro place content ⟨base, hbase, start, parts, hstart, rfl, -⟩
    obtain rfl := List.mem_singleton.mp hbase
    have hsrv : start = ["srv"] := by
      cases hstart
      rfl
    rw [hsrv]
    rfl
  refine ⟨herase, by decide, ?_⟩
  exact (compile_below_search_path.2.2 Nat env erase herase).2 "a.pug"

end Environment

end ElementMarkup
