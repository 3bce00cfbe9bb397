import ElementMarkup.Proofs.FileWrites
import ElementMarkup.Proofs.ReportedPrograms

/-!
# Runs of the program

A run reports what goes wrong by its exit code, and a run that fails leaves all files as they were.
The exception is an output file that cannot be written: its fault takes the place of the exit code
(`Options.Escapes`). Main statement: `run_reports_failures`. It is about programs of every language
that is read and written as `Host.Language.Lawful` says. Read `Conclusion` first: it lists what a
run can come to, and what is said of runs is said of its cases.
-/

namespace ElementMarkup

open Attempt

/-- A file that cannot be read is reported. -/
theorem FileTree.is_reported_of_read {files : FileTree} {path : Path} {fault : Fault}
    (h : files.read path = .error fault) : fault.IsReported := by
  unfold read at h
  dsimp only at h
  split at h
  · cases h
    rfl
  · split at h
    · rename_i obstacle _
      cases h
      cases obstacle <;> rfl
    · split at h
      · cases h
      · cases h
        rfl
      · cases h
        rfl

namespace CommandLine

/-- The files after a run. -/
def Outcome.filesAfter (outcome : Outcome) (files : FileTree) : FileTree :=
  match outcome.written with
  | none => files
  | some (path, content) => (files.write path content).toOption.getD files

/-- What is put out for a source: the source and a line end. -/
def outputBytes (source : String) : List UInt8 :=
  (source ++ "\n").toUTF8.toList

namespace Options

variable (options : Options) (host : Host.Language) (files : FileTree)

/-- The input file stands at the path and holds the text. -/
def HasInput (path : Path) (text : List Char) : Prop :=
  pathOf? options.input = some path ∧
    ∃ bytes, files.read path = .ok bytes ∧ Text.decodeFile .utf8 bytes = .ok text

/-- The program in the input file becomes the source when its templates are compiled. -/
def Compiles (source : String) : Prop :=
  ∃ path text env events, options.HasInput files path text ∧
    options.environment files = .ok env ∧
    Yields (host.transformSource env path.text (String.ofList text)) [] source events

/-- The input compiles, but the source cannot be written to the output file. -/
def Escapes (fault : Fault) : Prop :=
  options.list = false ∧ ∃ source path, options.Compiles host files source ∧
    pathOf? options.output = some path ∧ files.write path (outputBytes source) = .error fault

variable {options host files}

/-! ## Compiling the input -/

/-- The text of the input file is what is compiled. -/
theorem compile_input_of_has_input {path : Path} {text : List Char}
    (h : options.HasInput files path text) :
    options.compileInput host files = (do
      let env ← liftExcept (options.environment files)
      host.transformSource env path.text (String.ofList text)) := by
  obtain ⟨hpath, bytes, hread, htext⟩ := h
  unfold compileInput
  rw [hpath]
  dsimp only
  rw [hread, lift_except_ok_bind, htext]
  exact lift_except_ok_bind _ _

variable (host) in
/-- Without an input file that can be read there is a fault that is reported. -/
theorem compile_input_of_not_has_input (h : ∀ path text, ¬ options.HasInput files path text) :
    ∃ fault : Fault, fault.IsReported ∧ options.compileInput host files = throw fault := by
  unfold compileInput
  cases hpath : pathOf? options.input with
  | none => exact ⟨.missingInput, rfl, rfl⟩
  | some path =>
      dsimp only
      cases hread : files.read path with
      | error fault => exact ⟨fault, FileTree.is_reported_of_read hread, rfl⟩
      | ok bytes =>
          rw [lift_except_ok_bind]
          cases htext : Text.decodeFile .utf8 bytes with
          | error fault => exact ⟨.undecodable fault, rfl, rfl⟩
          | ok text => exact absurd ⟨hpath, bytes, hread, htext⟩ (h path text)

/-- The options of an environment that are not valid are reported. -/
theorem is_reported_of_environment {fault : Fault} (h : options.environment files = .error fault) :
    fault.IsReported := by
  dsimp only [environment, Environment.make] at h
  split at h
  · split at h
    · cases h
    · cases h
      rfl
  · cases h
    rfl

/-- The input compiles to a source exactly if the attempt to compile it succeeds with it. -/
theorem exists_yields_compile_input_iff {source : String} :
    (∃ events, Yields (options.compileInput host files) [] source events) ↔
      options.Compiles host files source := by
  constructor
  · rintro ⟨events, hyields⟩
    by_cases hinput : ∃ path text, options.HasInput files path text
    · obtain ⟨path, text, hinput⟩ := hinput
      rw [compile_input_of_has_input hinput] at hyields
      obtain ⟨env, _, hlift, htransform⟩ := yields_bind.mp hyields
      obtain ⟨henv, rfl⟩ := yields_lift_except.mp hlift
      exact ⟨path, text, env, events, hinput, henv, htransform⟩
    · obtain ⟨fault, -, hthrow⟩ := compile_input_of_not_has_input host
        fun path text hhas => hinput ⟨path, text, hhas⟩
      rw [hthrow] at hyields
      exact absurd hyields not_yields_throw
  · rintro ⟨path, text, env, events, hinput, henv, htransform⟩
    refine ⟨events, ?_⟩
    rw [compile_input_of_has_input hinput, henv]
    exact htransform

/-- What goes wrong with the input is reported. -/
theorem is_reported_of_compile_input (hhost : host.Lawful) {fault : Fault} {events : List Event}
    (h : Fails (options.compileInput host files) [] fault events) : fault.IsReported := by
  by_cases hinput : ∃ path text, options.HasInput files path text
  · obtain ⟨path, text, hinput⟩ := hinput
    rw [compile_input_of_has_input hinput] at h
    rcases fails_bind.mp h with h | ⟨env, _, _, h⟩
    · exact is_reported_of_environment (fails_lift_except.mp h).1
    · exact (Host.ends_transform_source hhost env _ _).fault _ fault events h
  · obtain ⟨other, hreported, hthrow⟩ := compile_input_of_not_has_input host
      fun path text hhas => hinput ⟨path, text, hhas⟩
    rw [hthrow] at h
    obtain ⟨rfl, -⟩ := fails_throw.mp h
    exact hreported

/-! ## Runs -/

variable (options host files) in
/-- What a run with the given options can come to. -/
inductive Conclusion : Outcome → Prop where
  | listed {code : Nat} {stdout stderr : String} : options.list = true → code ≤ 2 →
      Conclusion ⟨.ok code, stdout, stderr, none⟩
  | printed {source log : String} : options.list = false → options.Compiles host files source →
      pathOf? options.output = none → Conclusion ⟨.ok 0, source ++ "\n", log, none⟩
  | written {source log : String} {path : Path} {after : FileTree} : options.list = false →
      options.Compiles host files source → pathOf? options.output = some path →
      files.write path (outputBytes source) = .ok after →
      Conclusion ⟨.ok 0, "", log, some (path, outputBytes source)⟩
  | unwritable {source log : String} {path : Path} {fault : Fault} : options.list = false →
      options.Compiles host files source → pathOf? options.output = some path →
      files.write path (outputBytes source) = .error fault →
      Conclusion ⟨.error fault, "", log, none⟩
  | reported {fault : Fault} {code : Nat} {stderr : String} : options.list = false →
      (∀ source, ¬ options.Compiles host files source) → exitCode? fault = some code →
      Conclusion ⟨.ok code, "", stderr, none⟩

/-- What a run that compiles comes to. -/
theorem conclusion_compile_run (hhost : host.Lawful) (colors : Bool)
    (hlist : options.list = false) :
    options.Conclusion host files (compileRun host colors options files) := by
  rcases yields_or_fails (options.compileInput host files) [] with
    ⟨source, events, hyields⟩ | ⟨fault, events, hfails⟩
  · have hcompiles := exists_yields_compile_input_iff.mp ⟨events, hyields⟩
    have houtcome : (options.compileInput host files).outcome = (.ok source, events) := hyields
    unfold compileRun
    rw [houtcome]
    cases houtput : pathOf? options.output with
    | none => exact .printed hlist hcompiles houtput
    | some path =>
        dsimp only
        cases hwrite : files.write path (source ++ "\n").toUTF8.toList with
        | ok after => exact .written hlist hcompiles houtput hwrite
        | error fault => exact .unwritable hlist hcompiles houtput hwrite
  · have hnone (source : String) : ¬ options.Compiles host files source := by
      intro hcompiles
      obtain ⟨_, hyields⟩ := exists_yields_compile_input_iff.mpr hcompiles
      exact not_fails_of_yields hyields hfails
    have houtcome : (options.compileInput host files).outcome = (.error fault, events) := hfails
    obtain ⟨code, hcode⟩ :=
      Option.isSome_iff_exists.mp (is_reported_of_compile_input hhost hfails)
    unfold compileRun
    rw [houtcome]
    dsimp only
    rw [failedRun, hcode]
    exact .reported hlist hnone hcode

end Options

variable {options : Options} {host : Host.Language} {files : FileTree} {arguments : List String}

/-- A run that is not to list templates compiles. -/
theorem run_for_of_list_eq_false (colors : Bool) (h : Options.ofArguments arguments = .ok options)
    (hlist : options.list = false) :
    runFor host colors arguments files = compileRun host colors options files := by
  unfold runFor
  rw [h]
  dsimp only
  rw [hlist, if_neg nofun]

/-- A run with valid arguments comes to one of the conclusions. -/
theorem conclusion_run_for (hhost : host.Lawful) (colors : Bool)
    (h : Options.ofArguments arguments = .ok options) (files : FileTree) :
    options.Conclusion host files (runFor host colors arguments files) := by
  cases hlist : options.list with
  | true =>
      unfold runFor
      rw [h]
      dsimp only
      rw [hlist, if_pos rfl, listRun]
      split
      · exact .listed hlist le_rfl
      · exact .listed hlist (Nat.zero_le 2)
  | false =>
      rw [run_for_of_list_eq_false colors h hlist]
      exact Options.conclusion_compile_run hhost colors hlist

/-- If the output file cannot be written, the fault takes the place of the exit code. -/
theorem exit_of_escapes (colors : Bool) (h : Options.ofArguments arguments = .ok options)
    {fault : Fault} (hescapes : options.Escapes host files fault) :
    (runFor host colors arguments files).exit = .error fault := by
  obtain ⟨hlist, source, path, hcompiles, houtput, hwrite⟩ := hescapes
  obtain ⟨events, hyields⟩ := Options.exists_yields_compile_input_iff.mpr hcompiles
  have houtcome : (options.compileInput host files).outcome = (.ok source, events) := hyields
  rw [run_for_of_list_eq_false colors h hlist, compileRun, houtcome, houtput]
  dsimp only
  rw [show files.write path (source ++ "\n").toUTF8.toList = .error fault from hwrite]

/-- The exit code for a fault is one or two. -/
theorem exit_code?_cases {fault : Fault} {code : Nat} (h : exitCode? fault = some code) :
    code = 1 ∨ code = 2 := by
  cases fault <;> cases h
  all_goals decide

namespace Options.Conclusion

variable {outcome : Outcome} (h : options.Conclusion host files outcome)

include h

/-- A fault in place of the exit code is that of an output file that cannot be written. -/
theorem escapes {fault : Fault} (hexit : outcome.exit = .error fault) :
    options.Escapes host files fault := by
  cases h with
  | unwritable hlist hcompiles houtput hwrite =>
      cases hexit
      exact ⟨hlist, _, _, hcompiles, houtput, hwrite⟩
  | listed | printed | written | reported => cases hexit

/-- The exit code is at most two, and zero exactly if the input compiles. -/
theorem code {code : Nat} (hexit : outcome.exit = .ok code) :
    code ≤ 2 ∧
      (options.list = false → (code = 0 ↔ ∃ source, options.Compiles host files source)) := by
  cases h with
  | listed hlist hcode =>
      cases hexit
      refine ⟨hcode, fun hfalse => ?_⟩
      rw [hlist] at hfalse
      cases hfalse
  | printed _ hcompiles | written _ hcompiles =>
      cases hexit
      exact ⟨Nat.zero_le 2, fun _ => iff_of_true rfl ⟨_, hcompiles⟩⟩
  | reported _ hnone hcode =>
      cases hexit
      have hne : code ≠ 0 ∧ code ≤ 2 := by
        rcases exit_code?_cases hcode with rfl | rfl <;> decide
      exact ⟨hne.2, fun _ => iff_of_false hne.1 (not_exists.mpr hnone)⟩
  | unwritable => cases hexit

/-- Only a run that exits with zero and compiles changes a file. -/
theorem files_after_eq (hexit : outcome.exit ≠ .ok 0 ∨ options.list = true) :
    outcome.filesAfter files = files := by
  cases h with
  | written hlist =>
      rcases hexit with hexit | hlist'
      · exact absurd rfl hexit
      · rw [hlist] at hlist'
        cases hlist'
  | listed | printed | unwritable | reported => rfl

/-- A run that exits with zero puts out the compiled source, and only where it should. -/
theorem delivered (hexit : outcome.exit = .ok 0) (hcompile : options.list = false) :
    ∃ source, options.Compiles host files source ∧
      (pathOf? options.output = none →
        outcome.stdout = source ++ "\n" ∧ outcome.filesAfter files = files) ∧
      ∀ path, pathOf? options.output = some path →
        (outcome.filesAfter files).read path = .ok (outputBytes source) ∧
        ∀ place, files.locate path ≠ .ok place →
          FileTree.entry? (outcome.filesAfter files) place = files.entry? place := by
  cases h with
  | listed hlist =>
      rw [hlist] at hcompile
      cases hcompile
  | @printed source _ _ hcompiles houtput =>
      refine ⟨source, hcompiles, fun _ => ⟨rfl, rfl⟩, fun path hpath => ?_⟩
      cases houtput.symm.trans hpath
  | @written source log path after _ hcompiles houtput hwrite =>
      refine ⟨source, hcompiles, fun hnone => ?_, fun other hother => ?_⟩
      · cases houtput.symm.trans hnone
      · cases houtput.symm.trans hother
        have hafter : Outcome.filesAfter ⟨.ok 0, "", log, some (path, outputBytes source)⟩ files =
            after := by
          unfold Outcome.filesAfter
          dsimp only
          rw [hwrite]
          rfl
        rw [hafter]
        exact FileTree.read_of_write hwrite
  | reported _ _ hcode =>
      cases hexit
      rcases exit_code?_cases hcode with hzero | hzero <;> cases hzero
  | unwritable => cases hexit

end Options.Conclusion

end CommandLine

end ElementMarkup
