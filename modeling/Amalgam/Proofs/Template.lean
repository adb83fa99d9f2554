import Amalgam.CommandLine.Run
import Amalgam.Proofs.Acceptance
import Amalgam.Proofs.Discovery
import Amalgam.Proofs.Encoding

namespace Amalgam

namespace Settings

variable {files : FileSystem} {home : Option Path} {start path : Path}

theorem fileName_isName : Segment.IsName fileName.toList := by decide

theorem template_eq_defaults : (Toml.parse? template).bind ofEntries? = some {} := by
  rw [Toml.parse?, template, String.toList_ofList]
  decide +kernel

theorem parse_template (path : Path) : parse path template = .ok {} := by
  exact parse_eq_ok_iff.mpr ⟨template_eq_defaults, by decide⟩

theorem readFile_of_read {text : String} (found : files.read path = .ok (Bytes.ofString text)) :
    readFile files path = parse path text := by
  simp only [readFile, found, Bytes.toString?_ofString]

theorem discover_of_isFile (found : files.isFile (fileIn start) = true) :
    discover files home start = .ok (some (fileIn start)) :=
  discover_of_above rfl found fun m before => absurd before (Nat.not_lt_zero m)

theorem load_of_isFile (found : files.isFile (fileIn start) = true) : load files home start none =
    ([.loadingSettings (fileIn start)],
      (readFile files (fileIn start)).map fun settings => ⟨settings, some (fileIn start)⟩) := by
  rw [load, discover_of_isFile found]

end Settings

namespace CommandLine

variable {files : FileSystem} {force : Bool}

/-- Where the template goes. -/
def templatePlace (files : FileSystem) : Location :=
  files.workingDirectory ++ [Settings.fileName.toList]

/-- There is a place for the template: nothing, or a file that may be replaced. -/
structure TemplateFits (files : FileSystem) (force : Bool) : Prop where
  inside : files.get? files.workingDirectory = some .directory
  noDirectory : files.get? (templatePlace files) ≠ some .directory
  free : force = false → files.get? (templatePlace files) = none

theorem exists?_template :
    files.exists? (.ofString Settings.fileName) = true ↔
      files.get? files.workingDirectory = some .directory ∧ (files.get? (templatePlace files)).isSome := by
  unfold FileSystem.exists?
  cases found : files.locate (.ofString Settings.fileName) with
  | error cause =>
    have nowhere : files.get? files.workingDirectory ≠ some .directory := by
      intro inside
      have place := (FileSystem.locate_name_iff Settings.fileName_isName).mpr ⟨inside, rfl⟩
      cases found.symm.trans place
    simp [nowhere]
  | ok location =>
    obtain ⟨inside, rfl⟩ := (FileSystem.locate_name_iff Settings.fileName_isName).mp found
    simp [inside, templatePlace]

theorem writeTemplate_of_fits (fits : TemplateFits files force) :
    (writeTemplate files force).code = 0 ∧
      (writeTemplate files force).files =
        files.set (templatePlace files) (.file (Bytes.ofString Settings.template)) := by
  have target : files.target (.ofString Settings.fileName) = .ok (templatePlace files) :=
    (FileSystem.target_name_iff Settings.fileName_isName).mpr ⟨fits.inside, rfl, fits.noDirectory⟩
  have allowed : (files.exists? (.ofString Settings.fileName) && !force) = false := by
    cases force with
    | true => exact Bool.and_false _
    | false =>
      have absent := fits.free rfl
      have missing : ¬ files.exists? (.ofString Settings.fileName) = true := by
        simp [exists?_template, absent]
      simpa using missing
  simp only [writeTemplate, allowed, FileSystem.write, target, Except.map, Bool.false_eq_true, if_false, and_self]

theorem writeTemplate_of_not_fits (unfit : ¬ TemplateFits files force) :
    (writeTemplate files force).code = 1 ∧ (writeTemplate files force).files = files := by
  unfold writeTemplate
  cases allowed : files.exists? (.ofString Settings.fileName) && !force with
  | true => simp only [allowed, if_true, and_self]
  | false =>
    cases written : files.target (.ofString Settings.fileName) with
    | error cause =>
      simp only [allowed, FileSystem.write, written, Except.map, Bool.false_eq_true, if_false, and_self]
    | ok location =>
      obtain ⟨inside, rfl, noDirectory⟩ := (FileSystem.target_name_iff Settings.fileName_isName).mp written
      refine absurd ⟨inside, noDirectory, fun unforced => ?_⟩ unfit
      rw [unforced, Bool.not_false, Bool.and_true, ← Bool.not_eq_true, exists?_template] at allowed
      simpa [inside] using allowed

theorem code_writeTemplate_iff : (writeTemplate files force).code = 0 ↔ TemplateFits files force := by
  by_cases fits : TemplateFits files force
  · simp [fits, (writeTemplate_of_fits fits).1]
  · simp [fits, (writeTemplate_of_not_fits fits).1]

/-- What is written is found from the working directory, and it says what the defaults are. -/
theorem load_template (tree : files.IsTree) (fits : TemplateFits files force)
    (home : Option Path) :
    let path := (templatePlace files).toPath
    Settings.load (files.set (templatePlace files) (.file (Bytes.ofString Settings.template))) home
        files.workingDirectory.toPath none =
      ([.loadingSettings path], .ok { settings := {}, source := some path }) := by
  intro path
  have joined : Settings.fileIn files.workingDirectory.toPath = path :=
    Location.join_toPath (tree.named _ _ fits.inside) Settings.fileName_isName
  have found := tree.locate_toPath fits.inside Settings.fileName_isName
  have content : (files.set (templatePlace files) (.file (Bytes.ofString Settings.template))).read path =
      .ok (Bytes.ofString Settings.template) := FileSystem.read_set_self fits.noDirectory found
  have isFile : (files.set (templatePlace files) (.file (Bytes.ofString Settings.template))).isFile
      (Settings.fileIn files.workingDirectory.toPath) = true := by rw [joined, FileSystem.isFile, content]
  rw [Settings.load_of_isFile isFile, joined, Settings.readFile_of_read content, Settings.parse_template]
  rfl

/-- Writing the template changes its own file only, and a run that starts there uses the defaults. It needs a
place for the template, and without one nothing changes. Nothing that is there is replaced unless that is forced. -/
theorem writeTemplate_then_load (tree : files.IsTree) (force : Bool) :
    let ended := writeTemplate files force
    let place := templatePlace files
    (ended.code = 0 →
      (∀ location, location ≠ place → ended.files.get? location = files.get? location) ∧
      ended.files.workingDirectory = files.workingDirectory ∧
      ended.files.get? place = some (.file (Bytes.ofString Settings.template)) ∧
      ∀ home, Settings.load ended.files home files.workingDirectory.toPath none =
        ([.loadingSettings place.toPath], .ok { settings := {}, source := some place.toPath })) ∧
    (ended.code ≠ 0 → ended.files = files) ∧
    ((files.get? place).isSome → force = false → ended.code ≠ 0) ∧
    (ended.code = 0 ↔ TemplateFits files force) := by
  intro ended place
  refine ⟨fun done => ?_, fun failed => ?_, fun present unforced done => ?_, code_writeTemplate_iff⟩
  · have fits := code_writeTemplate_iff.mp done
    have written : ended.files = files.set place (.file (Bytes.ofString Settings.template)) :=
      (writeTemplate_of_fits fits).2
    have inner := FileSystem.inner_of_not_directory fits.noDirectory
    rw [written]
    exact ⟨fun location apart => FileSystem.get?_set_of_ne _ apart, rfl, FileSystem.get?_set_self _ inner,
      load_template tree fits⟩
  · exact (writeTemplate_of_not_fits (code_writeTemplate_iff.not.mp failed)).2
  · have free := (code_writeTemplate_iff.mp done).free unforced
    rw [free] at present
    cases present

/-- A directory without settings, below one with settings, beside a home directory with settings. -/
def surrounded : FileSystem :=
  let above := ({} : FileSystem).add (Path.ofString "/work/.standalone.toml").names
    (.file (Bytes.ofString "output-dir = \"above\"\n"))
  let home := above.add (Path.ofString "/home/.standalone.toml").names
    (.file (Bytes.ofString "output-dir = \"home\"\n"))
  { home.add (Path.ofString "/work/pkg").names .directory with workingDirectory := (Path.ofString "/work/pkg").names }

theorem writeTemplate_then_load_surrounded :
    surrounded.IsTree ∧ (writeTemplate surrounded false).code = 0 ∧
      let path := Path.ofString "/work/pkg/.standalone.toml"
      Settings.load (writeTemplate surrounded false).files (some (.ofString "/home")) (.ofString "/work/pkg") none =
        ([.loadingSettings path], .ok { settings := {}, source := some path }) := by
  have tree : surrounded.IsTree := FileSystem.isTree_of_entries (by decide +kernel)
  have fits : TemplateFits surrounded false := ⟨by decide +kernel, by decide +kernel, fun _ => by decide +kernel⟩
  obtain ⟨written, _, _, places⟩ := writeTemplate_then_load tree false
  obtain ⟨_, _, _, loaded⟩ := written (places.mpr fits)
  exact ⟨tree, places.mpr fits, loaded (some (.ofString "/home"))⟩

end CommandLine

end Amalgam
