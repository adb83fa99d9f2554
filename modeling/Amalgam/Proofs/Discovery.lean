import Amalgam.Proofs.Ancestors
import Amalgam.Proofs.SourcePaths
import Amalgam.Proofs.Tree
import Amalgam.Settings.Discovery

namespace Amalgam

namespace FileSystem

variable {files files' : FileSystem} {path : Path}

theorem isFile_iff : files.isFile path = true ↔
    ∃ location content, files.locate path = .ok location ∧ files.get? location = some (.file content) := by
  have readable : files.isFile path = true ↔ ∃ content, files.read path = .ok content := by
    unfold isFile
    cases files.read path <;> simp
  rw [readable, exists_comm]
  simp only [read_eq_ok_iff]

/-- Among the same directories it only matters what is at the place that the path leads to. -/
theorem SameDirectories.isFile_eq (same : SameDirectories files files')
    (kept : ∀ location, files.locate path = .ok location → files'.get? location = files.get? location) :
    files'.isFile path = files.isFile path := by
  rw [Bool.eq_iff_iff, isFile_iff, isFile_iff]
  constructor
  · rintro ⟨location, content, found, node⟩
    have found' := same.locate_eq_ok_iff.mpr found
    exact ⟨location, content, found', (kept location found').symm.trans node⟩
  · rintro ⟨location, content, found, node⟩
    exact ⟨location, content, same.locate_eq_ok_iff.mp found, (kept location found).trans node⟩

/-- In a tree, what is at the place with the names of the path tells of the directories above it. -/
theorem IsTree.isFile_iff (tree : files.IsTree) (noUp : path.NeverUp) (ends : path.EndsInName) :
    files.isFile path = true ↔ ∃ content, files.get? (files.origin path ++ path.names) = some (.file content) := by
  rw [FileSystem.isFile_iff]
  constructor
  · rintro ⟨location, content, found, node⟩
    rw [locate_eq_append noUp found] at node
    exact ⟨content, node⟩
  · rintro ⟨content, node⟩
    have named : ∀ segment ∈ path.names, segment.IsName :=
      fun segment member => tree.named _ _ node segment (List.mem_append_right _ member)
    have parts : files.origin path ++ path.names =
        files.origin path ++ path.names.dropLast ++ [path.names.getLast ends.names_ne_nil] := by
      rw [List.append_assoc, List.dropLast_append_getLast]
    have inside : files.get? (files.origin path ++ path.names.dropLast) = some .directory :=
      tree.above _ _ _ (parts ▸ node)
    exact ⟨_, content, tree.locate_eq_ok named ends inside, node⟩

end FileSystem

/-- A search gives the same result for another test, if this agrees up to the first hit. -/
theorem find?_eq_of_forall_consulted {α : Type} {test test' : α → Bool} {items : List α}
    (same : ∀ item ∈ items.takeWhile (fun item => !test item) ++ (items.find? test).toList, test' item = test item) :
    items.find? test' = items.find? test := by
  induction items with
  | nil => rfl
  | cons item items ih =>
    cases hit : test item with
    | true =>
      have hit' := same item (by simp [hit])
      rw [hit] at hit'
      rw [List.find?_cons_of_pos hit', List.find?_cons_of_pos hit]
    | false =>
      have miss' := same item (by simp [hit])
      rw [List.find?_cons_of_neg (by simp [miss', hit]), List.find?_cons_of_neg (by simp [hit])]
      refine ih fun other member => same other ?_
      rw [List.takeWhile_cons_of_pos (by simp [hit]), List.find?_cons_of_neg (by simp [hit])]
      exact List.mem_cons_of_mem item member

namespace Settings

variable {files files' : FileSystem} {home : Option Path} {start directory path : Path}

theorem names_fileIn (directory : Path) : (fileIn directory).names = directory.names ++ [fileName.toList] := by
  have relative : (Path.ofString fileName).isAbsolute = false := by decide
  have names : (Path.ofString fileName).names = [fileName.toList] := by decide
  rw [fileIn, Path.names_join relative, names]

theorem endsInName_fileIn (directory : Path) : (fileIn directory).EndsInName :=
  Path.endsInName_join (by decide) directory

theorem neverUp_fileIn (noUp : directory.NeverUp) : (fileIn directory).NeverUp := by
  rw [Path.NeverUp, names_fileIn, List.forall_mem_append]
  exact ⟨noUp, by decide⟩

theorem mem_candidates (member : path ∈ candidates home start) :
    (∃ n directory, start.above n = some directory ∧ path = fileIn directory) ∨
      ∃ directory, home = some directory ∧ path = fileIn directory := by
  obtain ⟨directory, among, rfl⟩ := List.mem_map.mp member
  rcases List.mem_append.mp among with onTheWay | last
  · obtain ⟨n, reached⟩ := Path.mem_ancestors.mp onTheWay
    exact Or.inl ⟨n, directory, reached, rfl⟩
  · exact Or.inr ⟨directory, Option.mem_toList.mp last, rfl⟩

theorem find?_candidates (files : FileSystem) (home : Option Path) (start : Path) :
    (candidates home start).find? files.isFile =
      ((start.ancestors.map fileIn).find? files.isFile).or ((home.toList.map fileIn).find? files.isFile) := by
  rw [candidates, List.map_append, List.find?_append]

/-- The first candidate that is a regular file is found. If none is, there has to be a home directory. -/
theorem discover_eq (files : FileSystem) (home : Option Path) (start : Path) :
    discover files home start =
      match (candidates home start).find? files.isFile with
      | some path => .ok (some path)
      | none => (userFile home).map fun _ => none := by
  rw [find?_candidates, discover]
  cases (start.ancestors.map fileIn).find? files.isFile with
  | some path => rfl
  | none =>
    cases home with
    | none => rfl
    | some directory =>
      cases found : files.isFile (fileIn directory) <;> simp [userFile, found, Except.map]

theorem discover_of_above {n : Nat} (reached : start.above n = some directory)
    (found : files.isFile (fileIn directory) = true)
    (nearest : ∀ m < n, ∀ nearer, start.above m = some nearer → files.isFile (fileIn nearer) = false) :
    discover files home start = .ok (some (fileIn directory)) := by
  rw [← Path.getElem?_ancestors] at reached
  obtain ⟨inside, same⟩ := List.getElem?_eq_some_iff.mp reached
  have onTheWay : (start.ancestors.map fileIn).find? files.isFile = some (fileIn directory) := by
    refine List.find?_eq_some_iff_getElem.mpr ⟨found, n, by simpa using inside, by simp [same], fun m before => ?_⟩
    have above : start.above m = some start.ancestors[m] := by
      rw [← Path.getElem?_ancestors, List.getElem?_eq_getElem]
    simp [nearest m before _ above]
  rw [discover, onTheWay]

theorem discover_of_none
    (missing : ∀ n directory, start.above n = some directory → files.isFile (fileIn directory) = false) :
    discover files home start =
      (userFile home).map fun path => if files.isFile path then some path else none := by
  have onTheWay : (start.ancestors.map fileIn).find? files.isFile = none := by
    refine List.find?_eq_none.mpr (List.forall_mem_map.mpr fun directory member => ?_)
    obtain ⟨n, reached⟩ := Path.mem_ancestors.mp member
    simp [missing n directory reached]
  rw [discover, onTheWay]
  cases home <;> rfl

/-- The paths that are looked at: all candidates, or those up to the one that is found. -/
def consulted (files : FileSystem) (home : Option Path) (start : Path) : List Path :=
  (candidates home start).takeWhile (fun path => !files.isFile path) ++
    ((candidates home start).find? files.isFile).toList

theorem mem_candidates_of_consulted (member : path ∈ consulted files home start) : path ∈ candidates home start := by
  rcases List.mem_append.mp member with before | found
  · exact (List.takeWhile_sublist _).subset before
  · exact List.mem_of_find?_eq_some (Option.mem_toList.mp found)

theorem discover_congr (same : ∀ path ∈ consulted files home start, files'.isFile path = files.isFile path) :
    discover files' home start = discover files home start := by
  rw [discover_eq, discover_eq, find?_eq_of_forall_consulted same]

theorem load_explicit (files : FileSystem) (home : Option Path) (start path : Path) :
    load files home start (some path) =
      ([.loadingSettings path], (readFile files path).map fun settings => ⟨settings, some path⟩) := rfl

theorem readFile_of_error {cause : IoError} (failed : files.read path = .error cause) :
    readFile files path = .error (.readSettings path cause) := by
  rw [readFile, failed]

theorem readFile_congr (same : files.read path = files'.read path) : readFile files path = readFile files' path := by
  rw [readFile, readFile, same]

theorem readFile_eq_ok {settings : Settings} (loaded : readFile files path = .ok settings) :
    ∃ content text, files.read path = .ok content ∧ content.toString? = some text ∧ parse path text = .ok settings := by
  unfold readFile at loaded
  split at loaded
  next => cases loaded
  next content found =>
    split at loaded
    next => cases loaded
    next text decoded => exact ⟨content, text, found, decoded, loaded⟩

/-- In trees, not even directories matter to a search that never leads up. -/
theorem discover_eq_of_isTree (tree : files.IsTree) (tree' : files'.IsTree)
    (together : files.workingDirectory = files'.workingDirectory) (noUp : start.NeverUp)
    (noUp' : ∀ directory, home = some directory → fileIn directory ∈ consulted files home start → directory.NeverUp)
    (kept : ∀ path ∈ consulted files home start,
      files'.get? (files.origin path ++ path.names) = files.get? (files.origin path ++ path.names)) :
    discover files' home start = discover files home start := by
  refine discover_congr fun path member => ?_
  have ends : path.NeverUp ∧ path.EndsInName := by
    rcases mem_candidates (mem_candidates_of_consulted member) with ⟨n, directory, reached, rfl⟩ |
      ⟨directory, known, rfl⟩
    · have within : directory.NeverUp := by
        intro name named
        rw [Path.names_of_above reached] at named
        exact noUp name (List.mem_of_mem_take named)
      exact ⟨neverUp_fileIn within, endsInName_fileIn directory⟩
    · exact ⟨neverUp_fileIn (noUp' directory known member), endsInName_fileIn directory⟩
  have origin : files'.origin path = files.origin path := by
    rw [FileSystem.origin, FileSystem.origin, together]
  rw [Bool.eq_iff_iff, tree.isFile_iff ends.1 ends.2, tree'.isFile_iff ends.1 ends.2, origin, kept path member]

/-- The way up from the start comes to an end, and the nearest of its directories with a settings file that is a
regular file decides, or else the home directory, which has to be known then. Files that come, change or go at other
places than those that are looked at do not matter, and neither do directories, in trees and if no `..` is on the
way. A file that is given is the only one that matters, and there have to be settings in it. -/
theorem discover_nearest (files : FileSystem) (home : Option Path) (start : Path) :
    (∀ n, start.above n = none ↔ start.names.length + (if start.lead = .here then 1 else 0) < n) ∧
    (∀ n directory, start.above n = some directory → files.isFile (fileIn directory) = true →
      (∀ m < n, ∀ nearer, start.above m = some nearer → files.isFile (fileIn nearer) = false) →
      discover files home start = .ok (some (fileIn directory))) ∧
    ((∀ n directory, start.above n = some directory → files.isFile (fileIn directory) = false) →
      (∀ directory, home = some directory → discover files home start =
        .ok (if files.isFile (fileIn directory) then some (fileIn directory) else none)) ∧
      (home = none → discover files home start = .error .homeNotFound)) ∧
    (∀ path, files.isFile path = true ↔
      ∃ location content, files.locate path = .ok location ∧ files.get? location = some (.file content)) ∧
    (∀ files', FileSystem.SameDirectories files files' →
      (∀ path ∈ consulted files home start, ∀ location, files.locate path = .ok location →
        files'.get? location = files.get? location) →
      discover files' home start = discover files home start) ∧
    (files.IsTree → start.NeverUp →
      (∀ directory, home = some directory → fileIn directory ∈ consulted files home start → directory.NeverUp) →
      ∀ files', files'.IsTree → files.workingDirectory = files'.workingDirectory →
      (∀ path ∈ consulted files home start,
        files'.get? (files.origin path ++ path.names) = files.get? (files.origin path ++ path.names)) →
      discover files' home start = discover files home start) ∧
    ∀ path,
      (∀ files' home' start', files.read path = files'.read path →
        load files home start (some path) = load files' home' start' (some path)) ∧
      (∀ cause, files.read path = .error cause →
        load files home start (some path) = ([.loadingSettings path], .error (.readSettings path cause))) ∧
      (∀ loaded, (load files home start (some path)).2 = .ok loaded → loaded.source = some path ∧
        ∃ content text, files.read path = .ok content ∧ content.toString? = some text ∧
          parse path text = .ok loaded.settings) := by
  refine ⟨fun n => Path.above_eq_none_iff, fun n directory reached => discover_of_above reached, ?_,
    fun path => FileSystem.isFile_iff, fun files' same kept => ?_, ?_, fun path => ⟨?_, ?_, ?_⟩⟩
  · intro missing
    refine ⟨?_, ?_⟩
    · rintro directory rfl
      exact discover_of_none missing
    · rintro rfl
      exact discover_of_none missing
  · exact discover_congr fun path member => same.isFile_eq (kept path member)
  · intro tree noUp noUp' files' tree' together
    exact discover_eq_of_isTree tree tree' together noUp noUp'
  · intro files' home' start' same
    rw [load_explicit, load_explicit, readFile_congr same]
  · intro cause failed
    rw [load_explicit, readFile_of_error failed]
    rfl
  · intro loaded found
    rw [load_explicit] at found
    cases read : readFile files path with
    | error failure =>
      rw [read] at found
      cases found
    | ok settings =>
      rw [read] at found
      cases found
      exact ⟨rfl, readFile_eq_ok read⟩

/-- A settings file between a directory of that name and another settings file. -/
def layered : FileSystem :=
  let above := ({} : FileSystem).add (Path.ofString "/work/.standalone.toml").names
    (.file (Bytes.ofString "output-dir = \"above\"\n"))
  let nearest := above.add (Path.ofString "/work/pkg/.standalone.toml").names (.file [])
  nearest.add (Path.ofString "/work/pkg/deep/.standalone.toml").names .directory

/-- The farther settings file is gone, and there is one in the home directory. -/
def rearranged : FileSystem :=
  (layered.remove (Path.ofString "/work/.standalone.toml").names).add (Path.ofString "/home/.standalone.toml").names
    (.file [])

theorem discover_nearest_layered :
    layered.isFile (fileIn (.ofString "/work/pkg/deep")) = false ∧ layered.IsTree ∧ rearranged.IsTree ∧
      discover layered (some (.ofString "/home")) (.ofString "/work/pkg/deep") =
        .ok (some (fileIn (.ofString "/work/pkg"))) ∧
      discover rearranged (some (.ofString "/home")) (.ofString "/work/pkg/deep") =
        .ok (some (fileIn (.ofString "/work/pkg"))) ∧
      load layered (some (.ofString "/home")) (.ofString "/work/pkg/deep") (some (.ofString "/work/custom.toml")) =
        ([.loadingSettings (.ofString "/work/custom.toml")],
          .error (.readSettings (.ofString "/work/custom.toml") .notFound)) := by
  have skipped : layered.isFile (fileIn (.ofString "/work/pkg/deep")) = false := by decide +kernel
  have tree : layered.IsTree := FileSystem.isTree_of_entries (by decide +kernel)
  have tree' : rearranged.IsTree := FileSystem.isTree_of_entries (by decide +kernel)
  obtain ⟨_, nearest, _, _, _, steady, explicit⟩ :=
    discover_nearest layered (some (.ofString "/home")) (.ofString "/work/pkg/deep")
  have found := nearest 1 (.ofString "/work/pkg") (by decide +kernel) (by decide +kernel) (by
    intro m before nearer reached
    obtain rfl : m = 0 := by omega
    rw [← Option.some.inj reached]
    exact skipped)
  have same := steady tree (by decide +kernel) (by decide +kernel) rearranged tree' (by decide +kernel)
    (by decide +kernel)
  have missing := (explicit (.ofString "/work/custom.toml")).2.1 .notFound (by decide +kernel)
  exact ⟨skipped, tree, tree', found, same.trans found, missing⟩

end Settings

end Amalgam
