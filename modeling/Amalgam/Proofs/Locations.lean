import Amalgam.Proofs.Components
import Amalgam.Files

namespace Amalgam

/-- Where a segment leads from a directory. -/
def Location.enter (location : Location) (segment : Segment) : Location :=
  if segment.isIdle then location
  else if segment.isUp then location.dropLast
  else location ++ [segment]

def Location.follow (location : Location) (segments : List Segment) : Location :=
  segments.foldl Location.enter location

/-- The places on the way, all of which have to be directories. -/
def Location.passed (location : Location) : List Segment → List Location
  | [] => []
  | segment :: segments => location :: Location.passed (location.enter segment) segments

theorem Location.follow_eq_append {segments : List Segment} (noUp : ∀ segment ∈ segments, segment.isUp = false)
    (location : Location) : location.follow segments = location ++ segments.filter (!·.isIdle) := by
  induction segments generalizing location with
  | nil => rw [List.filter_nil, List.append_nil]; rfl
  | cons segment segments ih =>
    obtain ⟨first, later⟩ := List.forall_mem_cons.mp noUp
    rw [Location.follow, List.foldl_cons, ← Location.follow, ih later]
    unfold Location.enter
    cases idle : segment.isIdle <;> simp [idle, first]

/-- The last thing that the path says is a name, with nothing behind it. -/
def Path.EndsInName (path : Path) : Prop :=
  ∃ before name, Segment.split path.chars = before ++ [name] ∧ name.isIdle = false ∧ name.isUp = false

namespace FileSystem

variable {files files' : FileSystem} {location other : Location} {path : Path}

theorem get?_set_self (node : Node) (inner : location ≠ []) :
    (files.set location node).get? location = some node := by
  rw [get?, if_neg inner, set, List.lookup_cons_self]

theorem lookup_filter_of_ne (entries : List (Location × Node)) (apart : other ≠ location) :
    (entries.filter (·.1 ≠ location)).lookup other = entries.lookup other := by
  induction entries with
  | nil => rfl
  | cons entry entries ih =>
    obtain ⟨place, node⟩ := entry
    by_cases same : place = location
    · have missed : (other == place) = false := by
        rw [same]
        exact beq_false_of_ne apart
      rw [List.filter_cons_of_neg (by simp [same]), ih, List.lookup_cons, missed]
    · rw [List.filter_cons_of_pos (by simp [same]), List.lookup_cons, List.lookup_cons, ih]

theorem get?_set_of_ne (node : Node) (apart : other ≠ location) :
    (files.set location node).get? other = files.get? other := by
  have missed : (other == location) = false := beq_false_of_ne apart
  rw [get?, get?, set, List.lookup_cons, missed, lookup_filter_of_ne files.entries apart]

theorem set_set (first second : Node) :
    (files.set location first).set location second = files.set location second := by
  simp only [set, List.filter_cons_of_neg, ne_eq, not_true_eq_false, decide_false, Bool.false_eq_true,
    not_false_eq_true, List.filter_filter, Bool.and_self]

/-- Two places that are written again as they were before leave nothing changed. -/
theorem set_pair_again (first second : Node) :
    ((((files.set location first).set other second).set location first).set other second) =
      (files.set location first).set other second := by
  by_cases same : location = other
  · rw [same, set_set, set_set, set_set]
  · have kept : decide (location ≠ other) = true := decide_eq_true same
    have kept' : decide (other ≠ location) = true := decide_eq_true (Ne.symm same)
    simp only [set, List.filter_cons, kept, kept', ne_eq, not_true_eq_false, decide_false, if_true,
      Bool.false_eq_true, if_false, List.filter_filter]
    grind

theorem inner_of_not_directory (free : files.get? location ≠ some .directory) : location ≠ [] := by
  rintro rfl
  exact free rfl

/-- Both have the same directories, and paths start from the same place. -/
structure SameDirectories (files files' : FileSystem) : Prop where
  start : files.workingDirectory = files'.workingDirectory
  directory_iff : ∀ location, files.get? location = some .directory ↔ files'.get? location = some .directory

theorem SameDirectories.refl (files : FileSystem) : SameDirectories files files :=
  ⟨rfl, fun _ => Iff.rfl⟩

theorem SameDirectories.symm (same : SameDirectories files files') : SameDirectories files' files :=
  ⟨same.start.symm, fun location => (same.directory_iff location).symm⟩

theorem SameDirectories.trans {files'' : FileSystem} (first : SameDirectories files files')
    (second : SameDirectories files' files'') : SameDirectories files files'' :=
  ⟨first.start.trans second.start,
    fun location => (first.directory_iff location).trans (second.directory_iff location)⟩

/-- A file that is written where there is no directory leaves all directories. -/
theorem sameDirectories_set (free : files.get? location ≠ some .directory) (content : Bytes) :
    SameDirectories files (files.set location (.file content)) := by
  refine ⟨rfl, fun other => ?_⟩
  by_cases same : other = location
  · rw [same, get?_set_self _ (inner_of_not_directory free)]
    simp [free]
  · rw [get?_set_of_ne _ same]

theorem step_eq_ok_iff {segment : Segment} : files.step location segment = .ok other ↔
    files.get? location = some .directory ∧ other = location.enter segment := by
  unfold step Location.enter
  split
  next absent => simp [absent]
  next file => simp [file]
  next directory =>
    split
    · simp [directory, eq_comm]
    · split <;> simp [directory, eq_comm]

/-- A walk comes to its end exactly if all places on its way are directories. -/
theorem walk_eq_ok_iff {segments : List Segment} :
    files.walk location segments = .ok other ↔ other = location.follow segments ∧
      ∀ place ∈ location.passed segments, files.get? place = some .directory := by
  induction segments generalizing location with
  | nil => simp [walk, Location.follow, Location.passed, eq_comm]
  | cons segment segments ih =>
    rw [walk, Location.passed, List.forall_mem_cons, Location.follow, List.foldl_cons]
    cases stepped : files.step location segment with
    | error cause =>
      have stuck : files.get? location ≠ some .directory := by
        intro directory
        rw [step_eq_ok_iff.mpr ⟨directory, rfl⟩] at stepped
        cases stepped
      simp [stuck]
    | ok next =>
      obtain ⟨directory, rfl⟩ := step_eq_ok_iff.mp stepped
      exact ih.trans (by simp [directory, Location.follow])

theorem locate_eq_ok_iff : files.locate path = .ok location ↔
    fault? path = none ∧ location = (files.origin path).follow (Segment.split path.chars) ∧
      ∀ place ∈ (files.origin path).passed (Segment.split path.chars), files.get? place = some .directory := by
  unfold locate
  cases fault? path with
  | some cause => simp
  | none => simpa using walk_eq_ok_iff

theorem locate_unique (found : files.locate path = .ok location) (found' : files.locate path = .ok other) :
    location = other :=
  Except.ok.inj (found.symm.trans found')

/-- Where a path leads depends only on the directory that paths start from. -/
theorem locate_eq_of_start (start : files.workingDirectory = files'.workingDirectory)
    (found : files.locate path = .ok location) (found' : files'.locate path = .ok other) : location = other := by
  rw [(locate_eq_ok_iff.mp found).2.1, (locate_eq_ok_iff.mp found').2.1, origin, origin, start]

theorem read_eq_ok_iff {content : Bytes} : files.read path = .ok content ↔
    ∃ location, files.locate path = .ok location ∧ files.get? location = some (.file content) := by
  unfold read
  cases files.locate path with
  | error cause => simp
  | ok location =>
    cases node : files.get? location with
    | none => simp [node]
    | some node' => cases node' <;> simp [node]

theorem endsInName_iff {before : List Segment} {last : Segment}
    (parts : Segment.split path.chars = before ++ [last]) :
    path.EndsInName ↔ last.isIdle = false ∧ last.isUp = false := by
  constructor
  · rintro ⟨before', name, parts', named⟩
    obtain ⟨_, same⟩ := List.append_inj' (parts.symm.trans parts') rfl
    rw [List.singleton_inj.mp same]
    exact named
  · exact fun named => ⟨before, last, parts, named⟩

/-- A path names a file for writing exactly if it ends in a name and leads to a place that is not a
directory. -/
theorem target_eq_ok_iff : files.target path = .ok location ↔
    files.locate path = .ok location ∧ path.EndsInName ∧ files.get? location ≠ some .directory := by
  obtain ⟨before, last, parts⟩ : ∃ before last, Segment.split path.chars = before ++ [last] :=
    (List.eq_nil_or_concat' _).resolve_left (Segment.split_ne_nil path.chars)
  rw [endsInName_iff parts]
  unfold target locate
  cases fault? path with
  | some cause => simp
  | none =>
    simp only [parts, List.reverse_append, List.reverse_singleton, List.singleton_append]
    by_cases empty : last = []
    · -- Behind a slash nothing is named, whatever comes before it.
      subst empty
      have idle : Segment.isIdle [] = true := rfl
      rw [List.dropWhile_cons_of_pos (by rfl)]
      split
      · simp [idle]
      · split <;> simp [idle]
    · have behind : (last :: before.reverse).dropWhile (· == []) = last :: before.reverse :=
        List.dropWhile_cons_of_neg (by simpa using empty)
      have present : (some last == some []) = false := by simpa using empty
      simp only [behind, List.reverse_reverse, List.head?_cons, present, Bool.or_false]
      cases files.walk (files.origin path) (before ++ [last]) with
      | error cause => simp
      | ok final =>
        cases named : last.isIdle || last.isUp with
        | true =>
          have unnamed : ¬ (last.isIdle = false ∧ last.isUp = false) := by
            rw [← Bool.or_eq_false_iff, named]
            exact Bool.noConfusion
          simp [unnamed]
        | false =>
          have isName : last.isIdle = false ∧ last.isUp = false := Bool.or_eq_false_iff.mp named
          cases node : files.get? final with
          | none => simp +contextual [isName, node, eq_comm]
          | some node' => cases node' <;> simp +contextual [isName, node, eq_comm]

theorem locate_of_target (found : files.target path = .ok location) : files.locate path = .ok location :=
  (target_eq_ok_iff.mp found).1

theorem free_of_target (found : files.target path = .ok location) : files.get? location ≠ some .directory :=
  (target_eq_ok_iff.mp found).2.2

theorem SameDirectories.locate_eq_ok_iff (same : SameDirectories files files') :
    files.locate path = .ok location ↔ files'.locate path = .ok location := by
  have start : files.origin path = files'.origin path := by rw [origin, origin, same.start]
  rw [FileSystem.locate_eq_ok_iff, FileSystem.locate_eq_ok_iff, start]
  simp only [same.directory_iff]

theorem SameDirectories.target_eq_ok_iff (same : SameDirectories files files') :
    files.target path = .ok location ↔ files'.target path = .ok location := by
  rw [FileSystem.target_eq_ok_iff, FileSystem.target_eq_ok_iff, same.locate_eq_ok_iff, ne_eq,
    same.directory_iff location]

section Written

variable {content : Bytes}

theorem read_set_self (free : files.get? location ≠ some .directory) (found : files.locate path = .ok location) :
    (files.set location (.file content)).read path = .ok content :=
  read_eq_ok_iff.mpr ⟨location, (sameDirectories_set free content).locate_eq_ok_iff.mp found,
    get?_set_self _ (inner_of_not_directory free)⟩

theorem read_target (found : files.target path = .ok location) :
    (files.set location (.file content)).read path = .ok content :=
  read_set_self (free_of_target found) (locate_of_target found)

/-- A file that is written elsewhere does not change what can be read. -/
theorem read_set_of_ne {other : Bytes} (free : files.get? location ≠ some .directory)
    (apart : files.locate path ≠ .ok location) :
    (files.set location (.file content)).read path = .ok other ↔ files.read path = .ok other := by
  rw [read_eq_ok_iff, read_eq_ok_iff]
  simp only [← (sameDirectories_set free content).locate_eq_ok_iff]
  refine exists_congr fun place => and_congr_right fun found => ?_
  have elsewhere : place ≠ location := by
    rintro rfl
    exact apart found
  rw [get?_set_of_ne _ elsewhere]

end Written

end FileSystem

end Amalgam
