import Amalgam.Proofs.Locations
import Amalgam.Proofs.OutputPaths

namespace Amalgam

/-- The segment can be the name of a file or a directory. -/
def Segment.IsName (segment : Segment) : Prop :=
  segment.isIdle = false ∧ segment.isUp = false ∧ '/' ∉ segment ∧ '\x00' ∉ segment

instance (segment : Segment) : Decidable segment.IsName :=
  inferInstanceAs (Decidable (_ ∧ _ ∧ _ ∧ _))

theorem Segment.IsName.ne_nil {segment : Segment} (named : segment.IsName) : segment ≠ [] := by
  rintro rfl
  cases named.1

theorem Segment.filter_of_isName {segments : List Segment} (named : ∀ segment ∈ segments, segment.IsName) :
    segments.filter (!·.isIdle) = segments := by
  refine List.filter_eq_self.mpr fun segment member => ?_
  rw [(named segment member).1]
  rfl

theorem Segment.notMem_join {c : Char} (other : c ≠ '/') {segments : List Segment}
    (absent : ∀ segment ∈ segments, c ∉ segment) : c ∉ join segments := by
  induction segments with
  | nil => exact List.not_mem_nil
  | cons segment segments ih =>
    obtain ⟨first, later⟩ := List.forall_mem_cons.mp absent
    by_cases last : segments = []
    · rw [last]
      exact first
    · rw [join_cons segment last, List.mem_append, List.mem_cons, not_or, not_or]
      exact ⟨first, other, ih later⟩

theorem Segment.getLast?_join_concat (segments : List Segment) {last : Segment} (present : last ≠ []) :
    (join (segments ++ [last])).getLast? = last.getLast? := by
  by_cases only : segments = []
  · rw [only]
    rfl
  · have behind : (join [last]).getLast? = last.getLast? := rfl
    rw [join_append segments only (List.cons_ne_nil last []), List.getLast?_append, List.getLast?_cons, behind,
      List.getLast?_eq_some_getLast present]
    rfl

/-- Between names, a path has nothing but empty segments and dots. -/
theorem Path.split_of_named {path : Path} (named : ∀ segment ∈ path.names, segment.IsName) :
    ∀ segment ∈ Segment.split path.chars, segment.isUp = false ∧ '\x00' ∉ segment := by
  intro segment member
  cases idle : segment.isIdle with
  | true =>
    have spelled : segment = [] ∨ segment = ['.'] := by simpa [Segment.isIdle] using idle
    rcases spelled with rfl | rfl <;> exact ⟨rfl, by decide⟩
  | false =>
    have isName := named segment (by rw [Path.names_eq]; exact List.mem_filter.mpr ⟨member, by rw [idle]; rfl⟩)
    exact ⟨isName.2.1, isName.2.2.2⟩

theorem Path.EndsInName.names_ne_nil {path : Path} (ends : path.EndsInName) : path.names ≠ [] := by
  obtain ⟨before, name, parts, isName, _⟩ := ends
  rw [names_eq, parts, List.filter_append, List.filter_cons_of_pos (by rw [isName]; rfl)]
  simp

/-- A name that is joined to a directory is the last thing that the path says. -/
theorem Path.endsInName_join {name : Segment} (isName : name.IsName) (directory : Path) :
    (directory.join ⟨name⟩).EndsInName := by
  have relative : (⟨name⟩ : Path).isAbsolute = false := isRelative_of_notMem isName.2.2.1
  have parts : Segment.split name = [name] := Segment.split_of_notMem isName.2.2.1
  rcases join_cases relative with ⟨_, joined⟩ | ⟨front, _, joined⟩
  · exact ⟨[], name, by rw [joined, parts, List.nil_append], isName.1, isName.2.1⟩
  · exact ⟨Segment.split front, name, by rw [joined, Segment.split_append_slash, parts], isName.1, isName.2.1⟩

namespace Location

variable {location place : Location} {segments : List Segment} {name : Segment}

/-- The place of a name in a directory has the joined path. -/
theorem join_toPath (named : ∀ segment ∈ location, segment.IsName) (isName : name.IsName) :
    location.toPath.join ⟨name⟩ = Location.toPath (location ++ [name]) := by
  have relative : (⟨name⟩ : Path).isAbsolute = false := Path.isRelative_of_notMem isName.2.2.1
  rw [Path.join, if_neg (by rw [relative]; decide)]
  rcases List.eq_nil_or_concat' location with rfl | ⟨before, last, rfl⟩
  · rfl
  · have isLast := named last (List.mem_append_right before List.mem_cons_self)
    have final : ('/' :: Segment.join (before ++ [last])).getLast? ≠ some '/' := by
      have found := List.getLast?_eq_some_getLast isLast.ne_nil
      rw [List.getLast?_cons, Segment.getLast?_join_concat before isLast.ne_nil, found]
      intro slash
      rw [Option.getD_some, ← found] at slash
      exact isLast.2.2.1 (List.mem_of_getLast? slash)
    rw [if_neg (by simpa [toPath] using final), toPath, toPath,
      Segment.join_append _ (by simp) (List.cons_ne_nil name [])]
    rfl

/-- What is passed on the way is where a part of the way leads. -/
theorem mem_passed (member : place ∈ location.passed segments) :
    ∃ front back, segments = front ++ back ∧ back ≠ [] ∧ place = location.follow front := by
  induction segments generalizing location with
  | nil => cases member
  | cons segment segments ih =>
    rcases List.mem_cons.mp member with rfl | member
    · exact ⟨[], segment :: segments, rfl, List.cons_ne_nil _ _, rfl⟩
    · obtain ⟨front, back, rfl, present, rfl⟩ := ih member
      exact ⟨segment :: front, back, rfl, present, rfl⟩

end Location

namespace FileSystem

/-- Everything has a name and is in a directory. -/
structure IsTree (files : FileSystem) : Prop where
  named : ∀ location node, files.get? location = some node → ∀ segment ∈ location, Segment.IsName segment
  above : ∀ location name node, files.get? (location ++ [name]) = some node → files.get? location = some .directory

variable {files : FileSystem} {location : Location} {name : Segment}

theorem IsTree.directory_above (tree : files.IsTree) {below : List Segment} {node : Node}
    (found : files.get? (location ++ below) = some node) (present : below ≠ []) :
    files.get? location = some .directory := by
  induction below using List.reverseRecOn generalizing node with
  | nil => exact absurd rfl present
  | append_singleton below last ih =>
    rw [← List.append_assoc] at found
    have inside := tree.above _ _ _ found
    by_cases only : below = []
    · rwa [only, List.append_nil] at inside
    · exact ih inside only

theorem isTree_of_entries (proper : ∀ entry ∈ files.entries, (∀ segment ∈ entry.1, Segment.IsName segment) ∧
    files.get? entry.1.dropLast = some .directory) : files.IsTree := by
  have listed : ∀ location node, files.get? location = some node →
      location = [] ∨ (location, node) ∈ files.entries := by
    intro location node found
    rw [get?] at found
    split at found
    next root => exact Or.inl root
    next =>
      obtain ⟨before, after, entries, _⟩ := List.lookup_eq_some_iff.mp found
      exact Or.inr (by simp [entries])
  constructor
  · intro location node found
    rcases listed location node found with rfl | member
    · exact fun segment none => absurd none List.not_mem_nil
    · exact (proper _ member).1
  · intro location name node found
    rcases listed _ node found with root | member
    · simp at root
    · have above := (proper _ member).2
      rwa [List.dropLast_concat] at above

theorem fault?_eq_none {path : Path} (named : ∀ segment ∈ path.names, segment.IsName) (present : path.names ≠ []) :
    fault? path = none := by
  have absent : '\x00' ∉ path.chars := by
    rw [← Segment.join_split path.chars]
    exact Segment.notMem_join (by decide) fun segment member => (Path.split_of_named named segment member).2
  have written : path.chars ≠ [] := fun empty => present (Path.chars_eq_nil_iff.mp empty).2
  simp [fault?, absent, written]

/-- A path of names that ends in one leads to the place with these names, if that is in a directory. -/
theorem IsTree.locate_eq_ok (tree : files.IsTree) {path : Path} (named : ∀ segment ∈ path.names, segment.IsName)
    (ends : path.EndsInName) (inside : files.get? (files.origin path ++ path.names.dropLast) = some .directory) :
    files.locate path = .ok (files.origin path ++ path.names) := by
  obtain ⟨before, last, parts, isName, _⟩ := ends
  have names : path.names = before.filter (!·.isIdle) ++ [last] := by
    rw [Path.names_eq, parts, List.filter_append, List.filter_cons_of_pos (by rw [isName]; rfl), List.filter_nil]
  have noFault : fault? path = none := fault?_eq_none named (by simp [names])
  have noUp : ∀ segment ∈ Segment.split path.chars, segment.isUp = false :=
    fun segment member => (Path.split_of_named named segment member).1
  refine locate_eq_ok_iff.mpr ⟨noFault, ?_, fun place passed => ?_⟩
  · rw [Location.follow_eq_append noUp, Path.names_eq]
  · obtain ⟨front, back, whole, present, rfl⟩ := Location.mem_passed passed
    -- The last name is behind all directories on the way.
    obtain ⟨back, final, rfl⟩ := (List.eq_nil_or_concat' back).resolve_left present
    rw [parts, ← List.append_assoc] at whole
    obtain ⟨rfl, _⟩ := List.append_inj' whole rfl
    rw [Location.follow_eq_append fun segment member => noUp segment (by rw [parts]; simp [member])]
    rw [names, List.dropLast_concat, List.filter_append, ← List.append_assoc] at inside
    by_cases only : back.filter (!·.isIdle) = []
    · rwa [only, List.append_nil] at inside
    · exact tree.directory_above inside only

/-- The absolute path of a name in a directory leads there. -/
theorem IsTree.locate_toPath (tree : files.IsTree) (inside : files.get? location = some .directory)
    (isName : name.IsName) : files.locate (Location.toPath (location ++ [name])) = .ok (location ++ [name]) := by
  have named : ∀ segment ∈ location ++ [name], segment.IsName := by
    intro segment member
    rcases List.mem_append.mp member with above | last
    · exact tree.named _ _ inside segment above
    · rw [List.mem_singleton.mp last]
      exact isName
  have parts : Segment.split (Location.toPath (location ++ [name])).chars = [] :: location ++ [name] := by
    rw [Location.toPath, Segment.split_slash,
      Segment.split_join (by simp) fun segment member => (named segment member).2.2.1]
    rfl
  have names : (Location.toPath (location ++ [name])).names = location ++ [name] := by
    rw [Path.names_eq, parts, List.cons_append, List.filter_cons_of_neg (by decide), Segment.filter_of_isName named]
  have start : files.origin (Location.toPath (location ++ [name])) = [] := rfl
  have found := tree.locate_eq_ok (by rwa [names]) ⟨_, _, parts, isName.1, isName.2.1⟩
    (by rwa [start, names, List.dropLast_concat, List.nil_append])
  rwa [start, names, List.nil_append] at found

/-- A name leads to a place in the working directory, if there is one. -/
theorem locate_name_iff (isName : name.IsName) : files.locate ⟨name⟩ = .ok location ↔
    files.get? files.workingDirectory = some .directory ∧ location = files.workingDirectory ++ [name] := by
  have relative : (⟨name⟩ : Path).isAbsolute = false := Path.isRelative_of_notMem isName.2.2.1
  have start : files.origin ⟨name⟩ = files.workingDirectory := by rw [origin, relative]; rfl
  have parts : Segment.split name = [name] := Segment.split_of_notMem isName.2.2.1
  have noFault : fault? ⟨name⟩ = none := by
    simp [fault?, isName.2.2.2, isName.ne_nil]
  have entered : files.workingDirectory.enter name = files.workingDirectory ++ [name] := by
    rw [Location.enter, isName.1, isName.2.1]
    rfl
  rw [locate_eq_ok_iff, start, parts, noFault]
  simp [Location.follow, Location.passed, entered, and_comm]

theorem target_name_iff (isName : name.IsName) : files.target ⟨name⟩ = .ok location ↔
    files.get? files.workingDirectory = some .directory ∧ location = files.workingDirectory ++ [name] ∧
      files.get? location ≠ some .directory := by
  have ends : Path.EndsInName ⟨name⟩ :=
    ⟨[], name, Segment.split_of_notMem isName.2.2.1, isName.1, isName.2.1⟩
  rw [target_eq_ok_iff, locate_name_iff isName, and_assoc]
  simp only [ends, true_and]

end FileSystem

end Amalgam
