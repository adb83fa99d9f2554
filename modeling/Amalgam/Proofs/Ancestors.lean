import Amalgam.Proofs.Components

namespace Amalgam

theorem Segment.join_front {front segments : List Segment} (starts : front <+: segments) :
    join front <+: join segments := by
  obtain ⟨behind, rfl⟩ := starts
  by_cases none : front = []
  · rw [none]
    exact List.nil_prefix
  by_cases all : behind = []
  · simp only [all, List.append_nil, List.prefix_rfl]
  · rw [join_append front none all]
    exact List.prefix_append _ _

namespace Path

variable {path parent : Path}

/-- The path that lies so many steps above, if the way up is as long as that. -/
def above : Path → Nat → Option Path
  | path, 0 => some path
  | path, n + 1 => path.parent?.bind fun parent => parent.above n

theorem length_parent?_lt (found : path.parent? = some parent) : parent.chars.length < path.chars.length := by
  rcases parent?_front found with ⟨front, starts, rfl, present, kept⟩ | ⟨_, here, rfl⟩
  · have within : (ofParts path.lead front).chars <+: (ofParts path.lead path.body).chars :=
      (List.prefix_append_right_inj _).mpr (Segment.join_front starts)
    rw [ofParts_body] at within
    refine Nat.lt_of_le_of_ne within.length_le fun same => ?_
    -- A parent of the same length would have the same names.
    have whole : ofParts path.lead front = path := congrArg mk (within.eq_of_length same)
    obtain ⟨_, names⟩ := ofParts_prefix starts
    rw [whole, kept] at names
    have shorter := congrArg List.length names
    have positive := List.length_pos_iff.mpr present
    rw [List.length_dropLast] at shorter
    omega
  · refine List.length_pos_iff.mpr fun empty => ?_
    rw [(chars_eq_nil_iff.mp empty).1] at here
    cases here

/-- Any number of steps is enough that exceeds the length of the text. -/
theorem ancestorsUpTo_eq {n m : Nat} (enough : path.chars.length < n) (enough' : path.chars.length < m) :
    ancestorsUpTo n path = ancestorsUpTo m path := by
  induction n generalizing path m with
  | zero => exact absurd enough (Nat.not_lt_zero _)
  | succ n ih =>
    cases m with
    | zero => exact absurd enough' (Nat.not_lt_zero _)
    | succ m =>
      rw [ancestorsUpTo, ancestorsUpTo]
      cases found : path.parent? with
      | none => rfl
      | some parent =>
        have shorter := length_parent?_lt found
        exact congrArg (path :: ·) (ih (by omega) (by omega))

theorem ancestors_of_top (top : path.parent? = none) : path.ancestors = [path] := by
  rw [ancestors, ancestorsUpTo, top]

theorem ancestors_of_parent (found : path.parent? = some parent) : path.ancestors = path :: parent.ancestors := by
  have shorter := length_parent?_lt found
  rw [ancestors, ancestorsUpTo, found, ancestors]
  exact congrArg (path :: ·) (ancestorsUpTo_eq shorter (Nat.lt_succ_self _))

/-- The ancestors are all that is above the path, in order and to the end. -/
theorem getElem?_ancestors (path : Path) (n : Nat) : path.ancestors[n]? = path.above n := by
  induction n generalizing path with
  | zero => cases found : path.parent? <;> simp [ancestors, ancestorsUpTo, above]
  | succ n ih =>
    cases found : path.parent? with
    | none => simp [ancestors_of_top found, above, found]
    | some parent =>
      rw [ancestors_of_parent found, List.getElem?_cons_succ, ih, above, found, Option.bind_some]

theorem mem_ancestors {directory : Path} : directory ∈ path.ancestors ↔ ∃ n, path.above n = some directory := by
  simp only [List.mem_iff_getElem?, getElem?_ancestors]

/-- There is nothing above a path without names, unless it is a dot. -/
theorem eq_of_top (top : path.parent? = none) : path.names = [] ∧ path.lead ≠ .here := by
  have noName : path.names = [] := by
    by_contra named
    obtain ⟨parent, found⟩ := parent?_isSome named
    cases top.symm.trans found
  refine ⟨noName, fun here => ?_⟩
  have trimmed : Segment.trimEnd path.body = [] := by
    rcases Segment.trimEnd_cases path.body with ⟨trimmed, _⟩ | ⟨_, _, _, whole, _, named, _⟩
    · exact trimmed
    · rw [Path.names, whole] at noName
      simp [named] at noName
  simp [parent?, trimmed, here] at top

/-- The way up takes a step for each name, and one more from an explicit dot to the empty path. -/
theorem above_eq_none_iff {n : Nat} :
    path.above n = none ↔ path.names.length + (if path.lead = .here then 1 else 0) < n := by
  induction n generalizing path with
  | zero => simp [above]
  | succ n ih =>
    rw [above]
    cases found : path.parent? with
    | none =>
      obtain ⟨noName, noDot⟩ := eq_of_top found
      simp [noName, noDot]
    | some parent =>
      rw [Option.bind_some, ih]
      rcases parent?_eq_some found with ⟨named, lead, names⟩ | ⟨none, here, rfl⟩
      · have positive := List.length_pos_iff.mpr named
        rw [lead, names, List.length_dropLast]
        omega
      · have empty : names ⟨[]⟩ = [] ∧ lead ⟨[]⟩ = .none := ⟨rfl, rfl⟩
        simp [none, here, empty]

theorem names_of_above {n : Nat} {directory : Path} (reached : path.above n = some directory) :
    directory.names = path.names.take (path.names.length - n) := by
  induction n generalizing path with
  | zero =>
    cases reached
    exact (List.take_length).symm
  | succ n ih =>
    obtain ⟨parent, found, later⟩ := Option.bind_eq_some_iff.mp reached
    rw [ih later]
    rcases parent?_eq_some found with ⟨_, _, names⟩ | ⟨none, _, rfl⟩
    · rw [names, List.dropLast_eq_take, List.take_take, List.length_take]
      congr 1
      omega
    · -- From an explicit dot the way leads to the empty path, which has no names either.
      have empty : names ⟨[]⟩ = [] := rfl
      rw [none, empty, List.take_nil, List.take_nil]

end Path

end Amalgam
