import Amalgam.Proofs.SourcePaths

namespace Amalgam

namespace Segment

variable {segments names rest : List Segment}

theorem trimStart_cases (segments : List Segment) :
    (trimStart segments = [] ∧ segments.filter (!·.isIdle) = []) ∨
      ∃ first behind, trimStart segments = first :: behind ∧ first :: behind <:+ segments ∧
        first.isIdle = false ∧ segments.filter (!·.isIdle) = first :: behind.filter (!·.isIdle) := by
  induction segments with
  | nil => exact Or.inl ⟨rfl, rfl⟩
  | cons segment more ih =>
    cases idle : segment.isIdle with
    | true =>
      rw [trimStart, List.dropWhile_cons_of_pos idle, List.filter_cons_of_neg (by simp [idle])]
      rcases ih with none | ⟨first, behind, trimmed, ends, named, names⟩
      · exact Or.inl none
      · exact Or.inr ⟨first, behind, trimmed, ends.trans (List.suffix_cons segment more), named, names⟩
    | false =>
      rw [trimStart, List.dropWhile_cons_of_neg (by simp [idle]), List.filter_cons_of_pos (by simp [idle])]
      exact Or.inr ⟨segment, more, rfl, List.suffix_rfl, idle, rfl⟩

theorem filter_trimStart (segments : List Segment) :
    (trimStart segments).filter (!·.isIdle) = segments.filter (!·.isIdle) := by
  rcases trimStart_cases segments with ⟨trimmed, idle⟩ | ⟨first, behind, trimmed, _, named, names⟩
  · rw [trimmed, idle, List.filter_nil]
  · rw [trimmed, names, List.filter_cons_of_pos (by simp [named])]

/-- What is trimmed at both ends begins with a segment that says something. -/
theorem isIdle_of_head?_trimmed {first : Segment} (head : (trimEnd (trimStart segments)).head? = some first) :
    first.isIdle = false := by
  obtain ⟨more, whole⟩ := List.head?_eq_some_iff.mp head
  have starts := trimEnd_prefix (trimStart segments)
  rcases trimStart_cases segments with ⟨trimmed, _⟩ | ⟨opening, behind, trimmed, _, named, _⟩
  · rw [whole, trimmed, List.prefix_nil] at starts
    cases starts
  · rw [whole, trimmed] at starts
    rw [(List.cons_prefix_cons.mp starts).1, named]

theorem after?_eq_some (found : after? names segments = some rest) :
    segments.filter (!·.isIdle) = names ++ rest.filter (!·.isIdle) ∧ rest <:+ segments := by
  induction names generalizing segments with
  | nil =>
    cases found
    exact ⟨rfl, List.suffix_rfl⟩
  | cons name names ih =>
    unfold after? at found
    rcases trimStart_cases segments with ⟨trimmed, _⟩ | ⟨first, behind, trimmed, ends, _, said⟩
    · rw [trimmed] at found
      cases found
    · rw [trimmed] at found
      obtain ⟨rfl, later⟩ := Option.ite_none_right_eq_some.mp found
      obtain ⟨others, within⟩ := ih later
      exact ⟨by rw [said, others, List.cons_append], within.trans ((List.suffix_cons first behind).trans ends)⟩

theorem after?_isSome (starts : names <+: segments.filter (!·.isIdle)) :
    ∃ rest, after? names segments = some rest := by
  induction names generalizing segments with
  | nil => exact ⟨segments, rfl⟩
  | cons name names ih =>
    unfold after?
    rcases trimStart_cases segments with ⟨_, idle⟩ | ⟨first, behind, trimmed, _, _, said⟩
    · rw [idle, List.prefix_nil] at starts
      cases starts
    · rw [said, List.cons_prefix_cons] at starts
      rw [trimmed]
      simpa only [if_pos starts.1.symm] using ih starts.2

end Segment

namespace Path

variable {a b base path rest : Path}

/-- Behind a segment that says something nothing is taken for a lead. -/
theorem ofParts_none {segments : List Segment} (noSlash : ∀ segment ∈ segments, '/' ∉ segment)
    (opened : ∀ first, segments.head? = some first → first.isIdle = false) :
    (ofParts .none segments).lead = .none ∧ (ofParts .none segments).names = segments.filter (!·.isIdle) := by
  cases segments with
  | nil => exact ⟨rfl, rfl⟩
  | cons first more =>
    refine ⟨?_, by rw [names_eq, ofParts, Lead.chars, List.nil_append, Segment.split_join (by simp) noSlash]⟩
    have named : first.isIdle = false := opened first rfl
    have free : '/' ∉ first := noSlash first List.mem_cons_self
    -- The segment is neither a dot nor empty, so the text does not open as one with a lead does.
    have alone : lead ⟨first⟩ = .none := by
      cases first with
      | nil => cases named
      | cons c behind =>
        rw [List.mem_cons, not_or] at free
        rw [lead_cons, if_neg (Ne.symm free.1), if_neg]
        rintro ⟨rfl, rfl | slash⟩
        · cases named
        · exact free.2 (List.mem_of_mem_head? slash)
    cases more with
    | nil => exact alone
    | cons next more =>
      have present : first ≠ [] := fun empty => by simp [empty, Segment.isIdle] at named
      have noDot : first ≠ ['.'] := fun dot => by simp [dot, Segment.isIdle] at named
      rw [ofParts, Lead.chars, List.nil_append, Segment.join_cons first (by simp),
        lead_append present fun dot => absurd dot noDot, alone]

theorem components_eq_nil_iff : path.components = [] ↔ path.chars = [] := by
  rw [chars_eq_nil_iff, components, List.append_eq_nil_iff, List.map_eq_nil_iff]
  refine and_congr_left fun _ => ?_
  cases path.lead <;> simp [Lead.components]

theorem take_components {n : Nat} (enough : path.lead.components.length ≤ n) :
    path.components.take n =
      path.lead.components ++ (path.names.take (n - path.lead.components.length)).map Segment.component := by
  rw [components, List.take_append, List.take_of_length_le enough, List.map_take]

/-- Everything is below the empty path. Below any other one, paths begin as that does. -/
theorem components_prefix_iff :
    base.components <+: path.components ↔ base.chars = [] ∨ base.lead = path.lead ∧ base.names <+: path.names := by
  constructor
  · intro starts
    by_cases empty : base.chars = []
    · exact Or.inl empty
    refine Or.inr ?_
    -- A base directory that says something says at least as much as the lead of the path.
    have enough : path.lead.components.length ≤ base.components.length := by
      have one : path.lead.components.length ≤ 1 := by cases path.lead <;> decide
      have present : base.components ≠ [] := fun none => empty (components_eq_nil_iff.mp none)
      exact one.trans (List.length_pos_iff.mpr present)
    have same := List.prefix_iff_eq_take.mp starts
    rw [take_components enough, components] at same
    have begins := lead_components_injective same
    rw [begins] at same
    refine ⟨begins, ?_⟩
    rw [List.map_injective_iff.mpr Segment.component_injective (List.append_cancel_left same)]
    exact List.take_prefix _ _
  · rintro (empty | ⟨begins, starts⟩)
    · rw [components_eq_nil_iff.mpr empty]
      exact List.nil_prefix
    · rw [components, components, begins, List.prefix_append_right_inj]
      exact starts.map Segment.component

theorem names_prefix_of_components (starts : base.components <+: path.components) : base.names <+: path.names := by
  rcases components_prefix_iff.mp starts with empty | ⟨_, names⟩
  · rw [(chars_eq_nil_iff.mp empty).2]
    exact List.nil_prefix
  · exact names

theorem components_join (parted : a.chars = [] ∨ b.lead = .none) :
    (a.join b).components = a.components ++ b.components := by
  by_cases empty : a.chars = []
  · obtain ⟨chars⟩ := a
    cases empty
    rw [empty_join]
    rfl
  · have noLead : b.lead = .none := parted.resolve_left empty
    have relative : b.isAbsolute = false := isRelative_iff.mpr (by rw [noLead]; decide)
    rw [components, components, components, lead_join relative, if_neg empty, names_join relative, noLead,
      List.map_append, List.append_assoc]
    rfl

theorem relativeTo?_eq_some (found : path.relativeTo? base = some rest) :
    path.components = base.components ++ rest.components ∧ (base.chars = [] ∨ rest.lead = .none) := by
  unfold relativeTo? at found
  split at found
  next empty =>
    cases found
    obtain ⟨lead, names⟩ := ofParts_prefix (Segment.trimEnd_prefix path.body)
    rw [components, components, components, lead, names, Segment.filter_trimEnd, empty.1, empty.2]
    exact ⟨rfl, Or.inl (chars_eq_nil_iff.mpr empty)⟩
  next =>
    obtain ⟨begins, later⟩ := Option.ite_none_right_eq_some.mp found
    obtain ⟨behind, after, rfl⟩ := Option.map_eq_some_iff.mp later
    obtain ⟨names, ends⟩ := Segment.after?_eq_some after
    have noSlash : ∀ segment ∈ Segment.trimEnd (Segment.trimStart behind), '/' ∉ segment := by
      intro segment member
      have kept : segment ∈ Segment.trimStart behind := (Segment.trimEnd_prefix _).subset member
      have among : segment ∈ behind := (List.dropWhile_suffix _).subset kept
      exact Segment.slash_notMem_of_mem_split (ends.subset among)
    obtain ⟨lead, names'⟩ := ofParts_none noSlash fun first head => Segment.isIdle_of_head?_trimmed head
    refine ⟨?_, Or.inr lead⟩
    rw [components, components, components, begins, lead, names', Segment.filter_trimEnd,
      Segment.filter_trimStart, Path.names, names, List.map_append, List.append_assoc]
    rfl

theorem relativeTo?_isSome (starts : base.components <+: path.components) :
    ∃ rest, path.relativeTo? base = some rest := by
  unfold relativeTo?
  split
  next => exact ⟨_, rfl⟩
  next present =>
    obtain ⟨begins, names⟩ :=
      (components_prefix_iff.mp starts).resolve_left fun empty => present (chars_eq_nil_iff.mp empty)
    obtain ⟨behind, after⟩ := Segment.after?_isSome names
    rw [if_pos begins.symm, after]
    exact ⟨_, rfl⟩

theorem join_relativeTo? (found : path.relativeTo? base = some rest) : (base.join rest).Alike path := by
  obtain ⟨whole, parted⟩ := relativeTo?_eq_some found
  exact (components_join parted).trans whole.symm

/-- All that is joined to a path stays below it, unless it becomes absolute. -/
theorem components_prefix_joined (base : Path) (parts : List Path) :
    base.components <+: (joined (base :: parts)).components ∨ (joined (base :: parts)).isAbsolute = true := by
  rw [joined_cons]
  -- An absolute part sets aside all before it, and all others are put behind what is there.
  induction parts using List.reverseRecOn with
  | nil => exact Or.inl List.prefix_rfl
  | append_singleton parts last ih =>
    rw [List.foldl_concat]
    cases absolute : last.isAbsolute with
    | true => exact Or.inr (by rwa [join_of_absolute absolute])
    | false =>
      refine ih.imp (fun below => ?_) fun root => isAbsolute_join root last
      refine below.trans (components_prefix_iff.mpr ?_)
      rw [names_join absolute, lead_join absolute]
      by_cases empty : (parts.foldl join base).chars = []
      · exact Or.inl empty
      · exact Or.inr ⟨(if_neg empty).symm, List.prefix_append _ _⟩

end Path

namespace Plan

variable {plan : Plan} {path sibling : Path}

theorem shown_of_below (plan : Plan) (below : plan.base.components <+: path.components) :
    path.relativeTo? plan.base = some (plan.shown path) := by
  obtain ⟨rest, found⟩ := Path.relativeTo?_isSome below
  rw [shown, found, Option.getD_some]

theorem shown_of_not_below (elsewhere : ¬ plan.base.components <+: path.components) : plan.shown path = path := by
  have none : path.relativeTo? plan.base = none := by
    refine Option.eq_none_iff_forall_ne_some.mpr fun rest found => elsewhere ?_
    rw [(Path.relativeTo?_eq_some found).1]
    exact List.prefix_append _ _
  rw [shown, none, Option.getD_none]

/-- Nothing in a directory is below another one with as many names. -/
theorem not_below_of_sibling (asLong : sibling.names.length = plan.base.names.length)
    (apart : sibling.names ≠ plan.base.names) (inside : sibling.components <+: path.components) :
    ¬ plan.base.components <+: path.components := by
  intro below
  have starts := Path.names_prefix_of_components inside
  have starts' := Path.names_prefix_of_components below
  exact apart ((List.prefix_of_prefix_length_le starts starts' asLong.le).eq_of_length asLong)

theorem join_shown (shows : plan.base.components <+: path.components ∨ path.isAbsolute = true) :
    (plan.base.join (plan.shown path)).Alike path := by
  by_cases below : plan.base.components <+: path.components
  · exact Path.join_relativeTo? (shown_of_below plan below)
  · rw [shown_of_not_below below, Path.join_of_absolute (shows.resolve_left below)]
    rfl

/-- What is shown of an artifact leads from the base directory to the artifact, wherever its directory is. A path below
the base directory is shown without the components of that. All others are shown as they are, and so is what lies in a
directory beside the base directory, be its name longer by a few letters only. -/
theorem join_shown_output (settings : Settings) (base : Path) (outputDir : Option Path) :
    let plan := ofSettings settings base outputDir
    (∀ planned ∈ plan.artifacts, (base.join (plan.shown planned.output)).Alike planned.output) ∧
    (∀ path, base.components <+: path.components →
      (plan.shown path).components = path.components.drop base.components.length) ∧
    (∀ path, ¬ base.components <+: path.components → plan.shown path = path) ∧
    ∀ sibling path : Path, sibling.names.length = base.names.length → sibling.names ≠ base.names →
      sibling.components <+: path.components → plan.shown path = path := by
  intro plan
  refine ⟨fun planned member => ?_, fun path below => ?_, fun path elsewhere => shown_of_not_below elsewhere, ?_⟩
  · obtain ⟨role, rfl⟩ := mem_artifacts_iff.mp member
    refine join_shown ?_
    rw [output_artifact]
    exact Path.components_prefix_joined base _
  · have found : path.relativeTo? base = some (plan.shown path) := shown_of_below plan below
    rw [(Path.relativeTo?_eq_some found).1, List.drop_left]
  · intro sibling path asLong apart inside
    exact shown_of_not_below (not_below_of_sibling asLong apart inside)

/-- The base directory is spelled with a slash too many, and what is beside it starts with its name. -/
theorem join_shown_output_cmssw :
    let plan := ofSettings {} (.ofString "/cms//cmssw/") (some (.ofString "./out//"))
    plan.header.output = .ofString "/cms//cmssw/./out//BTagCalibrationStandalone.h" ∧
      plan.shown plan.header.output = .ofString "out//BTagCalibrationStandalone.h" ∧
      ((Path.ofString "/cms//cmssw/").join (plan.shown plan.header.output)).Alike plan.header.output ∧
      (plan.shown (.ofString "/cms/cmssw/a")).components = [.name ['a']] ∧
      plan.shown (.ofString "/cmssw/a") = .ofString "/cmssw/a" ∧
      plan.shown (.ofString "/cms/cmssw-old/a") = .ofString "/cms/cmssw-old/a" := by
  intro plan
  obtain ⟨named, below, elsewhere, beside⟩ :=
    join_shown_output {} (.ofString "/cms//cmssw/") (some (.ofString "./out//"))
  have short := below (.ofString "/cms/cmssw/a") (by decide +kernel)
  exact ⟨by decide +kernel, by decide +kernel, named plan.header plan.header_mem, short.trans (by decide +kernel),
    elsewhere _ (by decide +kernel),
    beside (.ofString "/cms/cmssw-old") _ (by decide +kernel) (by decide +kernel) (by decide +kernel)⟩

end Plan

end Amalgam
