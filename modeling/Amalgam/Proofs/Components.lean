import Mathlib.Data.List.DropRight
import Amalgam.Path

namespace Amalgam

namespace Segment

theorem split_slash (rest : List Char) : split ('/' :: rest) = [] :: split rest :=
  if_pos rfl

theorem split_cons {c : Char} (other : c ≠ '/') (rest : List Char) :
    ∃ segment more, split rest = segment :: more ∧ split (c :: rest) = (c :: segment) :: more := by
  cases parts : split rest with
  | nil =>
    cases rest with
    | nil => cases parts
    | cons d rest =>
      unfold split at parts
      split at parts
      · cases parts
      · split at parts <;> cases parts
  | cons segment more => exact ⟨segment, more, rfl, by rw [split, if_neg other, parts]⟩

theorem split_ne_nil (chars : List Char) : split chars ≠ [] := by
  cases chars with
  | nil => exact List.cons_ne_nil [] []
  | cons c rest =>
    by_cases slash : c = '/'
    · rw [slash, split_slash]
      exact List.cons_ne_nil [] _
    · obtain ⟨segment, more, _, parts⟩ := split_cons slash rest
      rw [parts]
      exact List.cons_ne_nil _ more

theorem split_append_slash (first second : List Char) :
    split (first ++ '/' :: second) = split first ++ split second := by
  induction first with
  | nil => exact split_slash second
  | cons c first ih =>
    by_cases slash : c = '/'
    · rw [slash, List.cons_append, split_slash, ih, split_slash, List.cons_append]
    · obtain ⟨segment, more, parts, whole⟩ := split_cons slash first
      obtain ⟨segment', more', parts', whole'⟩ := split_cons slash (first ++ '/' :: second)
      rw [ih, parts, List.cons_append] at parts'
      cases parts'
      rw [List.cons_append, whole', whole, List.cons_append]

theorem split_of_notMem {chars : List Char} (absent : '/' ∉ chars) : split chars = [chars] := by
  induction chars with
  | nil => rfl
  | cons c rest ih =>
    rw [List.mem_cons, not_or] at absent
    obtain ⟨segment, more, parts, whole⟩ := split_cons (Ne.symm absent.1) rest
    rw [ih absent.2] at parts
    cases parts
    exact whole

theorem slash_notMem_of_mem_split {segment : Segment} {chars : List Char} (member : segment ∈ split chars) :
    '/' ∉ segment := by
  induction chars generalizing segment with
  | nil =>
    rw [List.mem_singleton.mp member]
    exact List.not_mem_nil
  | cons c rest ih =>
    by_cases slash : c = '/'
    · rw [slash, split_slash] at member
      rcases List.mem_cons.mp member with rfl | later
      · exact List.not_mem_nil
      · exact ih later
    · obtain ⟨first, more, parts, whole⟩ := split_cons slash rest
      rw [parts] at ih
      rw [whole] at member
      rcases List.mem_cons.mp member with rfl | later
      · rw [List.mem_cons, not_or]
        exact ⟨Ne.symm slash, ih List.mem_cons_self⟩
      · exact ih (List.mem_cons_of_mem first later)

theorem join_cons (segment : Segment) {more : List Segment} (others : more ≠ []) :
    join (segment :: more) = segment ++ '/' :: join more := by
  cases more with
  | nil => exact absurd rfl others
  | cons next more => rfl

theorem join_append (first : List Segment) {second : List Segment} (present : first ≠ []) (others : second ≠ []) :
    join (first ++ second) = join first ++ '/' :: join second := by
  induction first with
  | nil => exact absurd rfl present
  | cons segment first ih =>
    cases first with
    | nil => exact join_cons segment others
    | cons next first =>
      rw [List.cons_append, join_cons segment (by simp), ih (List.cons_ne_nil next first),
        join_cons segment (List.cons_ne_nil next first), List.append_assoc, List.cons_append]

theorem join_split (chars : List Char) : join (split chars) = chars := by
  induction chars with
  | nil => rfl
  | cons c rest ih =>
    by_cases slash : c = '/'
    · rw [slash, split_slash, join_cons [] (split_ne_nil rest), ih, List.nil_append]
    · obtain ⟨segment, more, parts, whole⟩ := split_cons slash rest
      rw [parts] at ih
      rw [whole]
      cases more with
      | nil => exact congrArg (c :: ·) ih
      | cons next more => exact congrArg (c :: ·) ih

theorem split_join {segments : List Segment} (present : segments ≠ [])
    (noSlash : ∀ segment ∈ segments, '/' ∉ segment) : split (join segments) = segments := by
  induction segments with
  | nil => exact absurd rfl present
  | cons segment more ih =>
    obtain ⟨first, later⟩ := List.forall_mem_cons.mp noSlash
    cases more with
    | nil => exact split_of_notMem first
    | cons next more =>
      rw [join_cons segment (List.cons_ne_nil next more), split_append_slash, split_of_notMem first,
        ih (List.cons_ne_nil next more) later, List.singleton_append]

theorem component_injective : Function.Injective component := by
  intro first second same
  unfold component isUp at same
  split at same
  next up =>
    split at same
    next up' => rw [eq_of_beq up, eq_of_beq up']
    next => cases same
  next =>
    split at same
    next => cases same
    next => exact Component.name.inj same

theorem trimEnd_concat (segments : List Segment) (last : Segment) :
    trimEnd (segments ++ [last]) = if last.isIdle then trimEnd segments else segments ++ [last] :=
  List.rdropWhile_concat isIdle segments last

/-- Trimming cuts off what says nothing, up to the last segment that says something. -/
theorem trimEnd_cases (segments : List Segment) :
    (trimEnd segments = [] ∧ segments.filter (!·.isIdle) = []) ∨
      ∃ before last behind, segments = before ++ last :: behind ∧ trimEnd segments = before ++ [last] ∧
        last.isIdle = false ∧ behind.filter (!·.isIdle) = [] := by
  induction segments using List.reverseRecOn with
  | nil => exact Or.inl ⟨rfl, rfl⟩
  | append_singleton segments final ih =>
    rw [trimEnd_concat]
    by_cases idle : final.isIdle = true
    · have silent : [final].filter (!·.isIdle) = [] := by simp [idle]
      rw [if_pos idle]
      rcases ih with ⟨trimmed, none⟩ | ⟨before, last, behind, rfl, trimmed, named, rest⟩
      · exact Or.inl ⟨trimmed, by rw [List.filter_append, none, silent, List.nil_append]⟩
      · refine Or.inr ⟨before, last, behind ++ [final], ?_, trimmed, named, ?_⟩
        · rw [List.append_assoc, List.cons_append]
        · rw [List.filter_append, rest, silent, List.nil_append]
    · rw [if_neg idle]
      exact Or.inr ⟨segments, final, [], rfl, rfl, Bool.eq_false_iff.mpr idle, rfl⟩

theorem trimEnd_prefix (segments : List Segment) : trimEnd segments <+: segments :=
  List.rdropWhile_prefix isIdle segments

theorem filter_trimEnd (segments : List Segment) :
    (trimEnd segments).filter (!·.isIdle) = segments.filter (!·.isIdle) := by
  rcases trimEnd_cases segments with ⟨trimmed, idle⟩ | ⟨before, last, behind, rfl, trimmed, named, idle⟩
  · rw [trimmed, idle, List.filter_nil]
  · rw [trimmed, List.filter_append, List.filter_append, List.filter_cons_of_pos (by rw [named]; decide),
      List.filter_cons_of_pos (by rw [named]; decide), idle, List.filter_nil]

end Segment

namespace Path

theorem isAbsolute_iff {path : Path} : path.isAbsolute = true ↔ path.lead = .root := by
  unfold isAbsolute lead
  split
  next chars => simp [chars]
  next chars => simp [chars]
  next chars => simp [chars]
  next other _ _ =>
    simp only [beq_iff_eq, reduceCtorEq, iff_false]
    intro head
    obtain ⟨rest, chars⟩ := List.head?_eq_some_iff.mp head
    exact other rest chars

theorem isRelative_iff {path : Path} : path.isAbsolute = false ↔ path.lead ≠ .root := by
  rw [← Bool.not_eq_true, isAbsolute_iff, ne_eq]

theorem lead_cons (c : Char) (rest : List Char) :
    lead ⟨c :: rest⟩ =
      if c = '/' then .root else if c = '.' ∧ (rest = [] ∨ rest.head? = some '/') then .here else .none := by
  unfold lead
  split
  next chars => cases chars; rfl
  next chars => cases chars; rfl
  next chars => cases chars; rfl
  next noSlash noDot noDotSlash =>
    rw [if_neg fun slash => noSlash rest (by rw [slash]), if_neg ?_]
    rintro ⟨rfl, rfl | head⟩
    · exact noDot rfl
    · obtain ⟨behind, rfl⟩ := List.head?_eq_some_iff.mp head
      exact noDotSlash behind rfl

/-- What follows the first segment does not change how a path begins. -/
theorem lead_append {chars more : List Char} (present : chars ≠ [])
    (parted : chars = ['.'] → more.head? = some '/') : lead ⟨chars ++ more⟩ = lead ⟨chars⟩ := by
  cases chars with
  | nil => exact absurd rfl present
  | cons c rest =>
    rw [List.cons_append, lead_cons, lead_cons]
    cases rest with
    | nil =>
      by_cases dot : c = '.'
      · subst dot
        rw [List.nil_append, parted rfl]
        simp
      · simp [dot]
    | cons d rest => simp

theorem names_eq (path : Path) : path.names = (Segment.split path.chars).filter (!·.isIdle) := by
  unfold names body lead
  split
  next rest chars => rw [chars, Segment.split_slash]; rfl
  next chars => rw [chars]; rfl
  next rest chars => rw [chars]; rfl
  next => rfl

theorem ofParts_body (path : Path) : ofParts path.lead path.body = path := by
  obtain ⟨chars⟩ := path
  rw [ofParts, body, Segment.join_split, mk.injEq]
  unfold lead
  split
  next rest same => cases same; rfl
  next same => cases same; rfl
  next rest same => cases same; rfl
  next => rfl

/-- The first segments of a path begin as the path does. -/
theorem ofParts_prefix {path : Path} {segments : List Segment} (front : segments <+: path.body) :
    (ofParts path.lead segments).lead = path.lead ∧
      (ofParts path.lead segments).names = segments.filter (!·.isIdle) := by
  have lead_eq : (ofParts path.lead segments).lead = path.lead := by
    obtain ⟨rest, whole⟩ := front
    by_cases none : segments = []
    · rw [none]
      cases path.lead <;> rfl
    by_cases all : rest = []
    · rw [all, List.append_nil] at whole
      rw [whole, ofParts_body]
    have chars := congrArg Path.chars (ofParts_body path)
    rw [ofParts, ← whole, Segment.join_append segments none all, ← List.append_assoc] at chars
    by_cases empty : path.lead.chars ++ Segment.join segments = []
    · rw [empty] at chars
      have root : path.lead = .root := by
        rw [← isAbsolute_iff, isAbsolute, ← chars]
        rfl
      rw [root] at empty
      cases empty
    · have longer : lead ⟨path.lead.chars ++ Segment.join segments ++ '/' :: Segment.join rest⟩ =
          lead ⟨path.lead.chars ++ Segment.join segments⟩ := lead_append empty fun _ => rfl
      exact longer.symm.trans (congrArg (fun chars => lead ⟨chars⟩) chars)
  refine ⟨lead_eq, ?_⟩
  rw [names, body, lead_eq, ofParts, List.drop_left]
  by_cases none : segments = []
  · rw [none]
    rfl
  · rw [Segment.split_join none]
    intro segment member
    exact Segment.slash_notMem_of_mem_split (front.subset member)

/-- Only the empty path says nothing at all. -/
theorem chars_eq_nil_iff {path : Path} : path.chars = [] ↔ path.lead = .none ∧ path.names = [] := by
  obtain ⟨chars⟩ := path
  constructor
  · rintro rfl
    exact ⟨rfl, rfl⟩
  · rintro ⟨lead, names⟩
    cases chars with
    | nil => rfl
    | cons c rest =>
      rw [lead_cons] at lead
      split at lead
      · cases lead
      next other =>
        obtain ⟨segment, more, parts, whole⟩ := Segment.split_cons other rest
        rw [names_eq, whole, List.filter_eq_nil_iff] at names
        have idle : c = '.' ∧ segment = [] := by
          simpa [Segment.isIdle] using names _ List.mem_cons_self
        have text := Segment.join_split rest
        rw [parts, idle.2] at text
        have here : rest = [] ∨ rest.head? = some '/' := by
          cases more with
          | nil => exact Or.inl text.symm
          | cons next more => exact Or.inr (by rw [← text]; rfl)
        rw [if_pos ⟨idle.1, here⟩] at lead
        cases lead

/-- The names of a path do not start with what only a lead says. -/
theorem map_component_ne_cons {first : Component} (ofLead : first = .root ∨ first = .here)
    (names : List Segment) (more : List Component) : names.map Segment.component ≠ first :: more := by
  intro same
  obtain ⟨segment, _, _, named, _⟩ := List.map_eq_cons_iff.mp same
  unfold Segment.component at named
  split at named <;> rcases ofLead with rfl | rfl <;> cases named

theorem lead_components_injective {a b : Lead} {names names' : List Segment}
    (same : a.components ++ names.map Segment.component = b.components ++ names'.map Segment.component) :
    a = b := by
  cases a with
  | none =>
    cases b with
    | none => rfl
    | root => exact absurd same (map_component_ne_cons (Or.inl rfl) names _)
    | here => exact absurd same (map_component_ne_cons (Or.inr rfl) names _)
  | root =>
    cases b with
    | none => exact absurd same.symm (map_component_ne_cons (Or.inl rfl) names' _)
    | root => rfl
    | here => cases same
  | here =>
    cases b with
    | none => exact absurd same.symm (map_component_ne_cons (Or.inr rfl) names' _)
    | root => cases same
    | here => rfl

/-- Two paths say the same exactly if they begin alike and have the same names. -/
theorem alike_iff {a b : Path} : a.Alike b ↔ a.lead = b.lead ∧ a.names = b.names := by
  constructor
  · intro same
    have begins : a.lead = b.lead := lead_components_injective same
    rw [Alike, components, components, begins] at same
    exact ⟨begins, List.map_injective_iff.mpr Segment.component_injective (List.append_cancel_left same)⟩
  · rintro ⟨begins, same⟩
    rw [Alike, components, components, begins, same]

section Join

variable {a b : Path}

theorem join_of_absolute (absolute : b.isAbsolute = true) : a.join b = b := by
  rw [join, if_pos absolute]

/-- A slash parts two paths that are joined, be it at the end of the first one or between them. The empty
path is not parted from what is joined to it. -/
theorem join_cases (relative : b.isAbsolute = false) :
    (a.chars = [] ∧ a.join b = b) ∨
      ∃ front, (a.chars = front ++ ['/'] ∨ a.chars = front ∧ front ≠ []) ∧
        a.join b = ⟨front ++ '/' :: b.chars⟩ := by
  rw [join, if_neg (by rw [relative]; decide)]
  by_cases empty : a.chars = []
  · exact Or.inl ⟨empty, by simp [empty]⟩
  refine Or.inr ?_
  by_cases slash : a.chars.getLast? = some '/'
  · obtain ⟨front, chars⟩ := List.getLast?_eq_some_iff.mp slash
    exact ⟨front, Or.inl chars, by simp [chars]⟩
  · exact ⟨a.chars, Or.inr ⟨rfl, empty⟩, by simp [empty, slash]⟩

/-- The names of two paths stand one behind the other when these are joined. -/
theorem names_join (relative : b.isAbsolute = false) : (a.join b).names = a.names ++ b.names := by
  rcases join_cases relative with ⟨empty, joined⟩ | ⟨front, slash | ⟨same, _⟩, joined⟩
  · rw [joined, (chars_eq_nil_iff.mp empty).2, List.nil_append]
  · have idle : (Segment.split []).filter (!·.isIdle) = [] := rfl
    rw [joined, names_eq, names_eq a, names_eq b, slash, Segment.split_append_slash,
      Segment.split_append_slash, List.filter_append, List.filter_append, idle, List.append_nil]
  · rw [joined, names_eq, names_eq a, names_eq b, same, Segment.split_append_slash, List.filter_append]

/-- What is joined to a path begins as that does, if it says anything. -/
theorem lead_join (relative : b.isAbsolute = false) :
    (a.join b).lead = if a.chars = [] then b.lead else a.lead := by
  obtain ⟨chars⟩ := a
  rcases join_cases relative with ⟨empty, joined⟩ | ⟨front, slash | ⟨same, present⟩, joined⟩
  · rw [joined, if_pos empty]
  · have longer : lead ⟨front ++ ['/'] ++ b.chars⟩ = lead ⟨front ++ ['/']⟩ := by
      refine lead_append (by simp) fun dot => ?_
      exact absurd (congrArg List.getLast? dot) (by simp)
    subst slash
    rw [joined, if_neg (by simp), ← longer, List.append_assoc, List.singleton_append]
  · cases same
    rw [joined, if_neg present]
    exact lead_append present fun _ => rfl

end Join

/-- The parent is cut from the front of the path, where its last name is missing. The parent of a dot is the empty
path. -/
theorem parent?_front {path parent : Path} (found : path.parent? = some parent) :
    (∃ front, front <+: path.body ∧ parent = ofParts path.lead front ∧ path.names ≠ [] ∧
      front.filter (!·.isIdle) = path.names.dropLast) ∨
      path.names = [] ∧ path.lead = .here ∧ parent = ⟨[]⟩ := by
  unfold parent? at found
  rcases Segment.trimEnd_cases path.body with ⟨trimmed, idle⟩ | ⟨before, last, behind, whole, trimmed, named, idle⟩
  · rw [trimmed] at found
    obtain ⟨here, same⟩ := Option.ite_none_right_eq_some.mp found
    exact Or.inr ⟨idle, here, (Option.some.inj same).symm⟩
  · have names : path.names = before.filter (!·.isIdle) ++ [last] := by
      rw [Path.names, whole, List.filter_append, List.filter_cons_of_pos (by rw [named]; decide), idle]
    simp only [trimmed, List.reverse_append, List.reverse_singleton, List.singleton_append,
      List.reverse_reverse] at found
    cases found
    refine Or.inl ⟨Segment.trimEnd before, ?_, rfl, by simp [names], ?_⟩
    · exact (Segment.trimEnd_prefix before).trans (whole ▸ List.prefix_append before _)
    · rw [Segment.filter_trimEnd, names, List.dropLast_concat]

theorem parent?_eq_some {path parent : Path} (found : path.parent? = some parent) :
    (path.names ≠ [] ∧ parent.lead = path.lead ∧ parent.names = path.names.dropLast) ∨
      path.names = [] ∧ path.lead = .here ∧ parent = ⟨[]⟩ := by
  rcases parent?_front found with ⟨front, starts, rfl, present, kept⟩ | dot
  · obtain ⟨lead, names⟩ := ofParts_prefix starts
    exact Or.inl ⟨present, lead, names.trans kept⟩
  · exact Or.inr dot

theorem parent?_isSome {path : Path} (named : path.names ≠ []) : ∃ parent, path.parent? = some parent := by
  unfold parent?
  rcases Segment.trimEnd_cases path.body with ⟨_, idle⟩ | ⟨before, last, _, _, trimmed, _⟩
  · exact absurd idle named
  · rw [trimmed, List.reverse_append, List.reverse_singleton, List.singleton_append]
    exact ⟨_, rfl⟩

end Path

end Amalgam
