import Amalgam.Proofs.Lines

namespace Amalgam.Bytes

variable {first second line text : Bytes}

/-- A text is closed if whatever is put behind it starts on a line of its own. -/
def Closed (text : Bytes) : Prop :=
  text = [] ∨ text.getLast? = some Ascii.newline

theorem closed_concat (text : Bytes) : Closed (text ++ [Ascii.newline]) :=
  Or.inr List.getLast?_concat

theorem Closed.append (closed : Closed first) (closed' : Closed second) : Closed (first ++ second) := by
  rcases closed' with rfl | ended
  · rwa [List.append_nil]
  · refine Or.inr ?_
    rw [List.getLast?_append, ended, Option.some_or]

theorem IsWhole.closed (whole : line.IsWhole) : Closed line :=
  Or.inr whole.2

theorem flatten_linesFrom (current text : Bytes) :
    (linesFrom current text).flatten = current.reverse ++ text := by
  induction text generalizing current with
  | nil =>
    rw [linesFrom, List.append_nil]
    split
    next empty => rw [List.isEmpty_iff.mp empty]; rfl
    next => exact List.flatten_singleton
  | cons b rest ih =>
    rw [linesFrom]
    split
    · rw [List.flatten_cons, ih, List.reverse_cons, List.append_assoc]
      rfl
    · rw [ih, List.reverse_cons, List.append_assoc]
      rfl

theorem flatten_lines (text : Bytes) : text.lines.flatten = text :=
  flatten_linesFrom [] text

/-- Reading on from a closed text is reading from its start and then anew. -/
theorem linesFrom_append {current : Bytes} (closed : Closed first) (fresh : first = [] → current = []) :
    linesFrom current (first ++ second) = linesFrom current first ++ second.lines := by
  induction first generalizing current with
  | nil =>
    rw [fresh rfl]
    rfl
  | cons b rest ih =>
    have later : Closed rest := by
      rcases closed with none | ended
      · exact absurd none (List.cons_ne_nil b rest)
      · cases rest with
        | nil => exact Or.inl rfl
        | cons c rest => exact Or.inr (by rwa [List.getLast?_cons_cons] at ended)
    rw [List.cons_append, linesFrom, linesFrom]
    split
    · rw [ih later fun _ => rfl, List.cons_append]
    next other =>
      refine ih later fun empty => ?_
      subst empty
      rcases closed with none | ended
      · exact absurd none (List.cons_ne_nil b [])
      · exact absurd (Option.some.inj ended) other

theorem lines_append (closed : Closed first) (second : Bytes) :
    (first ++ second).lines = first.lines ++ second.lines :=
  linesFrom_append closed fun _ => rfl

theorem AreLines.cons {lines : List Bytes} (whole : line.IsWhole) (split : AreLines lines) :
    AreLines (line :: lines) := by
  refine ⟨List.forall_mem_cons.mpr ⟨whole.1, split.inner⟩, ?_⟩
  cases lines with
  | nil => exact fun line member => absurd member List.not_mem_nil
  | cons next lines => exact List.forall_mem_cons.mpr ⟨whole.2, split.ended⟩

theorem AreLines.sublist {lines lines' : List Bytes} (split : AreLines lines) (among : lines'.Sublist lines) :
    AreLines lines' := by
  have front : lines'.dropLast.Sublist lines.dropLast := by
    have reversed := among.reverse.tail
    rwa [List.tail_reverse, List.tail_reverse, List.reverse_sublist] at reversed
  exact ⟨fun line member => split.inner line (among.subset member),
    fun line member => split.ended line (front.subset member)⟩

theorem areLines_linesFrom {current : Bytes} (absent : Ascii.newline ∉ current) (text : Bytes) :
    AreLines (linesFrom current text) := by
  induction text generalizing current with
  | nil =>
    rw [linesFrom]
    split
    · exact ⟨nofun, nofun⟩
    · refine ⟨fun line member => ?_, nofun⟩
      rw [List.mem_singleton.mp member]
      exact fun within => absent (List.mem_reverse.mp ((List.dropLast_sublist _).subset within))
  | cons b rest ih =>
    rw [linesFrom]
    split
    next newline =>
      refine AreLines.cons ⟨?_, ?_⟩ (ih List.not_mem_nil)
      · rw [List.reverse_cons, List.dropLast_concat, List.mem_reverse]
        exact absent
      · rw [List.reverse_cons, List.getLast?_concat, newline]
    next other =>
      refine ih fun member => ?_
      rcases List.mem_cons.mp member with same | before
      · exact other same.symm
      · exact absent before

theorem areLines_lines (text : Bytes) : AreLines text.lines :=
  areLines_linesFrom List.not_mem_nil text

theorem linesFrom_of_inner {current : Bytes} (inner : Ascii.newline ∉ text.dropLast) :
    linesFrom current text = if (current.reverse ++ text).isEmpty then [] else [current.reverse ++ text] := by
  induction text generalizing current with
  | nil => simp [linesFrom]
  | cons b rest ih =>
    cases rest with
    | nil => simp [linesFrom]
    | cons c rest =>
      rw [List.dropLast_cons_cons, List.mem_cons, not_or] at inner
      rw [linesFrom, if_neg (Ne.symm inner.1), ih inner.2, List.reverse_cons, List.append_assoc,
        List.singleton_append]

theorem lines_of_inner (inner : Ascii.newline ∉ text.dropLast) :
    text.lines = if text.isEmpty then [] else [text] :=
  linesFrom_of_inner inner

theorem ne_nil_of_mem_linesFrom {current : Bytes} (member : line ∈ linesFrom current text) : line ≠ [] := by
  induction text generalizing current with
  | nil =>
    rw [linesFrom] at member
    split at member
    · exact absurd member List.not_mem_nil
    next present =>
      rw [List.mem_singleton.mp member]
      simpa using present
  | cons b rest ih =>
    rw [linesFrom] at member
    split at member
    · rcases List.mem_cons.mp member with rfl | later
      · simp
      · exact ih later
    · exact ih member

theorem ne_nil_of_mem_lines (member : line ∈ text.lines) : line ≠ [] :=
  ne_nil_of_mem_linesFrom member

/-- All lines of a closed text are whole, and so is the last one. -/
theorem isWhole_of_mem_lines (closed : Closed text) (member : line ∈ text.lines) : line.IsWhole := by
  have split := areLines_lines text
  refine ⟨split.inner line member, ?_⟩
  rcases List.eq_nil_or_concat text.lines with none | ⟨front, last, whole⟩
  · rw [none] at member
    exact absurd member List.not_mem_nil
  rw [List.concat_eq_append] at whole
  have present : last ≠ [] := ne_nil_of_mem_lines (whole ▸ List.mem_append_right front List.mem_cons_self)
  rw [whole] at member
  rcases List.mem_append.mp member with earlier | isLast
  · exact split.ended line (by rwa [whole, List.dropLast_concat])
  · have parts : text = front.flatten ++ last := by
      rw [← flatten_lines text, whole, List.flatten_append, List.flatten_singleton]
    rw [List.mem_singleton.mp isLast]
    rcases closed with empty | ended
    · rw [empty] at parts
      exact absurd (List.append_eq_nil_iff.mp parts.symm).2 present
    · rw [parts, List.getLast?_append, List.getLast?_eq_some_getLast present, Option.some_or] at ended
      rw [List.getLast?_eq_some_getLast present, ended]

/-- Lines as a file has them are the lines of the text that they make up, as long as none is empty. -/
theorem lines_flatten {lines : List Bytes} (split : AreLines lines) (present : ∀ line ∈ lines, line ≠ []) :
    Bytes.lines lines.flatten = lines := by
  induction lines with
  | nil => rfl
  | cons line lines ih =>
    obtain ⟨first, later⟩ := List.forall_mem_cons.mp present
    have only : line.lines = [line] := by
      rw [lines_of_inner (split.inner line List.mem_cons_self), if_neg (by simpa using first)]
    cases lines with
    | nil => rw [List.flatten_singleton, only]
    | cons next lines =>
      have ended := split.ended line List.mem_cons_self
      rw [List.flatten_cons, lines_append (Or.inr ended), only, ih split.tail later, List.singleton_append]

end Amalgam.Bytes
