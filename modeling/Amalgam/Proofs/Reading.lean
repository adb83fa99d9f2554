import Amalgam.Assembly
import Amalgam.Proofs.LineCount
import Amalgam.Proofs.Run

namespace Amalgam

namespace Bytes

variable {content rest line : Bytes}

/-- What is read up to the first newline, and with it. -/
theorem splitFirstLine_cases (content : Bytes) :
    (Ascii.newline ∉ content ∧ content.splitFirstLine = (content, [])) ∨
      ∃ body rest, Ascii.newline ∉ body ∧ content = body ++ [Ascii.newline] ++ rest ∧
        content.splitFirstLine = (body ++ [Ascii.newline], rest) := by
  have parts := List.takeWhile_append_dropWhile (p := (· != Ascii.newline)) (l := content)
  have absent : Ascii.newline ∉ content.takeWhile (· != Ascii.newline) := by
    intro member
    have passed := List.all_eq_true.mp List.all_takeWhile Ascii.newline member
    exact absurd rfl (bne_iff_ne.mp passed)
  unfold splitFirstLine
  cases behind : content.dropWhile (· != Ascii.newline) with
  | nil =>
    rw [behind, List.append_nil] at parts
    rw [parts] at absent ⊢
    exact Or.inl ⟨absent, rfl⟩
  | cons b rest =>
    have stopped := List.head?_dropWhile_not (· != Ascii.newline) content
    rw [behind, List.head?_cons] at stopped
    obtain rfl : b = Ascii.newline := by simpa using stopped
    rw [behind] at parts
    exact Or.inr ⟨_, rest, absent, by rw [List.append_assoc]; exact parts.symm, rfl⟩

theorem fst_splitFirstLine_eq_nil : content.splitFirstLine.1 = [] ↔ content = [] := by
  rcases splitFirstLine_cases content with ⟨_, split⟩ | ⟨body, rest, _, whole, split⟩
  · rw [split]
  · rw [split, whole]
    simp

theorem lines_of_notMem (absent : Ascii.newline ∉ content) (present : content ≠ []) : content.lines = [content] := by
  have inner : Ascii.newline ∉ content.dropLast := fun member => absent ((List.dropLast_sublist content).subset member)
  rw [lines_of_inner inner, if_neg (by simpa using present)]

theorem lines_eq_cons (present : content ≠ []) :
    content.lines = content.splitFirstLine.1 :: content.splitFirstLine.2.lines := by
  rcases splitFirstLine_cases content with ⟨absent, split⟩ | ⟨body, rest, absent, whole, split⟩
  · rw [split, lines_of_notMem absent present]
    rfl
  · have inner : Ascii.newline ∉ (body ++ [Ascii.newline]).dropLast := by rwa [List.dropLast_concat]
    have first : Bytes.lines (body ++ [Ascii.newline]) = [body ++ [Ascii.newline]] := by
      rw [lines_of_inner inner, if_neg (by simp)]
    rw [split, whole, lines_append (closed_concat body), first, List.singleton_append]

theorem lines_eq_nil_iff : content.lines = [] ↔ content = [] := by
  constructor
  · intro none
    rw [← flatten_lines content, none, List.flatten_nil]
  · rintro rfl
    rfl

/-- A file falls into lines in one way only. -/
theorem eq_lines_iff {lines : List Bytes} :
    lines = content.lines ↔ AreLines lines ∧ (∀ line ∈ lines, line ≠ []) ∧ lines.flatten = content := by
  constructor
  · rintro rfl
    exact ⟨areLines_lines content, fun line => ne_nil_of_mem_lines, flatten_lines content⟩
  · rintro ⟨split, present, rfl⟩
    exact (lines_flatten split present).symm

end Bytes

variable {State : Type} {rule : Rule State}

/-- Each line is treated in the state that the lines before it have left, with their number as its index. -/
theorem Rule.emissionAt_eq {lines : List Bytes} {index : Nat} {line : Bytes} (atLine : lines[index]? = some line) :
    rule.emissionAt lines index = some (rule.apply (rule.stateAfter (lines.take index)) index line).1 ∧
      rule.stateAfter (lines.take (index + 1)) =
        (rule.apply (rule.stateAfter (lines.take index)) index line).2 := by
  obtain ⟨emitted, state, emission, after, reach, applied, emits⟩ := rule.emissionAt_reach atLine
  have inside := (List.getElem?_eq_some_iff.mp atLine).1
  have length : (lines.take index).length = index := by rw [List.length_take]; omega
  have longer : lines.take (index + 1) = lines.take index ++ [line] := by
    rw [List.take_add_one, atLine, Option.toList_some]
  rw [longer, (reach.next applied).stateAfter_eq, emits, reach.stateAfter_eq]
  rw [length] at applied
  rw [applied]
  exact ⟨rfl, rfl⟩

/-- A rule reads a file as the lines that it consists of, first to last, with indices from zero on, each in the state
that the line before has left. No other list of lines makes up the file: none of them is empty, and each one but the
last ends with its only newline. They are what is read line by line until nothing is read. An empty file has no line,
nothing but newlines divides lines, none follows the last newline, and a file behind a last newline is read as if it
stood alone. -/
theorem reading_lines (rule : Rule State) (content : Bytes) :
    (∀ written, ∃ states : Nat → State, states 0 = rule.initial ∧
      (Assembly.reading rule written (.file content)).emissions.length = content.lines.length ∧
      ∀ index line, content.lines[index]? = some line →
        (Assembly.reading rule written (.file content)).emissions[index]? =
            some (rule.apply (states index) index line).1 ∧
          states (index + 1) = (rule.apply (states index) index line).2) ∧
    (∀ lines, lines = content.lines ↔
      Bytes.AreLines lines ∧ (∀ line ∈ lines, line ≠ []) ∧ lines.flatten = content) ∧
    (content.lines = if content.splitFirstLine.1 = [] then [] else
      content.splitFirstLine.1 :: content.splitFirstLine.2.lines) ∧
    (content.lines = [] ↔ content = []) ∧
    (Ascii.newline ∉ content → content ≠ [] → content.lines = [content]) ∧
    (content.getLast? = some Ascii.newline → content.lines.length = content.count Ascii.newline ∧
      ∀ more : Bytes, (content ++ more).lines = content.lines ++ more.lines) := by
  refine ⟨fun written => ?_, fun lines => Bytes.eq_lines_iff, ?_, Bytes.lines_eq_nil_iff, Bytes.lines_of_notMem, ?_⟩
  · refine ⟨fun index => rule.stateAfter (content.lines.take index), rfl, ?_, ?_⟩
    · exact (rule.reach_run content.lines).length_eq
    · intro index line atLine
      exact Rule.emissionAt_eq atLine
  · by_cases empty : content = []
    · subst empty
      rfl
    · rw [if_neg (Bytes.fst_splitFirstLine_eq_nil.not.mpr empty), Bytes.lines_eq_cons empty]
  · intro ended
    have closed : content.Closed := Or.inr ended
    exact ⟨Bytes.length_lines closed, Bytes.lines_append closed⟩

/-- A carriage return alone divides nothing, and nothing follows the last newline. -/
example : Bytes.lines (Bytes.ofString "a\rb\n\r\n\n") =
    [Bytes.ofString "a\rb\n", Bytes.ofString "\r\n", Bytes.ofString "\n"] := by decide

end Amalgam
