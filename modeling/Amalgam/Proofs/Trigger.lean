import Amalgam.Replacement
import Amalgam.Proofs.Lines

namespace Amalgam

namespace ArgumentList

theorem none_of_length_le {bytes : Bytes} {start : Nat} (behind : bytes.length ≤ start) :
    ArgumentList.end? bytes start = none := by
  simp [ArgumentList.end?, List.drop_eq_nil_of_le behind]

end ArgumentList

namespace Replacement

variable {r : Replacement}

/-- A trigger is a line that the filter keeps and that holds the throw pattern. -/
def IsTrigger (r : Replacement) (line : Bytes) : Prop :=
  r.filter.drops line = false ∧ line.contains r.throwPattern = true

instance (line : Bytes) : Decidable (r.IsTrigger line) :=
  inferInstanceAs (Decidable (_ ∧ _))

/-- A plain line is neither dropped nor a trigger. -/
def IsPlain (r : Replacement) (line : Bytes) : Prop :=
  r.filter.drops line = false ∧ line.contains r.throwPattern = false

instance (line : Bytes) : Decidable (r.IsPlain line) :=
  inferInstanceAs (Decidable (_ ∧ _))

theorem IsPlain.not_trigger {line : Bytes} (plain : r.IsPlain line) : ¬ r.IsTrigger line := by
  intro trigger
  exact Bool.noConfusion (plain.2.symm.trans trigger.2)

theorem not_trigger_of_dropped {line : Bytes} (dropped : r.filter.drops line = true) :
    ¬ r.IsTrigger line := by
  intro trigger
  exact Bool.noConfusion (dropped.symm.trans trigger.1)

theorem IsTrigger.not_plain {line : Bytes} (trigger : r.IsTrigger line) : ¬ r.IsPlain line := by
  intro plain
  exact plain.not_trigger trigger

theorem not_plain_of_dropped {line : Bytes} (dropped : r.filter.drops line = true) : ¬ r.IsPlain line := by
  intro plain
  exact Bool.noConfusion (dropped.symm.trans plain.1)

/-- There is a line `i`, and it is a trigger. -/
def TriggerAt (r : Replacement) (lines : List Bytes) (i : Nat) : Prop :=
  ∃ line, lines[i]? = some line ∧ r.IsTrigger line

/-- Line `i` is the last trigger of the lines. -/
def LastTrigger (r : Replacement) (lines : List Bytes) (i : Nat) : Prop :=
  r.TriggerAt lines i ∧ ∀ m, i < m → ¬ r.TriggerAt lines m

instance (lines : List Bytes) (i : Nat) : Decidable (r.TriggerAt lines i) :=
  decidable_of_iff (∃ line ∈ lines[i]?, r.IsTrigger line) (by simp [TriggerAt])

theorem TriggerAt.lt_length {lines : List Bytes} {i : Nat} (trigger : r.TriggerAt lines i) :
    i < lines.length := by
  obtain ⟨_, atLine, _⟩ := trigger
  exact (List.getElem?_eq_some_iff.mp atLine).1

theorem triggerAt_iff {lines : List Bytes} {i : Nat} {line : Bytes} (atLine : lines[i]? = some line) :
    r.TriggerAt lines i ↔ r.IsTrigger line := by
  simp only [TriggerAt, atLine, Option.some.injEq, exists_eq_left']

theorem triggerAt_concat_of_lt {seen : List Bytes} {line : Bytes} {i : Nat} (before : i < seen.length) :
    r.TriggerAt (seen ++ [line]) i ↔ r.TriggerAt seen i := by
  simp only [TriggerAt, List.getElem?_append_left before]

theorem triggerAt_take {lines : List Bytes} {i j : Nat} :
    r.TriggerAt (lines.take j) i ↔ i < j ∧ r.TriggerAt lines i := by
  by_cases before : i < j
  · simp only [TriggerAt, List.getElem?_take_of_lt before, before, true_and]
  · simp only [TriggerAt, List.getElem?_take_eq_none (Nat.not_lt.mp before), before, false_and,
      reduceCtorEq, exists_false]

theorem LastTrigger.lt_length {lines : List Bytes} {i : Nat} (last : r.LastTrigger lines i) :
    i < lines.length :=
  last.1.lt_length

instance (lines : List Bytes) (i : Nat) : Decidable (r.LastTrigger lines i) :=
  decidable_of_iff (r.TriggerAt lines i ∧ ∀ m < lines.length, i < m → ¬ r.TriggerAt lines m)
    ⟨fun last => ⟨last.1, fun m later trigger => last.2 m trigger.lt_length later trigger⟩,
      fun last => ⟨last.1, fun m _ => last.2 m⟩⟩

theorem LastTrigger.unique {lines : List Bytes} {i j : Nat} (first : r.LastTrigger lines i)
    (second : r.LastTrigger lines j) : i = j := by
  have notAfter : ¬ i < j := fun after => first.2 j after second.1
  have notBefore : ¬ j < i := fun after => second.2 i after first.1
  omega

theorem lastTrigger_concat_trigger {seen : List Bytes} {line : Bytes} {i : Nat}
    (trigger : r.IsTrigger line) : r.LastTrigger (seen ++ [line]) i ↔ i = seen.length := by
  have newest : r.LastTrigger (seen ++ [line]) seen.length := by
    refine ⟨⟨line, by simp, trigger⟩, ?_⟩
    intro m after other
    have bound := other.lt_length
    simp only [List.length_append, List.length_singleton] at bound
    omega
  constructor
  · intro last
    exact last.unique newest
  · rintro rfl
    exact newest

theorem lastTrigger_concat_other {seen : List Bytes} {line : Bytes} {i : Nat}
    (other : ¬ r.IsTrigger line) : r.LastTrigger (seen ++ [line]) i ↔ r.LastTrigger seen i := by
  have same : ∀ m, r.TriggerAt (seen ++ [line]) m ↔ r.TriggerAt seen m := by
    intro m
    by_cases before : m < seen.length
    · exact triggerAt_concat_of_lt before
    · constructor
      · intro trigger
        have bound := trigger.lt_length
        simp only [List.length_append, List.length_singleton] at bound
        have atEnd : m = seen.length := by omega
        subst atEnd
        exact absurd ((triggerAt_iff (by simp)).mp trigger) other
      · intro trigger
        exact absurd trigger.lt_length before
  simp only [LastTrigger, same]

theorem lastTrigger_take {lines : List Bytes} {i j : Nat} :
    r.LastTrigger (lines.take j) i ↔
      i < j ∧ r.TriggerAt lines i ∧ ∀ m, i < m → m < j → ¬ r.TriggerAt lines m := by
  simp only [LastTrigger, triggerAt_take, not_and, and_assoc]

/-- What a trigger holds before the throw. -/
def lead (r : Replacement) (line : Bytes) : Bytes :=
  match line.indexOf? r.throwPattern with
  | some start => (Line.ofBytes line).body.take start
  | none => []

/-- What a trigger holds behind the construction of the exception, which ends with its argument list.
Without such a list there is nothing behind it. -/
def tail (r : Replacement) (line : Bytes) : Bytes :=
  match line.indexOf? r.throwPattern with
  | some start =>
    match ArgumentList.end? (Line.ofBytes line).body (start + r.throwPattern.length) with
    | some stop => (Line.ofBytes line).body.drop stop
    | none => []
  | none => []

/-- Code stands before the throw, and not just blanks. -/
def guarded (r : Replacement) (line : Bytes) : Bool :=
  !(r.lead line).all Ascii.isBlank

/-- What a guarded trigger puts before the diagnostic. -/
def opening (r : Replacement) (line : Bytes) : Bytes :=
  if r.guarded line then r.lead line ++ openBlock else []

/-- The pattern may reach into the terminator of the line. Neither part has anything of it then. -/
theorem throwAt_eq {line : Bytes} {start : Nat} (found : line.indexOf? r.throwPattern = some start) :
    r.throwAt line start = ⟨r.lead line, r.tail line⟩ := by
  by_cases within : start ≤ (Line.ofBytes line).body.length
  · cases list : ArgumentList.end? (Line.ofBytes line).body (start + r.throwPattern.length) <;>
      simp only [throwAt, lead, tail, found, Nat.min_eq_left within, list]
  · have beyond : (Line.ofBytes line).body.length ≤ start := by omega
    have noList : ArgumentList.end? (Line.ofBytes line).body
        ((Line.ofBytes line).body.length + r.throwPattern.length) = none :=
      ArgumentList.none_of_length_le (Nat.le_add_right _ _)
    have noList' : ArgumentList.end? (Line.ofBytes line).body (start + r.throwPattern.length) = none :=
      ArgumentList.none_of_length_le (by omega)
    simp only [throwAt, lead, tail, found, Nat.min_eq_right beyond, noList, noList', List.take_length,
      List.take_of_length_le beyond]

theorem diagnosticLine_eq (r : Replacement) (line : Bytes) :
    r.diagnosticLine ⟨r.lead line, r.tail line⟩ =
      r.opening line ++ r.diagnostic ++ r.tail line ++ [Ascii.newline] := rfl

theorem newline_notMem_tail {line : Bytes} (inner : Ascii.newline ∉ line.dropLast) :
    Ascii.newline ∉ r.tail line := by
  have body := Line.newline_notMem_body inner
  unfold tail
  split
  · split
    · intro member
      exact body (List.mem_of_mem_drop member)
    · exact List.not_mem_nil
  · exact List.not_mem_nil

theorem newline_notMem_opening {line : Bytes} (inner : Ascii.newline ∉ line.dropLast) :
    Ascii.newline ∉ r.opening line := by
  have body := Line.newline_notMem_body inner
  have lead : Ascii.newline ∉ r.lead line := by
    unfold Replacement.lead
    split
    · intro member
      exact body (List.mem_of_mem_take member)
    · exact List.not_mem_nil
  have block : Ascii.newline ∉ openBlock := by decide
  unfold opening
  split
  · rw [List.mem_append, not_or]
    exact ⟨lead, block⟩
  · exact List.not_mem_nil

/-- The replacement of the default settings, with a free choice of how the end of a throw is found. -/
def stock (terminator : Terminator) : Replacement where
  filter := { includePrefixes := [Bytes.ofString "CondFormats", Bytes.ofString "FWCore"] }
  headerArtifact := "BTagCalibrationStandalone.h"
  systemIncludes := ["<iostream>", "<exception>"]
  throwPattern := Bytes.ofString "throw cms::Exception"
  diagnostic := Bytes.ofString "std::cerr << \"ERROR in BTagCalibration: \""
  raise := Bytes.ofString "throw std::exception();"
  terminator
  offset := 2

theorem terminate_eq (r : Replacement) (line : Bytes) (braced : Bool) :
    r.terminate line braced = ⟨.terminated, line ++ Line.gap line ++ r.raiseLine braced⟩ := by
  rw [terminate, Line.gap_eq]

end Replacement

end Amalgam
