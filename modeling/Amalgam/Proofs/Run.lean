import Amalgam.Rule

namespace Amalgam

variable {State : Type} {rule : Rule State}

/-- The lines that a rule has read since it started, what it emitted for them, and the state it is
in. The next line is read at the index that follows theirs. A fact about all runs is an induction over
this. -/
inductive Rule.Reach (rule : Rule State) : List Bytes → List Emission → State → Prop
  | start : rule.Reach [] [] rule.initial
  | next {seen emitted state line emission after} : rule.Reach seen emitted state →
      rule.apply state seen.length line = (emission, after) →
      rule.Reach (seen ++ [line]) (emitted ++ [emission]) after

/-- What the rule emits for line `j` when it runs over the lines from its initial state. -/
def Rule.emissionAt (rule : Rule State) (lines : List Bytes) (j : Nat) : Option Emission :=
  (rule.run rule.initial 0 lines).1[j]?

/-- The state that the rule is in behind the lines. -/
def Rule.stateAfter (rule : Rule State) (lines : List Bytes) : State :=
  (rule.run rule.initial 0 lines).2

/-- All that the rule emits for the lines, as one text. -/
def Rule.output (rule : Rule State) (lines : List Bytes) : Bytes :=
  ((rule.run rule.initial 0 lines).1.map (·.text)).flatten

/-- How many lines the rule treats in a certain way. -/
def Rule.tally (rule : Rule State) (treated : Bytes → Emission → Bool) (lines : List Bytes) : Nat :=
  (lines.zip (rule.run rule.initial 0 lines).1).countP fun (line, emission) => treated line emission

theorem Rule.run_append (state : State) (index : Nat) (first second : List Bytes) :
    rule.run state index (first ++ second) =
      ((rule.run state index first).1 ++
          (rule.run (rule.run state index first).2 (index + first.length) second).1,
        (rule.run (rule.run state index first).2 (index + first.length) second).2) := by
  induction first generalizing state index with
  | nil => simp [Rule.run]
  | cons line first ih =>
    have shifted : index + 1 + first.length = index + (line :: first).length := by
      simp only [List.length_cons]
      omega
    simp only [List.cons_append, Rule.run, ih, shifted]

theorem Rule.run_take (state : State) (index : Nat) (lines : List Bytes) (k : Nat) :
    (rule.run state index (lines.take k)).1 = (rule.run state index lines).1.take k := by
  induction lines generalizing state index k with
  | nil => simp only [List.take_nil, Rule.run]
  | cons line lines ih =>
    cases k with
    | zero => rfl
    | succ k => simp only [List.take_succ_cons, Rule.run, ih]

theorem Rule.Reach.length_eq {seen : List Bytes} {emitted : List Emission} {state : State}
    (reach : rule.Reach seen emitted state) : emitted.length = seen.length := by
  induction reach with
  | start => rfl
  | next _ _ ih => simp only [List.length_append, List.length_singleton, ih]

/-- A run is what the rule computes, line by line from its initial state. -/
theorem Rule.Reach.run_eq {seen : List Bytes} {emitted : List Emission} {state : State}
    (reach : rule.Reach seen emitted state) : rule.run rule.initial 0 seen = (emitted, state) := by
  induction reach with
  | start => rfl
  | next _ applied ih => simp only [Rule.run_append, ih, Rule.run, Nat.zero_add, applied]

theorem Rule.reach_run (lines : List Bytes) :
    rule.Reach lines (rule.run rule.initial 0 lines).1 (rule.stateAfter lines) := by
  have extend : ∀ (rest seen : List Bytes) (emitted : List Emission) (state : State),
      rule.Reach seen emitted state →
        rule.Reach (seen ++ rest) (emitted ++ (rule.run state seen.length rest).1)
          (rule.run state seen.length rest).2 := by
    intro rest
    induction rest with
    | nil =>
      intro seen emitted state reach
      simpa only [Rule.run, List.append_nil] using reach
    | cons line rest ih =>
      intro seen emitted state reach
      have longer := ih (seen ++ [line]) _ _ (reach.next rfl)
      simpa only [Rule.run, List.length_append, List.length_singleton, List.append_assoc,
        List.singleton_append] using longer
  exact extend lines [] [] rule.initial .start

/-- What is emitted for a line is what the rule makes of it in the state behind the lines before it. -/
theorem Rule.emissionAt_reach {lines : List Bytes} {j : Nat} {line : Bytes} (atLine : lines[j]? = some line) :
    ∃ emitted state emission after, rule.Reach (lines.take j) emitted state ∧
      rule.apply state (lines.take j).length line = (emission, after) ∧
      rule.emissionAt lines j = some emission := by
  obtain ⟨inside, same⟩ := List.getElem?_eq_some_iff.mp atLine
  have reach := rule.reach_run (lines.take j)
  refine ⟨_, _, _, _, reach, rfl, ?_⟩
  have length := reach.length_eq
  have taken : (lines.take j).length = j := by rw [List.length_take]; omega
  have parts : lines = lines.take j ++ line :: lines.drop (j + 1) := by
    rw [← same, ← List.drop_eq_getElem_cons inside, List.take_append_drop]
  have emissions : (rule.run rule.initial 0 lines).1 =
      (rule.run rule.initial 0 (lines.take j ++ line :: lines.drop (j + 1))).1 := by rw [← parts]
  rw [Rule.emissionAt, emissions, Rule.run_append, List.getElem?_append_right (by omega), length, taken,
    Nat.sub_self]
  simp only [Rule.run, Nat.zero_add, List.getElem?_cons_zero, Rule.stateAfter]

theorem Rule.line_of_emissionAt {lines : List Bytes} {j : Nat} {emission : Emission}
    (emits : rule.emissionAt lines j = some emission) : ∃ line, lines[j]? = some line := by
  have inside := (List.getElem?_eq_some_iff.mp emits).1
  rw [(rule.reach_run lines).length_eq] at inside
  exact ⟨_, List.getElem?_eq_getElem inside⟩

theorem Rule.Reach.output_concat {seen : List Bytes} {emitted : List Emission} {state after : State}
    {line : Bytes} {emission : Emission} (reach : rule.Reach seen emitted state)
    (applied : rule.apply state seen.length line = (emission, after)) :
    rule.output (seen ++ [line]) = rule.output seen ++ emission.text := by
  rw [Rule.output, (reach.next applied).run_eq, Rule.output, reach.run_eq]
  simp only [List.map_append, List.map_cons, List.map_nil, List.flatten_append, List.flatten_singleton]

theorem Rule.Reach.stateAfter_eq {seen : List Bytes} {emitted : List Emission} {state : State}
    (reach : rule.Reach seen emitted state) : rule.stateAfter seen = state := by
  rw [Rule.stateAfter, reach.run_eq]

theorem Rule.Reach.tally_concat {seen : List Bytes} {emitted : List Emission} {state after : State}
    {line : Bytes} {emission : Emission} (reach : rule.Reach seen emitted state)
    (applied : rule.apply state seen.length line = (emission, after)) (treated : Bytes → Emission → Bool) :
    rule.tally treated (seen ++ [line]) = rule.tally treated seen + (treated line emission).toNat := by
  have longer := reach.next applied
  simp only [Rule.tally, longer.run_eq, reach.run_eq, List.zip_append reach.length_eq.symm,
    List.countP_append, List.zip_cons_cons, List.zip_nil_left, List.countP_singleton]
  cases treated line emission <;> rfl

/-- Two rules that read the same lines side by side. In related states they emit the same for the next line, and
their states stay related. -/
structure Rule.Simulation {State' : Type} (rule : Rule State) (rule' : Rule State') (lines : List Bytes) where
  Related : Nat → State → State' → Prop
  start : Related 0 rule.initial rule'.initial
  step : ∀ n line state state', lines[n]? = some line → Related n state state' →
    (rule.apply state n line).1 = (rule'.apply state' n line).1 ∧
      Related (n + 1) (rule.apply state n line).2 (rule'.apply state' n line).2

theorem Rule.Simulation.run_eq {State' : Type} {rule' : Rule State'} {lines : List Bytes}
    (simulation : rule.Simulation rule' lines) :
    (rule.run rule.initial 0 lines).1 = (rule'.run rule'.initial 0 lines).1 := by
  have onward : ∀ (rest : List Bytes) (n : Nat) (state : State) (state' : State'), lines.drop n = rest →
      simulation.Related n state state' → (rule.run state n rest).1 = (rule'.run state' n rest).1 := by
    intro rest
    induction rest with
    | nil => exact fun _ _ _ _ _ => rfl
    | cons line rest ih =>
      intro n state state' left related
      have atLine : lines[n]? = some line := by rw [← List.head?_drop, left, List.head?_cons]
      obtain ⟨same, related⟩ := simulation.step n line state state' atLine related
      have later : lines.drop (n + 1) = rest := by rw [← List.tail_drop, left, List.tail_cons]
      exact List.cons_eq_cons.mpr ⟨same, ih (n + 1) _ _ later related⟩
  exact onward lines 0 _ _ rfl simulation.start

end Amalgam
