import Amalgam.Proofs.Run
import Amalgam.Proofs.Step

namespace Amalgam.Replacement

variable {r : Replacement}

/-- Line `j` stands the offset behind a trigger, with no other trigger between them. -/
def RaiseDue (r : Replacement) (lines : List Bytes) (j : Nat) : Prop :=
  r.offset ≤ j ∧ r.TriggerAt lines (j - r.offset) ∧
    ∀ m, j - r.offset < m → m < j → ¬ r.TriggerAt lines m

instance (lines : List Bytes) (j : Nat) : Decidable (r.RaiseDue lines j) :=
  decidable_of_iff (r.offset ≤ j ∧ r.TriggerAt lines (j - r.offset) ∧
      ∀ m < j, j - r.offset < m → ¬ r.TriggerAt lines m)
    ⟨fun due => ⟨due.1, due.2.1, fun m after before => due.2.2 m before after⟩,
      fun due => ⟨due.1, due.2.1, fun m before after => due.2.2 m after before⟩⟩

/-- The raise behind line `j` answers trigger `i`, the latest before it. -/
def RaisedFor (r : Replacement) (lines : List Bytes) (i j : Nat) : Prop :=
  (∃ emission, r.rule.emissionAt lines j = some emission ∧ emission.outcome = .terminated) ∧
    i < j ∧ r.TriggerAt lines i ∧ ∀ m, i < m → m < j → ¬ r.TriggerAt lines m

/-- What is emitted for a line by its outcome. -/
def offsetText (r : Replacement) (line : Bytes) : Outcome → Bytes
  | .dropped => []
  | .triggered => r.diagnostic ++ [Ascii.newline]
  | .terminated => line ++ Line.gap line ++ r.raise ++ [Ascii.newline]
  | .kept | .triggeredAndTerminated => line

/-- A pending throw is the last trigger, and the last trigger is pending until its raise is due. -/
structure OffsetInvariant (r : Replacement) (seen : List Bytes) (state : State) : Prop where
  last : ∀ i, state.pendingLine = some i → r.LastTrigger seen i
  waits : ∀ i, r.LastTrigger seen i → seen.length ≤ i + r.offset → state.pendingLine = some i

/-- Time passes, and nothing else changes. -/
theorem OffsetInvariant.concat_other {seen : List Bytes} {state : State} {line : Bytes}
    (inv : r.OffsetInvariant seen state) (other : ¬ r.IsTrigger line) :
    r.OffsetInvariant (seen ++ [line]) state := by
  refine ⟨?_, ?_⟩
  · intro i waits
    exact (lastTrigger_concat_other other).mpr (inv.last i waits)
  · intro i last early
    rw [List.length_append, List.length_singleton] at early
    exact inv.waits i ((lastTrigger_concat_other other).mp last) (by omega)

theorem OffsetInvariant.step {seen : List Bytes} {state after : State} {line : Bytes}
    {emission : Emission} (inv : r.OffsetInvariant seen state)
    (step : r.OffsetStep seen.length line state emission after) :
    r.OffsetInvariant (seen ++ [line]) after := by
  cases step with
  | dropped dropped => exact inv.concat_other (not_trigger_of_dropped dropped)
  | triggered trigger =>
    refine ⟨?_, ?_⟩
    · intro i waits
      exact (lastTrigger_concat_trigger trigger).mpr (Option.some.inj waits).symm
    · intro i last _
      exact congrArg some ((lastTrigger_concat_trigger trigger).mp last).symm
  | idle plain _ => exact inv.concat_other plain.not_trigger
  | waiting plain _ _ => exact inv.concat_other plain.not_trigger
  | raised plain waits onTime =>
    refine ⟨nofun, ?_⟩
    intro i last early
    -- The raise was due for the last trigger, so none is left to wait for.
    have sole := (inv.last _ waits).unique ((lastTrigger_concat_other plain.not_trigger).mp last)
    rw [List.length_append, List.length_singleton] at early
    omega

theorem offsetInvariant_of_reach {seen : List Bytes} {emitted : List Emission} {state : State}
    (mode : r.terminator = .lineOffset) (reach : r.rule.Reach seen emitted state) :
    r.OffsetInvariant seen state := by
  induction reach with
  | start =>
    refine ⟨nofun, ?_⟩
    intro i last
    exact absurd last.lt_length (Nat.not_lt_zero i)
  | next _ applied ih => exact ih.step (offsetStep_of_apply mode applied)

/-- The countdown on indices and the condition on lines agree. -/
theorem OffsetInvariant.raiseDue_iff {lines : List Bytes} {j : Nat} {state : State}
    (inv : r.OffsetInvariant (lines.take j) state) (positive : 1 ≤ r.offset) :
    r.RaiseDue lines j ↔ ∃ i, state.pendingLine = some i ∧ j = i + r.offset := by
  constructor
  · rintro ⟨room, trigger, none⟩
    have last : r.LastTrigger (lines.take j) (j - r.offset) :=
      lastTrigger_take.mpr ⟨by omega, trigger, none⟩
    have length := List.length_take_le j lines
    exact ⟨j - r.offset, inv.waits _ last (by omega), by omega⟩
  · rintro ⟨i, waits, rfl⟩
    obtain ⟨_, trigger, none⟩ := lastTrigger_take.mp (inv.last i waits)
    have back : i + r.offset - r.offset = i := by omega
    exact ⟨Nat.le_add_left _ _, by rwa [back], by rwa [back]⟩

/-- What becomes of a line is decided by the line and by whether the countdown has come to it. -/
theorem OffsetStep.emission_eq {index : Nat} {line : Bytes} {state next : State}
    {emission : Emission} (step : r.OffsetStep index line state emission next) :
    emission = ⟨emission.outcome, r.offsetText line emission.outcome⟩ ∧
      (emission.outcome = .dropped ↔ r.filter.drops line = true) ∧
      (emission.outcome = .triggered ↔ r.IsTrigger line) ∧
      (emission.outcome = .terminated ↔
        r.IsPlain line ∧ ∃ i, state.pendingLine = some i ∧ index = i + r.offset) ∧
      (emission.outcome = .kept ↔
        r.IsPlain line ∧ ¬ ∃ i, state.pendingLine = some i ∧ index = i + r.offset) := by
  cases step with
  | dropped dropped =>
    refine ⟨rfl, ?_⟩
    simp [dropped, not_trigger_of_dropped dropped, not_plain_of_dropped dropped]
  | triggered trigger =>
    refine ⟨rfl, ?_⟩
    simp [trigger.1, trigger, trigger.not_plain]
  | idle plain idle =>
    refine ⟨rfl, ?_⟩
    simp [plain.1, plain, plain.not_trigger, idle]
  | waiting plain waits early =>
    refine ⟨rfl, ?_⟩
    simp [plain.1, plain, plain.not_trigger, waits, early]
  | raised plain waits onTime =>
    refine ⟨by simp [offsetText, raiseLine], ?_⟩
    simp [plain.1, plain, plain.not_trigger, waits, onTime]

theorem lineOffset_emissionAt (mode : r.terminator = .lineOffset) (positive : 1 ≤ r.offset)
    {lines : List Bytes} {j : Nat} {line : Bytes} (atLine : lines[j]? = some line) :
    ∃ outcome, r.rule.emissionAt lines j = some ⟨outcome, r.offsetText line outcome⟩ ∧
      (outcome = .dropped ↔ r.filter.drops line = true) ∧
      (outcome = .triggered ↔ r.IsTrigger line) ∧
      (outcome = .terminated ↔ r.IsPlain line ∧ r.RaiseDue lines j) ∧
      (outcome = .kept ↔ r.IsPlain line ∧ ¬ r.RaiseDue lines j) := by
  obtain ⟨emitted, state, emission, after, reach, applied, emits⟩ := r.rule.emissionAt_reach atLine
  have inside := (List.getElem?_eq_some_iff.mp atLine).1
  have index : (lines.take j).length = j := by rw [List.length_take]; omega
  obtain ⟨same, outcomes⟩ := (offsetStep_of_apply mode applied).emission_eq
  rw [index, ← (offsetInvariant_of_reach mode reach).raiseDue_iff positive] at outcomes
  exact ⟨emission.outcome, emits.trans (congrArg some same), outcomes⟩

/-- A raise stands the offset behind the trigger that it answers. -/
theorem RaisedFor.distance (mode : r.terminator = .lineOffset) (positive : 1 ≤ r.offset)
    {lines : List Bytes} {i j : Nat} (raised : r.RaisedFor lines i j) : j = i + r.offset := by
  obtain ⟨⟨emission, emits, terminated⟩, latest⟩ := raised
  obtain ⟨line, atLine⟩ := Rule.line_of_emissionAt emits
  obtain ⟨_, same, _, _, due, _⟩ := lineOffset_emissionAt mode positive atLine
  cases emits.symm.trans same
  obtain ⟨room, trigger, none⟩ := (due.mp terminated).2
  have sole := (lastTrigger_take.mpr latest).unique
    (lastTrigger_take.mpr ⟨by omega, trigger, none⟩ : r.LastTrigger (lines.take j) (j - r.offset))
  omega

/-- Each line of a file is dropped, replaced, followed by a raise or kept by what stands in the lines
up to it. A trigger is answered by one raise at most, and by none if the line for it is dropped. -/
theorem lineOffset_semantics (mode : r.terminator = .lineOffset) (positive : 1 ≤ r.offset)
    (lines : List Bytes) :
    (∀ j line, lines[j]? = some line →
      ∃ outcome, r.rule.emissionAt lines j = some ⟨outcome, r.offsetText line outcome⟩ ∧
        (outcome = .dropped ↔ r.filter.drops line = true) ∧
        (outcome = .triggered ↔ r.IsTrigger line) ∧
        (outcome = .terminated ↔ r.IsPlain line ∧ r.RaiseDue lines j) ∧
        (outcome = .kept ↔ r.IsPlain line ∧ ¬ r.RaiseDue lines j)) ∧
    (∀ i j j', r.RaisedFor lines i j → r.RaisedFor lines i j' → j = j') ∧
    ∀ i line, lines[i + r.offset]? = some line → r.filter.drops line = true →
      ∀ j, ¬ r.RaisedFor lines i j := by
  refine ⟨fun j line atLine => lineOffset_emissionAt mode positive atLine, ?_, ?_⟩
  · intro i j j' first second
    rw [first.distance mode positive, second.distance mode positive]
  · intro i line atLine dropped j raised
    obtain rfl := raised.distance mode positive
    obtain ⟨⟨emission, emits, terminated⟩, _⟩ := raised
    obtain ⟨_, same, drop, _⟩ := lineOffset_emissionAt mode positive atLine
    cases emits.symm.trans same
    cases terminated.symm.trans (drop.mpr dropped)

def twoThrows : List Bytes :=
  [Bytes.ofString "throw cms::Exception(\"A\")\n", Bytes.ofString "throw cms::Exception(\"B\")\n",
    Bytes.ofString "  << x\n", Bytes.ofString "  << y;\n"]

/-- The second throw restarts the countdown, so the raise follows the fourth line. -/
theorem lineOffset_semantics_twoThrows :
    (stock .lineOffset).terminator = .lineOffset ∧ 1 ≤ (stock .lineOffset).offset ∧
      (stock .lineOffset).rule.emissionAt twoThrows 3 =
        some ⟨.terminated, Bytes.ofString "  << y;\nthrow std::exception();\n"⟩ := by
  refine ⟨rfl, by decide, ?_⟩
  obtain ⟨outcome, emits, _, _, raised, _⟩ :=
    (lineOffset_semantics (r := stock .lineOffset) rfl (by decide) twoThrows).1 3 _ rfl
  obtain rfl := raised.mpr ⟨by decide, by decide⟩
  rw [emits]
  decide

end Amalgam.Replacement
