import Amalgam.Proofs.Run
import Amalgam.Proofs.Step

namespace Amalgam.Replacement

variable {r : Replacement}

/-- The line is a trigger behind other code, and that code is emitted with an opening brace. -/
def OpensBlock (r : Replacement) (line : Bytes) (emission : Emission) : Prop :=
  r.IsTrigger line ∧ r.guarded line = true ∧ r.lead line ++ openBlock <+: emission.text

/-- The line is emitted with a raise and a closing brace behind it. -/
def ClosesBlock (r : Replacement) (line : Bytes) (emission : Emission) : Prop :=
  emission = ⟨.terminated, line ++ Line.gap line ++ r.raiseLine true⟩ ∨
    emission = ⟨.triggeredAndTerminated,
      r.opening line ++ r.diagnostic ++ r.tail line ++ [Ascii.newline] ++ r.raiseLine true⟩

/-- Line `j` is a trigger that comes while a block is open. -/
def AbandonsAt (r : Replacement) (lines : List Bytes) (j : Nat) : Prop :=
  r.TriggerAt lines j ∧ blockOpen (r.rule.stateAfter (lines.take j)) = true

instance (line : Bytes) (emission : Emission) : Decidable (r.OpensBlock line emission) :=
  inferInstanceAs (Decidable (_ ∧ _ ∧ _))

instance (line : Bytes) (emission : Emission) : Decidable (r.ClosesBlock line emission) :=
  inferInstanceAs (Decidable (_ ∨ _))

instance (lines : List Bytes) (j : Nat) : Decidable (r.AbandonsAt lines j) :=
  inferInstanceAs (Decidable (_ ∧ _))

/-- How many lines the rule has opened a block on. -/
def opened (r : Replacement) (lines : List Bytes) : Nat :=
  r.rule.tally (fun line emission => r.OpensBlock line emission) lines

/-- How many lines the rule has closed a block on. -/
def closed (r : Replacement) (lines : List Bytes) : Nat :=
  r.rule.tally (fun line emission => r.ClosesBlock line emission) lines

/-- How many open blocks the rule has forgotten. -/
def abandoned (r : Replacement) (lines : List Bytes) : Nat :=
  (List.range lines.length).countP fun j => r.AbandonsAt lines j

theorem raiseLine_injective (r : Replacement) : Function.Injective r.raiseLine := by
  intro first second same
  have length := congrArg List.length same
  cases first <;> cases second <;> simp [raiseLine, closeBlock, Bytes.ofString] at length ⊢

theorem closesBlock_terminated {line : Bytes} {braced : Bool} :
    r.ClosesBlock line ⟨.terminated, line ++ Line.gap line ++ r.raiseLine braced⟩ ↔ braced = true := by
  constructor
  · rintro (same | same)
    · exact r.raiseLine_injective (List.append_cancel_left (Emission.mk.inj same).2)
    · cases (Emission.mk.inj same).1
  · rintro rfl
    exact Or.inl rfl

theorem closesBlock_triggered {line : Bytes} {braced : Bool} :
    r.ClosesBlock line ⟨.triggeredAndTerminated,
      r.opening line ++ r.diagnostic ++ r.tail line ++ [Ascii.newline] ++ r.raiseLine braced⟩ ↔
        braced = true := by
  constructor
  · rintro (same | same)
    · cases (Emission.mk.inj same).1
    · exact r.raiseLine_injective (List.append_cancel_left (Emission.mk.inj same).2)
  · rintro rfl
    exact Or.inr rfl

theorem opening_prefix (r : Replacement) (line : Bytes) :
    r.opening line <+: r.opening line ++ r.diagnostic ++ r.tail line ++ [Ascii.newline] := by
  rw [List.append_assoc, List.append_assoc]
  exact List.prefix_append _ _

theorem opensBlock_iff {line text : Bytes} {outcome : Outcome} (trigger : r.IsTrigger line)
    (opens : r.opening line <+: text) : r.OpensBlock line ⟨outcome, text⟩ ↔ r.guarded line = true := by
  constructor
  · intro block
    exact block.2.1
  · intro guarded
    rw [opening, if_pos guarded] at opens
    exact ⟨trigger, guarded, opens⟩

theorem not_opensBlock {line : Bytes} {emission : Emission} (other : ¬ r.IsTrigger line) :
    ¬ r.OpensBlock line emission := by
  intro opens
  exact other opens.1

theorem not_closesBlock {line text : Bytes} {outcome : Outcome} (noRaise : outcome ≠ .terminated)
    (goesOn : outcome ≠ .triggeredAndTerminated) : ¬ r.ClosesBlock line ⟨outcome, text⟩ := by
  rintro (same | same)
  · exact noRaise (Emission.mk.inj same).1
  · exact goesOn (Emission.mk.inj same).1

/-- A block that is open before a line or opened on it is open behind the line, closed on it, or
forgotten because the line is a trigger. -/
theorem StatementStep.block_balance {index : Nat} {line : Bytes} {state next : State}
    {emission : Emission} (step : r.StatementStep index line state emission next) :
    (blockOpen state).toNat + (decide (r.OpensBlock line emission)).toNat =
      (blockOpen next).toNat + (decide (r.ClosesBlock line emission)).toNat +
        (decide (r.IsTrigger line ∧ blockOpen state = true)).toNat := by
  cases step with
  | dropped dropped =>
    have other := not_trigger_of_dropped dropped
    have noClose : ¬ r.ClosesBlock line ⟨.dropped, []⟩ := not_closesBlock nofun nofun
    simp [not_opensBlock other, noClose, other]
  | triggered trigger _ =>
    have noClose (text : Bytes) : ¬ r.ClosesBlock line ⟨.triggered, text⟩ := not_closesBlock nofun nofun
    simp only [opensBlock_iff trigger (r.opening_prefix line), noClose, trigger, blockOpen,
      State.pendingLine_pending, State.braced_pending]
    simp [Nat.add_comm]
  | closed trigger _ =>
    have opens := (r.opening_prefix line).trans (List.prefix_append _ (r.raiseLine (r.guarded line)))
    simp only [opensBlock_iff trigger opens, closesBlock_triggered, trigger, blockOpen]
    simp [Nat.add_comm]
  | idle plain _ =>
    have noClose : ¬ r.ClosesBlock line ⟨.kept, line⟩ := not_closesBlock nofun nofun
    simp [not_opensBlock plain.not_trigger, noClose, plain.not_trigger]
  | waiting plain waits _ =>
    have noClose : ¬ r.ClosesBlock line ⟨.kept, line⟩ := not_closesBlock nofun nofun
    simp [not_opensBlock plain.not_trigger, noClose, plain.not_trigger, blockOpen, waits]
  | raised plain waits _ =>
    simp only [not_opensBlock plain.not_trigger, closesBlock_terminated, plain.not_trigger, blockOpen, waits]
    simp

/-- A longer run forgets what the shorter one has, and a block that is open when its last line is a
trigger. -/
theorem abandoned_concat {seen : List Bytes} {emitted : List Emission} {state : State}
    (reach : r.rule.Reach seen emitted state) (line : Bytes) :
    r.abandoned (seen ++ [line]) =
      r.abandoned seen + (decide (r.IsTrigger line ∧ blockOpen state = true)).toNat := by
  have earlier : ∀ j ∈ List.range seen.length,
      decide (r.AbandonsAt (seen ++ [line]) j) = true ↔ decide (r.AbandonsAt seen j) = true := by
    intro j member
    have before := List.mem_range.mp member
    have same : r.AbandonsAt (seen ++ [line]) j ↔ r.AbandonsAt seen j := by
      rw [AbandonsAt, triggerAt_concat_of_lt before, List.take_append_of_le_length (Nat.le_of_lt before),
        AbandonsAt]
    rw [decide_eq_true_eq, decide_eq_true_eq, same]
  have latest : r.AbandonsAt (seen ++ [line]) seen.length ↔ r.IsTrigger line ∧ blockOpen state = true := by
    rw [AbandonsAt, triggerAt_iff List.getElem?_concat_length, List.take_left, reach.stateAfter_eq]
  simp only [abandoned, List.length_append, List.length_singleton, List.range_succ, List.countP_append,
    List.countP_singleton, List.countP_congr earlier, latest]
  cases decide (r.IsTrigger line ∧ blockOpen state = true) <;> rfl

/-- Every block that was opened is closed, open or forgotten. -/
theorem block_balance {seen : List Bytes} {emitted : List Emission} {state : State}
    (mode : r.terminator = .statementEnd) (reach : r.rule.Reach seen emitted state) :
    r.opened seen = r.closed seen + (blockOpen state).toNat + r.abandoned seen := by
  induction reach with
  | start => rfl
  | next reach applied ih =>
    have balance := (statementStep_of_apply mode applied).block_balance
    rw [opened, closed, reach.tally_concat applied, reach.tally_concat applied, abandoned_concat reach]
    rw [opened, closed] at ih
    omega

theorem abandoned_eq_zero {lines : List Bytes} :
    r.abandoned lines = 0 ↔ ∀ j, ¬ r.AbandonsAt lines j := by
  simp only [abandoned, List.countP_eq_zero, List.mem_range, decide_eq_true_eq]
  constructor
  · intro never j abandons
    exact never j abandons.1.lt_length abandons
  · intro never j _
    exact never j

/-- Blocks are opened as often as they are closed, up to one that waits for its raise and those that a
trigger has overtaken. So they are balanced exactly if no trigger comes while a block is open. -/
theorem guardBlocks_balanced_iff (mode : r.terminator = .statementEnd) (lines : List Bytes) :
    r.opened lines = r.closed lines + (blockOpen (r.rule.stateAfter lines)).toNat + r.abandoned lines ∧
      (r.opened lines = r.closed lines + (blockOpen (r.rule.stateAfter lines)).toNat ↔
        ∀ j, ¬ r.AbandonsAt lines j) := by
  have balance := block_balance mode (r.rule.reach_run lines)
  refine ⟨balance, ?_⟩
  rw [← abandoned_eq_zero]
  constructor
  · intro balanced
    omega
  · intro none
    rw [balance, none, Nat.add_zero]

/-- The macro leaves its statement to be ended where it is used, and the next line throws again. -/
def overtakenThrow : List Bytes :=
  [Bytes.ofString "#define CHECK(x) if (!(x)) throw cms::Exception(\"A\")\n",
    Bytes.ofString "throw cms::Exception(\"B\")\n", Bytes.ofString "    << 1;\n"]

theorem guardBlocks_balanced_iff_overtakenThrow :
    (stock .statementEnd).terminator = .statementEnd ∧
      (stock .statementEnd).opened overtakenThrow ≠ (stock .statementEnd).closed overtakenThrow +
        (blockOpen ((stock .statementEnd).rule.stateAfter overtakenThrow)).toNat := by
  refine ⟨rfl, fun balanced => ?_⟩
  have never := (guardBlocks_balanced_iff (r := stock .statementEnd) rfl overtakenThrow).2.mp balanced
  exact never 1 (by decide)

/-- The second throw replaces the first one and its block, so the raise closes none. -/
theorem overtakenThrow_unbalanced :
    (stock .statementEnd).rule.stateAfter overtakenThrow = {} ∧
      (stock .statementEnd).opened overtakenThrow = 1 ∧ (stock .statementEnd).closed overtakenThrow = 0 := by
  decide

end Amalgam.Replacement
