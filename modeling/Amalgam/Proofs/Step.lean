import Amalgam.Proofs.Trigger

namespace Amalgam.Replacement

variable {r : Replacement}

@[simp]
theorem State.pendingLine_pending (index : Nat) (scanner : Scanner) (braced : Bool) :
    (State.pending index scanner braced).pendingLine = some index := rfl

@[simp]
theorem State.scanner_pending (index : Nat) (scanner : Scanner) (braced : Bool) :
    (State.pending index scanner braced).scanner = scanner := rfl

@[simp]
theorem State.braced_pending (index : Nat) (scanner : Scanner) (braced : Bool) :
    (State.pending index scanner braced).braced = braced := rfl

/-- One line when the raise follows a fixed number of lines behind the throw. -/
inductive OffsetStep (r : Replacement) (index : Nat) (line : Bytes) : State → Emission → State → Prop
  | dropped {state} : r.filter.drops line = true →
      OffsetStep r index line state ⟨.dropped, []⟩ state
  | triggered {state} : r.IsTrigger line →
      OffsetStep r index line state ⟨.triggered, r.diagnostic ++ [Ascii.newline]⟩
        (.pending index {} false)
  | idle {state} : r.IsPlain line → state.pendingLine = none →
      OffsetStep r index line state ⟨.kept, line⟩ state
  | waiting {state trigger} : r.IsPlain line → state.pendingLine = some trigger →
      index ≠ trigger + r.offset → OffsetStep r index line state ⟨.kept, line⟩ state
  | raised {state trigger} : r.IsPlain line → state.pendingLine = some trigger →
      index = trigger + r.offset →
      OffsetStep r index line state ⟨.terminated, line ++ Line.gap line ++ r.raiseLine false⟩ {}

/-- One line when the raise follows the end of the statement. -/
inductive StatementStep (r : Replacement) (index : Nat) (line : Bytes) : State → Emission → State → Prop
  | dropped {state} : r.filter.drops line = true →
      StatementStep r index line state ⟨.dropped, []⟩ state
  | triggered {state scanner} : r.IsTrigger line →
      Scanner.findTerminator {} (r.tail line) = (none, scanner) →
      StatementStep r index line state
        ⟨.triggered, r.opening line ++ r.diagnostic ++ r.tail line ++ [Ascii.newline]⟩
        (.pending index scanner (r.guarded line))
  | closed {state stop scanner} : r.IsTrigger line →
      Scanner.findTerminator {} (r.tail line) = (some stop, scanner) →
      StatementStep r index line state
        ⟨.triggeredAndTerminated, r.opening line ++ r.diagnostic ++ r.tail line ++ [Ascii.newline] ++
          r.raiseLine (r.guarded line)⟩ {}
  | idle {state} : r.IsPlain line → state.pendingLine = none →
      StatementStep r index line state ⟨.kept, line⟩ state
  | waiting {state trigger scanner} : r.IsPlain line → state.pendingLine = some trigger →
      state.scanner.findTerminator line = (none, scanner) →
      StatementStep r index line state ⟨.kept, line⟩ (.pending trigger scanner state.braced)
  | raised {state trigger stop scanner} : r.IsPlain line → state.pendingLine = some trigger →
      state.scanner.findTerminator line = (some stop, scanner) →
      StatementStep r index line state
        ⟨.terminated, line ++ Line.gap line ++ r.raiseLine state.braced⟩ {}

/-- A block waits for the raise that closes it. -/
def blockOpen (state : State) : Bool :=
  state.pendingLine.isSome && state.braced

theorem line_cases (r : Replacement) (line : Bytes) :
    r.filter.drops line = true ∨ r.IsTrigger line ∨ r.IsPlain line := by
  by_cases dropped : r.filter.drops line = true
  · exact Or.inl dropped
  have kept := Bool.eq_false_iff.mpr dropped
  by_cases holds : line.contains r.throwPattern = true
  · exact Or.inr (Or.inl ⟨kept, holds⟩)
  · exact Or.inr (Or.inr ⟨kept, Bool.eq_false_iff.mpr holds⟩)

theorem apply_of_dropped {line : Bytes} (dropped : r.filter.drops line = true) (state : State)
    (index : Nat) : r.apply state index line = (⟨.dropped, []⟩, state) := by
  simp only [apply, dropped, if_true]

theorem apply_of_trigger {line : Bytes} (trigger : r.IsTrigger line) (state : State)
    (index : Nat) : ∃ start, line.indexOf? r.throwPattern = some start ∧
      r.apply state index line = r.trigger index line start := by
  obtain ⟨start, found⟩ := Option.isSome_iff_exists.mp trigger.2
  refine ⟨start, found, ?_⟩
  simp only [apply, trigger.1, Bool.false_eq_true, if_false, found]

theorem apply_of_idle {state : State} {line : Bytes} (plain : r.IsPlain line) (idle : state.pendingLine = none)
    (index : Nat) : r.apply state index line = (⟨.kept, line⟩, state) := by
  have absent := Option.not_isSome_iff_eq_none.mp (Bool.eq_false_iff.mp plain.2)
  simp only [apply, plain.1, Bool.false_eq_true, if_false, absent, idle]

theorem apply_of_pending {state : State} {trigger : Nat} {line : Bytes} (plain : r.IsPlain line)
    (waits : state.pendingLine = some trigger) (index : Nat) :
    r.apply state index line = r.proceed state trigger index line := by
  have absent := Option.not_isSome_iff_eq_none.mp (Bool.eq_false_iff.mp plain.2)
  simp only [apply, plain.1, Bool.false_eq_true, if_false, absent, waits]

/-- Counting lines, the rule does nothing but these steps. -/
theorem offsetStep_of_apply {state after : State} {index : Nat} {line : Bytes} {emission : Emission}
    (mode : r.terminator = .lineOffset) (applied : r.apply state index line = (emission, after)) :
    OffsetStep r index line state emission after := by
  rcases r.line_cases line with dropped | trigger | plain
  · rw [apply_of_dropped dropped] at applied
    cases applied
    exact .dropped dropped
  · obtain ⟨start, _, result⟩ := apply_of_trigger trigger state index
    simp only [result, Replacement.trigger, mode] at applied
    cases applied
    exact .triggered trigger
  · cases waits : state.pendingLine with
    | none =>
      rw [apply_of_idle plain waits] at applied
      cases applied
      exact .idle plain waits
    | some trigger =>
      simp only [apply_of_pending plain waits, proceed, mode, terminate_eq] at applied
      split at applied
      next due => cases applied; exact .raised plain waits due
      next early => cases applied; exact .waiting plain waits early

/-- Looking for the end of the statement, the rule does nothing but these steps. -/
theorem statementStep_of_apply {state after : State} {index : Nat} {line : Bytes}
    {emission : Emission} (mode : r.terminator = .statementEnd)
    (applied : r.apply state index line = (emission, after)) :
    StatementStep r index line state emission after := by
  rcases r.line_cases line with dropped | trigger | plain
  · rw [apply_of_dropped dropped] at applied
    cases applied
    exact .dropped dropped
  · obtain ⟨start, found, result⟩ := apply_of_trigger trigger state index
    simp only [result, Replacement.trigger, mode, throwAt_eq found, diagnosticLine_eq] at applied
    split at applied
    next ended => cases applied; exact .closed trigger ended
    next goesOn => cases applied; exact .triggered trigger goesOn
  · cases waits : state.pendingLine with
    | none =>
      rw [apply_of_idle plain waits] at applied
      cases applied
      exact .idle plain waits
    | some trigger =>
      simp only [apply_of_pending plain waits, proceed, mode, terminate_eq] at applied
      split at applied
      next ended => cases applied; exact .raised plain waits ended
      next goesOn => cases applied; exact .waiting plain waits goesOn

end Amalgam.Replacement
