import Amalgam.Proofs.StatementEnd

namespace Amalgam

namespace Lexer

/-- What follows the first semicolon in code. -/
def remainder (mode : Mode) (text : Bytes) : Bytes :=
  match terminator? mode text with
  | some k => text.drop (k + 1)
  | none => []

theorem Mode.step_semicolon {mode : Mode} (code : mode.isCode = true) :
    mode.step Ascii.semicolon = .code := by
  cases mode with
  | code => rfl
  | slash => rfl
  | _ => cases code

/-- Nothing before the first semicolon in code matters for what follows it. -/
theorem after_remainder {mode : Mode} {text : Bytes} (ended : terminator? mode text ≠ none) :
    after .code (remainder mode text) = after mode text := by
  induction text generalizing mode with
  | nil => exact absurd rfl ended
  | cons b rest ih =>
    by_cases found : mode.isCode ∧ b = Ascii.semicolon
    · obtain ⟨code, rfl⟩ := found
      rw [after_cons, Mode.step_semicolon code]
      simp [remainder, terminator?, code]
    · have next := terminator?_cons_of_not found rest
      rw [next, ne_eq, Option.map_eq_none_iff] at ended
      rw [after_cons, ← ih ended, remainder, next, remainder]
      cases terminator? (mode.step b) rest <;> rfl

/-- A text that goes on is followed by the remainder of what comes behind it. -/
theorem remainder_append {mode : Mode} {text : Bytes} (goesOn : terminator? mode text = none) (line : Bytes) :
    remainder mode (text ++ line) = remainder (after mode text) line := by
  rw [remainder, terminator?_append_of_none goesOn, remainder]
  cases terminator? (after mode text) line with
  | none => rfl
  | some k =>
    have index : k + text.length + 1 = text.length + (k + 1) := by omega
    simp only [Option.map_some, index, List.drop_length_add_append]

theorem newline_notMem_remainder {mode : Mode} {line : Bytes} (inner : Ascii.newline ∉ line.dropLast) :
    Ascii.newline ∉ (remainder mode line).dropLast := by
  unfold remainder
  split
  · exact Bytes.newline_notMem_drop inner _
  · exact List.not_mem_nil

end Lexer

namespace Replacement

open Lexer (terminator? after remainder)

variable {r : Replacement}

/-- What is emitted up to the diagnostic of trigger `i`, and with it. -/
def throughDiagnostic (r : Replacement) (lines : List Bytes) (i : Nat) : Bytes :=
  r.rule.output (lines.take i) ++ (r.opening (lines[i]?.getD []) ++ r.diagnostic)

/-- The last that is emitted for the lines is the raise of their last trigger `i`. Between its diagnostic
and its raise stands `written`. -/
def RaiseFollows (r : Replacement) (lines : List Bytes) (i : Nat) (written : Bytes) : Prop :=
  r.LastTrigger lines i ∧
    r.rule.output lines =
      r.throughDiagnostic lines i ++ written ++ r.raiseLine (r.guarded (lines[i]?.getD []))

instance (lines : List Bytes) (i : Nat) (written : Bytes) : Decidable (r.RaiseFollows lines i written) :=
  inferInstanceAs (Decidable (_ ∧ _))

/-- Behind the diagnostic of a pending throw, its statement is all that has been emitted. -/
def OutputInvariant (r : Replacement) (seen : List Bytes) (state : State) : Prop :=
  ∀ i, state.pendingLine = some i → i < seen.length ∧
    r.rule.output seen = r.throughDiagnostic seen i ++ r.statement seen i

theorem throughDiagnostic_concat {seen : List Bytes} {line : Bytes} {i : Nat} (before : i < seen.length) :
    r.throughDiagnostic (seen ++ [line]) i = r.throughDiagnostic seen i := by
  rw [throughDiagnostic, List.take_append_of_le_length (Nat.le_of_lt before),
    List.getElem?_append_left before, throughDiagnostic]

theorem throughDiagnostic_concat_self (seen : List Bytes) (line : Bytes) :
    r.throughDiagnostic (seen ++ [line]) seen.length =
      r.rule.output seen ++ (r.opening line ++ r.diagnostic) := by
  rw [throughDiagnostic, List.take_left, List.getElem?_concat_length, Option.getD_some]

theorem OutputInvariant.step {seen : List Bytes} {state next : State} {line : Bytes}
    {emission : Emission} (inv : r.OutputInvariant seen state)
    (longer : r.rule.output (seen ++ [line]) = r.rule.output seen ++ emission.text)
    (step : r.StatementStep seen.length line state emission next) :
    r.OutputInvariant (seen ++ [line]) next := by
  have grows : seen.length < (seen ++ [line]).length := by simp
  cases step with
  | dropped dropped =>
    intro i waits
    obtain ⟨before, output⟩ := inv i waits
    refine ⟨Nat.lt_trans before grows, ?_⟩
    rw [longer, output, throughDiagnostic_concat before, statement_concat before, if_pos dropped]
    simp only [List.append_nil]
  | triggered trigger _ =>
    intro i waits
    cases waits
    refine ⟨grows, ?_⟩
    rw [longer, throughDiagnostic_concat_self, statement_concat_self]
    simp only [List.append_assoc]
  | waiting plain pending _ =>
    intro i waits
    cases waits
    obtain ⟨before, output⟩ := inv _ pending
    refine ⟨Nat.lt_trans before grows, ?_⟩
    rw [longer, output, throughDiagnostic_concat before, statement_concat before,
      if_neg (Bool.eq_false_iff.mp plain.1), List.append_assoc]
  | idle _ idle =>
    intro i waits
    cases idle.symm.trans waits
  | closed _ _ => exact nofun
  | raised _ _ _ => exact nofun

theorem outputInvariant_of_reach {seen : List Bytes} {emitted : List Emission} {state : State}
    (mode : r.terminator = .statementEnd) (reach : r.rule.Reach seen emitted state) :
    r.OutputInvariant seen state := by
  induction reach with
  | start => exact nofun
  | next reach applied ih => exact ih.step (reach.output_concat applied) (statementStep_of_apply mode applied)

/-- A line with a raise behind it is where the statement of the last trigger ends. -/
theorem StatementStep.raiseFollows {seen : List Bytes} {state next : State} {line : Bytes}
    {emission : Emission} (step : r.StatementStep seen.length line state emission next)
    (inv : r.StatementInvariant seen state) (output : r.OutputInvariant seen state)
    (longer : r.rule.output (seen ++ [line]) = r.rule.output seen ++ emission.text)
    (inner : Ascii.newline ∉ line.dropLast)
    (raised : emission.outcome = .terminated ∨ emission.outcome = .triggeredAndTerminated) :
    ∃ i written, r.RaiseFollows (seen ++ [line]) i written ∧ terminator? .code written ≠ none ∧
      Ascii.newline ∉ (remainder .code written).dropLast := by
  cases step with
  | closed trigger scan =>
    have noNewline : Ascii.newline ∉ r.tail line := newline_notMem_tail inner
    have ended := tail_terminator?_eq noNewline
    rw [scan] at ended
    refine ⟨seen.length, r.tail line ++ [Ascii.newline], ⟨?_, ?_⟩, ?_, ?_⟩
    · exact (lastTrigger_concat_trigger trigger).mpr rfl
    · rw [longer, throughDiagnostic_concat_self, List.getElem?_concat_length, Option.getD_some]
      simp only [List.append_assoc]
    · refine Lexer.terminator?_append_ne_none ?_ _
      rw [← ended]
      exact Option.some_ne_none _
    · refine Lexer.newline_notMem_remainder ?_
      rwa [List.dropLast_concat]
  | @raised i _ _ plain waits scan =>
    have inside := inv.within i waits
    have before := inside.last.lt_length
    have search := terminator?_append_eq_scan inside.goesOn inside.mode inner
    rw [scan] at search
    refine ⟨i, r.statement seen i ++ (line ++ Line.gap line), ⟨?_, ?_⟩, ?_, ?_⟩
    · exact (lastTrigger_concat_other plain.not_trigger).mpr inside.last
    · rw [longer, (output i waits).2, throughDiagnostic_concat before, List.getElem?_append_left before,
        ← inside.braced]
      simp only [List.append_assoc]
    · rw [← List.append_assoc]
      refine Lexer.terminator?_append_ne_none ?_ _
      rw [search]
      exact Option.some_ne_none _
    · rw [Lexer.remainder_append inside.goesOn]
      exact Lexer.newline_notMem_remainder (Line.newline_notMem_gap inner)
  | dropped _ => rcases raised with other | other <;> cases other
  | triggered _ _ => rcases raised with other | other <;> cases other
  | idle _ _ => rcases raised with other | other <;> cases other
  | waiting _ _ _ => rcases raised with other | other <;> cases other

theorem RaiseFollows.unique {lines : List Bytes} {i i' : Nat} {written written' : Bytes}
    (first : r.RaiseFollows lines i written) (second : r.RaiseFollows lines i' written') :
    i = i' ∧ written = written' := by
  obtain rfl := first.1.unique second.1
  have same := List.append_cancel_right (first.2.symm.trans second.2)
  exact ⟨rfl, List.append_cancel_left same⟩

/-- A raise stands outside comments exactly if no comment is open behind what follows the end of its
statement, and that is on the same line. -/
theorem raise_isLive_iff (mode : r.terminator = .statementEnd) {lines : List Bytes}
    (split : Bytes.AreLines lines) {j : Nat} {emission : Emission}
    (emits : r.rule.emissionAt lines j = some emission)
    (raised : emission.outcome = .terminated ∨ emission.outcome = .triggeredAndTerminated) :
    ∃ i written, r.RaiseFollows (lines.take (j + 1)) i written ∧ terminator? .code written ≠ none ∧
      Ascii.newline ∉ (remainder .code written).dropLast ∧
      ((after .code written).inBlock = false ↔ (after .code (remainder .code written)).inBlock = false) := by
  obtain ⟨line, atLine⟩ := Rule.line_of_emissionAt emits
  obtain ⟨emitted, state, emission', next, reach, applied, emits'⟩ := r.rule.emissionAt_reach atLine
  obtain rfl := Option.some.inj (emits.symm.trans emits')
  have inside := (List.getElem?_eq_some_iff.mp atLine).1
  have inner := split.inner line (List.mem_of_getElem? atLine)
  obtain ⟨i, written, follows, ended, sameLine⟩ := (statementStep_of_apply mode applied).raiseFollows
    (statementInvariant_of_reach mode reach (split.whole inside)) (outputInvariant_of_reach mode reach)
    (reach.output_concat applied) inner raised
  have longer : lines.take (j + 1) = lines.take j ++ [line] := by
    rw [List.take_add_one, atLine, Option.toList_some]
  rw [longer]
  refine ⟨i, written, follows, ended, sameLine, ?_⟩
  rw [Lexer.after_remainder ended]

/-- Comments within the statement do not hide its raise. -/
theorem raise_isLive_iff_guardedThrow :
    (stock .statementEnd).terminator = .statementEnd ∧ Bytes.AreLines guardedThrow ∧
      ∃ written, (stock .statementEnd).RaiseFollows guardedThrow 0 written ∧
        (after .code written).inBlock = false := by
  have split : Bytes.AreLines guardedThrow := by decide
  have emits : (stock .statementEnd).rule.emissionAt guardedThrow 3 =
      some ⟨.terminated, Bytes.ofString "    << c; // done\nthrow std::exception(); \x7d\n"⟩ := by decide
  obtain ⟨i, written, follows, _, _, live⟩ :=
    raise_isLive_iff (r := stock .statementEnd) rfl split emits (Or.inl rfl)
  have expected : (stock .statementEnd).RaiseFollows guardedThrow 0
      (Bytes.ofString " /* one;\ntwo; */ << \"b;\" << ';'\n    << c; // done\n") := by decide
  obtain ⟨rfl, rfl⟩ := follows.unique expected
  exact ⟨rfl, split, _, follows, live.mpr (by decide)⟩

/-- A comment starts behind the end of the statement and goes on behind the line. -/
def noteThrow : List Bytes :=
  [Bytes.ofString "throw cms::Exception(\"A\") << 1; /* note\n", Bytes.ofString "of two lines */\n"]

theorem noteThrow_swallowed :
    Bytes.AreLines noteThrow ∧
      ((stock .statementEnd).rule.emissionAt noteThrow 0).map (·.outcome) = some .triggeredAndTerminated ∧
      (stock .statementEnd).RaiseFollows (noteThrow.take 1) 0 (Bytes.ofString " << 1; /* note\n") ∧
      (after .code (Bytes.ofString " << 1; /* note\n")).inBlock = true := by
  decide

end Replacement

end Amalgam
