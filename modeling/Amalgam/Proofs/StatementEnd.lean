import Amalgam.Proofs.Lexer
import Amalgam.Proofs.Run
import Amalgam.Proofs.Step

namespace Amalgam.Replacement

open Lexer (terminator? after)

variable {r : Replacement}

/-- What the lines hold of the statement that trigger `i` starts: what follows the construction of the
exception, and the lines behind it that are not dropped. -/
def statement (r : Replacement) (lines : List Bytes) (i : Nat) : Bytes :=
  r.tail (lines[i]?.getD []) ++ [Ascii.newline] ++
    ((lines.drop (i + 1)).filter (fun line => !r.filter.drops line)).flatten

/-- The statement that trigger `i`, the latest before line `j`, starts has its first semicolon in code
on line `j`. -/
def StatementEnds (r : Replacement) (lines : List Bytes) (i j : Nat) : Prop :=
  (i < j ∧ r.TriggerAt lines i ∧ ∀ m, i < m → m < j → ¬ r.TriggerAt lines m) ∧
    terminator? .code (r.statement (lines.take j) i) = none ∧
    terminator? .code (r.statement (lines.take j) i ++ lines[j]?.getD []) ≠ none

instance (lines : List Bytes) (i j : Nat) : Decidable (r.StatementEnds lines i j) :=
  decidable_of_iff (r.LastTrigger (lines.take j) i ∧ terminator? .code (r.statement (lines.take j) i) = none ∧
      terminator? .code (r.statement (lines.take j) i ++ lines[j]?.getD []) ≠ none)
    (by rw [lastTrigger_take, StatementEnds])

/-- What is emitted for a line by its outcome, and whether a block is open before it. -/
def statementText (r : Replacement) (line : Bytes) (braced : Bool) : Outcome → Bytes
  | .dropped => []
  | .kept => line
  | .triggered => r.opening line ++ r.diagnostic ++ r.tail line ++ [Ascii.newline]
  | .triggeredAndTerminated =>
    r.opening line ++ r.diagnostic ++ r.tail line ++ [Ascii.newline] ++ r.raiseLine (r.guarded line)
  | .terminated => line ++ Line.gap line ++ r.raiseLine braced

theorem statement_concat {seen : List Bytes} {line : Bytes} {i : Nat} (before : i < seen.length) :
    r.statement (seen ++ [line]) i =
      r.statement seen i ++ (if r.filter.drops line = true then [] else line) := by
  simp only [statement, List.getElem?_append_left before, List.drop_append_of_le_length before,
    List.filter_append, List.flatten_append, List.append_assoc]
  by_cases dropped : r.filter.drops line = true <;> simp [dropped]

theorem statement_concat_self (seen : List Bytes) (line : Bytes) :
    r.statement (seen ++ [line]) seen.length = r.tail line ++ [Ascii.newline] := by
  simp [statement]

/-- The statement that trigger `i`, the last one, starts goes on, and the state holds what the lexer knows about
it. -/
structure InStatement (r : Replacement) (seen : List Bytes) (i : Nat) (state : State) : Prop where
  last : r.LastTrigger seen i
  goesOn : terminator? .code (r.statement seen i) = none
  mode : state.scanner.mode = after .code (r.statement seen i)
  braced : state.braced = r.guarded (seen[i]?.getD [])

/-- A throw is pending as long as its statement goes on, unless another throw has come. -/
structure StatementInvariant (r : Replacement) (seen : List Bytes) (state : State) : Prop where
  ended : state.pendingLine = none → ∀ i, r.LastTrigger seen i → terminator? .code (r.statement seen i) ≠ none
  within : ∀ i, state.pendingLine = some i → r.InStatement seen i state

/-- The scan of a line goes on where the lexer stands behind the statement so far. -/
theorem terminator?_append_eq_scan {text line : Bytes} {scanner : Scanner}
    (goesOn : terminator? .code text = none) (mode : scanner.mode = after .code text)
    (inner : Ascii.newline ∉ line.dropLast) :
    terminator? .code (text ++ line) = (scanner.findTerminator line).1.map (· + text.length) := by
  rw [Lexer.terminator?_append_of_none goesOn, Scanner.findTerminator_fst scanner inner, mode]

theorem tail_terminator?_eq {line : Bytes} (noNewline : Ascii.newline ∉ r.tail line) :
    (Scanner.findTerminator {} (r.tail line)).1 = terminator? .code (r.tail line) :=
  Scanner.findTerminator_fst {} fun member => noNewline ((List.dropLast_sublist _).subset member)

section Onward

variable {seen : List Bytes} {line : Bytes} {i : Nat} {state : State} {scanner : Scanner}

theorem InStatement.of_trigger (trigger : r.IsTrigger line) (inner : Ascii.newline ∉ line.dropLast)
    (scan : Scanner.findTerminator {} (r.tail line) = (none, scanner)) :
    r.InStatement (seen ++ [line]) seen.length (.pending seen.length scanner (r.guarded line)) := by
  have noNewline : Ascii.newline ∉ r.tail line := newline_notMem_tail inner
  have goesOn := tail_terminator?_eq noNewline
  rw [scan] at goesOn
  have mode := Scanner.mode_findTerminator_newline {} noNewline goesOn.symm
  rw [scan] at mode
  refine ⟨(lastTrigger_concat_trigger trigger).mpr rfl, ?_, ?_, ?_⟩
  · rw [statement_concat_self, Lexer.terminator?_append_of_none goesOn.symm, Lexer.terminator?_newline]
    rfl
  · rw [statement_concat_self]
    exact mode
  · rw [List.getElem?_concat_length]
    rfl

theorem InStatement.concat_dropped (inside : r.InStatement seen i state) (dropped : r.filter.drops line = true) :
    r.InStatement (seen ++ [line]) i state := by
  have before := inside.last.lt_length
  have same : r.statement (seen ++ [line]) i = r.statement seen i := by
    rw [statement_concat before, if_pos dropped, List.append_nil]
  refine ⟨(lastTrigger_concat_other (not_trigger_of_dropped dropped)).mpr inside.last, ?_, ?_, ?_⟩
  · rw [same]
    exact inside.goesOn
  · rw [same]
    exact inside.mode
  · rw [List.getElem?_append_left before]
    exact inside.braced

theorem InStatement.statement_concat_plain (inside : r.InStatement seen i state) (plain : r.IsPlain line) :
    r.statement (seen ++ [line]) i = r.statement seen i ++ line := by
  rw [statement_concat inside.last.lt_length, if_neg (Bool.eq_false_iff.mp plain.1)]

/-- The scan of a plain line finds the end of the statement if the lexer does. -/
theorem InStatement.terminator?_concat (inside : r.InStatement seen i state) (plain : r.IsPlain line)
    (inner : Ascii.newline ∉ line.dropLast) : terminator? .code (r.statement (seen ++ [line]) i) =
      (state.scanner.findTerminator line).1.map (· + (r.statement seen i).length) := by
  rw [inside.statement_concat_plain plain, terminator?_append_eq_scan inside.goesOn inside.mode inner]

theorem InStatement.concat_scanned (inside : r.InStatement seen i state) (plain : r.IsPlain line)
    (whole : line.IsWhole) (scan : state.scanner.findTerminator line = (none, scanner)) :
    r.InStatement (seen ++ [line]) i (.pending i scanner state.braced) := by
  have search := inside.terminator?_concat plain whole.1
  rw [scan] at search
  have onward := Scanner.mode_findTerminator _ whole (by rw [← Scanner.findTerminator_fst _ whole.1, scan])
  rw [scan] at onward
  refine ⟨(lastTrigger_concat_other plain.not_trigger).mpr inside.last, search, ?_, ?_⟩
  · rw [inside.statement_concat_plain plain, Lexer.after_append, ← inside.mode]
    exact onward
  · rw [List.getElem?_append_left inside.last.lt_length]
    exact inside.braced

/-- Once a statement has ended, what follows it does not reopen it. -/
theorem StatementInvariant.ended_concat (inv : r.StatementInvariant seen state) (idle : state.pendingLine = none)
    (other : ¬ r.IsTrigger line) (last : r.LastTrigger (seen ++ [line]) i) :
    terminator? .code (r.statement (seen ++ [line]) i) ≠ none := by
  rw [lastTrigger_concat_other other] at last
  rw [statement_concat last.lt_length]
  exact Lexer.terminator?_append_ne_none (inv.ended idle i last) _

end Onward

theorem StatementInvariant.step {seen : List Bytes} {state next : State} {line : Bytes}
    {emission : Emission} (inv : r.StatementInvariant seen state) (whole : line.IsWhole)
    (step : r.StatementStep seen.length line state emission next) :
    r.StatementInvariant (seen ++ [line]) next := by
  cases step with
  | dropped dropped =>
    refine ⟨fun idle i => inv.ended_concat idle (not_trigger_of_dropped dropped), ?_⟩
    intro i waits
    exact (inv.within i waits).concat_dropped dropped
  | triggered trigger scan =>
    refine ⟨nofun, ?_⟩
    intro i waits
    cases waits
    exact .of_trigger trigger whole.1 scan
  | closed trigger scan =>
    refine ⟨?_, nofun⟩
    intro _ i last
    have ended := tail_terminator?_eq (r := r) (newline_notMem_tail whole.1)
    rw [scan] at ended
    rw [(lastTrigger_concat_trigger trigger).mp last, statement_concat_self]
    refine Lexer.terminator?_append_ne_none ?_ _
    rw [← ended]
    exact Option.some_ne_none _
  | idle plain idle =>
    refine ⟨fun _ i => inv.ended_concat idle plain.not_trigger, ?_⟩
    intro i waits
    cases idle.symm.trans waits
  | waiting plain waits scan =>
    refine ⟨nofun, ?_⟩
    intro i same
    cases same
    exact (inv.within _ waits).concat_scanned plain whole scan
  | raised plain waits scan =>
    refine ⟨?_, nofun⟩
    intro _ i latest
    have inside := inv.within _ waits
    rw [lastTrigger_concat_other plain.not_trigger] at latest
    obtain rfl := latest.unique inside.last
    rw [inside.terminator?_concat plain whole.1, scan]
    exact Option.some_ne_none _

theorem statementInvariant_of_reach {seen : List Bytes} {emitted : List Emission} {state : State}
    (mode : r.terminator = .statementEnd) (reach : r.rule.Reach seen emitted state)
    (whole : ∀ line ∈ seen, line.IsWhole) : r.StatementInvariant seen state := by
  induction reach with
  | start => exact ⟨fun _ i last => absurd last.lt_length (Nat.not_lt_zero i), nofun⟩
  | next _ applied ih =>
    have earlier := ih fun line member => whole line (List.mem_append_left _ member)
    exact earlier.step (whole _ (by simp)) (statementStep_of_apply mode applied)

/-- The scan of a line finds the end of the statement that is pending, and of no other. -/
theorem StatementInvariant.statementEnds_iff {lines : List Bytes} {i j : Nat} {line : Bytes}
    {state : State} (inv : r.StatementInvariant (lines.take j) state)
    (atLine : lines[j]? = some line) (inner : Ascii.newline ∉ line.dropLast) :
    r.StatementEnds lines i j ↔
      state.pendingLine = some i ∧ (state.scanner.findTerminator line).1 ≠ none := by
  simp only [StatementEnds, ← lastTrigger_take, atLine, Option.getD_some]
  cases waits : state.pendingLine with
  | none =>
    constructor
    · rintro ⟨last, goesOn, _⟩
      exact absurd goesOn (inv.ended waits i last)
    · rintro ⟨absent, _⟩
      cases absent
  | some pending =>
    have inside := inv.within pending waits
    have search := terminator?_append_eq_scan inside.goesOn inside.mode inner
    constructor
    · rintro ⟨latest, _, ended⟩
      obtain rfl := latest.unique inside.last
      rw [search] at ended
      exact ⟨rfl, fun none => ended (by rw [none]; rfl)⟩
    · rintro ⟨same, ended⟩
      cases same
      refine ⟨inside.last, inside.goesOn, ?_⟩
      rw [search]
      exact fun none => ended (Option.map_eq_none_iff.mp none)

theorem StatementInvariant.blockOpen_eq {lines : List Bytes} {i j : Nat} {state : State}
    (inv : r.StatementInvariant (lines.take j) state) (waits : state.pendingLine = some i) :
    blockOpen state = r.guarded (lines[i]?.getD []) := by
  have inside := inv.within i waits
  rw [blockOpen, waits, Option.isSome_some, Bool.true_and, inside.braced,
    List.getElem?_take_of_lt (lastTrigger_take.mp inside.last).1]

/-- What becomes of a line is decided by the line and by what the scan finds on it. -/
theorem StatementStep.emission_eq {index : Nat} {line : Bytes} {state next : State}
    {emission : Emission} (step : r.StatementStep index line state emission next) :
    emission = ⟨emission.outcome, r.statementText line (blockOpen state) emission.outcome⟩ ∧
      (emission.outcome = .dropped ↔ r.filter.drops line = true) ∧
      (emission.outcome = .triggeredAndTerminated ↔
        r.IsTrigger line ∧ (Scanner.findTerminator {} (r.tail line)).1 ≠ none) ∧
      (emission.outcome = .triggered ↔
        r.IsTrigger line ∧ (Scanner.findTerminator {} (r.tail line)).1 = none) ∧
      (emission.outcome = .terminated ↔ r.IsPlain line ∧
        ∃ i, state.pendingLine = some i ∧ (state.scanner.findTerminator line).1 ≠ none) ∧
      (emission.outcome = .kept ↔ r.IsPlain line ∧
        ¬ ∃ i, state.pendingLine = some i ∧ (state.scanner.findTerminator line).1 ≠ none) := by
  cases step with
  | dropped dropped =>
    refine ⟨rfl, ?_⟩
    simp [dropped, not_trigger_of_dropped dropped, not_plain_of_dropped dropped]
  | triggered trigger scan =>
    refine ⟨rfl, ?_⟩
    simp [trigger.1, trigger, trigger.not_plain, scan]
  | closed trigger scan =>
    refine ⟨rfl, ?_⟩
    simp [trigger.1, trigger, trigger.not_plain, scan]
  | idle plain idle =>
    refine ⟨rfl, ?_⟩
    simp [plain.1, plain, plain.not_trigger, idle]
  | waiting plain waits scan =>
    refine ⟨rfl, ?_⟩
    simp [plain.1, plain, plain.not_trigger, waits, scan]
  | raised plain waits scan =>
    refine ⟨by simp [statementText, blockOpen, waits], ?_⟩
    simp [plain.1, plain, plain.not_trigger, waits, scan]

/-- Each line of a file is dropped, replaced, followed by a raise or kept by what the lexer makes of the
statement that the latest trigger starts. -/
theorem statementEnd_semantics (mode : r.terminator = .statementEnd) {lines : List Bytes}
    (split : Bytes.AreLines lines) {j : Nat} {line : Bytes} (atLine : lines[j]? = some line) :
    ∃ outcome braced, r.rule.emissionAt lines j = some ⟨outcome, r.statementText line braced outcome⟩ ∧
      (∀ i, r.StatementEnds lines i j → braced = r.guarded (lines[i]?.getD [])) ∧
      (outcome = .dropped ↔ r.filter.drops line = true) ∧
      (outcome = .triggeredAndTerminated ↔ r.IsTrigger line ∧ terminator? .code (r.tail line) ≠ none) ∧
      (outcome = .triggered ↔ r.IsTrigger line ∧ terminator? .code (r.tail line) = none) ∧
      (outcome = .terminated ↔ r.IsPlain line ∧ ∃ i, r.StatementEnds lines i j) ∧
      (outcome = .kept ↔ r.IsPlain line ∧ ¬ ∃ i, r.StatementEnds lines i j) := by
  obtain ⟨emitted, state, emission, after, reach, applied, emits⟩ := r.rule.emissionAt_reach atLine
  have inside := (List.getElem?_eq_some_iff.mp atLine).1
  have inner := split.inner line (List.mem_of_getElem? atLine)
  have inv := statementInvariant_of_reach mode reach (split.whole inside)
  obtain ⟨same, outcomes⟩ := (statementStep_of_apply mode applied).emission_eq
  have block : ∀ i, r.StatementEnds lines i j → blockOpen state = r.guarded (lines[i]?.getD []) := by
    intro i ended
    exact inv.blockOpen_eq ((inv.statementEnds_iff atLine inner).mp ended).1
  have ends : (∃ i, state.pendingLine = some i ∧ (state.scanner.findTerminator line).1 ≠ none) ↔
      ∃ i, r.StatementEnds lines i j :=
    exists_congr fun i => (inv.statementEnds_iff atLine inner).symm
  rw [ends, tail_terminator?_eq (newline_notMem_tail inner)] at outcomes
  exact ⟨emission.outcome, blockOpen state, emits.trans (congrArg some same), block, outcomes⟩

def guardedThrow : List Bytes :=
  [Bytes.ofString "  if (bad) throw cms::Exception(\"A\") /* one;\n", Bytes.ofString "#include \"FWCore/x;.h\"\n",
    Bytes.ofString "two; */ << \"b;\" << ';'\n", Bytes.ofString "    << c; // done\n"]

/-- The comment that the throw opens hides two semicolons and literals hide two more, so the raise
follows the fourth line and closes the block there. -/
theorem statementEnd_semantics_guardedThrow :
    (stock .statementEnd).terminator = .statementEnd ∧ Bytes.AreLines guardedThrow ∧
      guardedThrow[3]? = some (Bytes.ofString "    << c; // done\n") ∧
      (stock .statementEnd).rule.emissionAt guardedThrow 3 =
        some ⟨.terminated, Bytes.ofString "    << c; // done\nthrow std::exception(); \x7d\n"⟩ := by
  have split : Bytes.AreLines guardedThrow := by decide
  refine ⟨rfl, split, rfl, ?_⟩
  obtain ⟨outcome, braced, emits, block, _, _, _, raised, _⟩ :=
    statementEnd_semantics (r := stock .statementEnd) rfl split (j := 3) rfl
  have ends : (stock .statementEnd).StatementEnds guardedThrow 0 3 := by decide
  obtain rfl := raised.mpr ⟨by decide, 0, ends⟩
  obtain rfl := block 0 ends
  rw [emits]
  decide

end Amalgam.Replacement
