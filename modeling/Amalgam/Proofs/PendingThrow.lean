import Amalgam.Proofs.Run
import Amalgam.Proofs.Step

namespace Amalgam.Replacement

variable {r : Replacement}

/-- How a line leaves the state behind it: a throw on it is pending, all is done with, the state is as it was, or the
scan has gone on. -/
inductive Leaves (r : Replacement) (index : Nat) (line : Bytes) (state : State) : State → Prop
  | fresh {scanner braced} : r.IsTrigger line →
      (r.terminator = .lineOffset → scanner = {} ∧ braced = false) →
      (r.terminator = .statementEnd → braced = r.guarded line) →
      Leaves r index line state (.pending index scanner braced)
  | done : Leaves r index line state {}
  | same : ¬ r.IsTrigger line →
      (r.terminator = .lineOffset → ∀ i, state.pendingLine = some i → index = i + r.offset →
        r.filter.drops line = true) →
      Leaves r index line state state
  | scanned {i scanner} : ¬ r.IsTrigger line → r.terminator = .statementEnd → state.pendingLine = some i →
      Leaves r index line state (.pending i scanner state.braced)

theorem leaves_of_apply {state after : State} {index : Nat} {line : Bytes} {emission : Emission}
    (applied : r.apply state index line = (emission, after)) : r.Leaves index line state after := by
  cases mode : r.terminator with
  | lineOffset =>
    cases offsetStep_of_apply mode applied with
    | dropped dropped => exact .same (not_trigger_of_dropped dropped) fun _ _ _ _ => dropped
    | triggered trigger => exact .fresh trigger (fun _ => ⟨rfl, rfl⟩) fun other => nomatch mode.symm.trans other
    | idle plain idle => exact .same plain.not_trigger fun _ _ waits => nomatch idle.symm.trans waits
    | waiting plain waits early =>
      refine .same plain.not_trigger ?_
      intro _ i same due
      cases same.symm.trans waits
      exact absurd due early
    | raised _ _ _ => exact .done
  | statementEnd =>
    have noCount : r.terminator ≠ .lineOffset := by rw [mode]; exact nofun
    cases statementStep_of_apply mode applied with
    | dropped dropped => exact .same (not_trigger_of_dropped dropped) fun _ _ _ _ => dropped
    | triggered trigger _ => exact .fresh trigger (fun other => absurd other noCount) fun _ => rfl
    | closed _ _ => exact .done
    | idle plain idle => exact .same plain.not_trigger fun _ _ waits => nomatch idle.symm.trans waits
    | waiting plain waits _ => exact .scanned plain.not_trigger mode waits
    | raised _ _ _ => exact .done

/-- What holds of the state in which the throw on line `i` is pending behind the lines. -/
structure AwaitsRaise (r : Replacement) (seen : List Bytes) (i : Nat) (state : State) : Prop where
  last : r.LastTrigger seen i
  counted : r.terminator = .lineOffset → state.scanner = {} ∧ state.braced = false
  missed : r.terminator = .lineOffset → 1 ≤ r.offset →
    ∀ line, seen[i + r.offset]? = some line → r.filter.drops line = true
  braced : r.terminator = .statementEnd → ∀ line, seen[i]? = some line → state.braced = r.guarded line

theorem AwaitsRaise.of_trigger {seen : List Bytes} {line : Bytes} {scanner : Scanner} {braced : Bool}
    (trigger : r.IsTrigger line) (counted : r.terminator = .lineOffset → scanner = {} ∧ braced = false)
    (guarded : r.terminator = .statementEnd → braced = r.guarded line) :
    r.AwaitsRaise (seen ++ [line]) seen.length (.pending seen.length scanner braced) := by
  refine ⟨(lastTrigger_concat_trigger trigger).mpr rfl, counted, ?_, ?_⟩
  · intro _ positive later atLater
    have inside := (List.getElem?_eq_some_iff.mp atLater).1
    simp only [List.length_append, List.length_singleton] at inside
    omega
  · intro mode here atHere
    have same : line = here := by simpa only [List.getElem?_concat_length, Option.some.injEq] using atHere
    rw [State.braced_pending, guarded mode, same]

/-- The line that the raise would follow has to be dropped for the throw to go on waiting behind it. -/
theorem AwaitsRaise.concat_other {seen : List Bytes} {line : Bytes} {i : Nat} {state : State}
    (awaits : r.AwaitsRaise seen i state) (other : ¬ r.IsTrigger line)
    (skipped : r.terminator = .lineOffset → seen.length = i + r.offset → r.filter.drops line = true) :
    r.AwaitsRaise (seen ++ [line]) i state := by
  have before := awaits.last.lt_length
  refine ⟨(lastTrigger_concat_other other).mpr awaits.last, awaits.counted, ?_, ?_⟩
  · intro mode positive later atLater
    have inside := (List.getElem?_eq_some_iff.mp atLater).1
    simp only [List.length_append, List.length_singleton] at inside
    by_cases earlier : i + r.offset < seen.length
    · rw [List.getElem?_append_left earlier] at atLater
      exact awaits.missed mode positive later atLater
    · have due : seen.length = i + r.offset := by omega
      have same : line = later := by
        rw [← due, List.getElem?_concat_length] at atLater
        exact Option.some.inj atLater
      rw [← same]
      exact skipped mode due
  · intro mode here atHere
    rw [List.getElem?_append_left before] at atHere
    exact awaits.braced mode here atHere

/-- How far the scan has come does not matter where the end of the statement is looked for. -/
theorem AwaitsRaise.rescan {seen : List Bytes} {i : Nat} {state : State} (awaits : r.AwaitsRaise seen i state)
    (mode : r.terminator = .statementEnd) (scanner : Scanner) :
    r.AwaitsRaise seen i (.pending i scanner state.braced) := by
  refine ⟨awaits.last, fun other => ?_, awaits.missed, awaits.braced⟩
  cases mode.symm.trans other

/-- Nothing is left over where no throw is pending. -/
structure PendingInvariant (r : Replacement) (seen : List Bytes) (state : State) : Prop where
  fresh : state.pendingLine = none → state = {}
  awaits : ∀ i, state.pendingLine = some i → r.AwaitsRaise seen i state

theorem PendingInvariant.start : r.PendingInvariant [] {} :=
  ⟨fun _ => rfl, nofun⟩

theorem PendingInvariant.step {seen : List Bytes} {state after : State} {line : Bytes}
    (inv : r.PendingInvariant seen state) (leaves : r.Leaves seen.length line state after) :
    r.PendingInvariant (seen ++ [line]) after := by
  cases leaves with
  | fresh trigger counted guarded =>
    refine ⟨nofun, ?_⟩
    intro i waits
    cases waits
    exact .of_trigger trigger counted guarded
  | done => exact ⟨fun _ => rfl, nofun⟩
  | same other skipped =>
    refine ⟨inv.fresh, ?_⟩
    intro i waits
    exact (inv.awaits i waits).concat_other other fun mode => skipped mode i waits
  | scanned other mode waits =>
    refine ⟨nofun, ?_⟩
    intro i same
    cases same
    refine ((inv.awaits _ waits).concat_other other fun counts => ?_).rescan mode _
    cases mode.symm.trans counts

theorem pendingInvariant_of_reach {seen : List Bytes} {emitted : List Emission} {state : State}
    (reach : r.rule.Reach seen emitted state) : r.PendingInvariant seen state := by
  induction reach with
  | start => exact .start
  | next _ applied ih => exact ih.step (leaves_of_apply applied)

theorem guarded_iff {line : Bytes} : r.guarded line = true ↔ ∃ b ∈ r.lead line, Ascii.isBlank b = false := by
  simp only [guarded, Bool.not_eq_true', List.all_eq_false, Bool.not_eq_true]

/-- Behind any lines, either nothing is left of all throws, or the last one is pending and the state is that of this
throw alone. Counting lines, nothing is scanned and no block is open, and a throw that is pending beyond its offset has
lost its raise to a dropped line. Looking for the end of the statement, a block is open exactly if code stands before
the throw. -/
theorem stateAfter_awaitsRaise (r : Replacement) (lines : List Bytes) :
    let state := r.rule.stateAfter lines
    (state.pendingLine = none → state = {}) ∧
    (r.terminator = .lineOffset → state.scanner = {} ∧ state.braced = false) ∧
    ∀ i, state.pendingLine = some i →
      (i < lines.length ∧ r.TriggerAt lines i ∧ ∀ m, i < m → ¬ r.TriggerAt lines m) ∧
      (r.terminator = .lineOffset → 1 ≤ r.offset → i + r.offset < lines.length →
        ∃ line, lines[i + r.offset]? = some line ∧ r.filter.drops line = true) ∧
      (r.terminator = .statementEnd → ∀ line, lines[i]? = some line →
        (state.braced = true ↔ ∃ b ∈ r.lead line, Ascii.isBlank b = false)) := by
  intro state
  have inv : r.PendingInvariant lines state := pendingInvariant_of_reach (r.rule.reach_run lines)
  refine ⟨inv.fresh, ?_, ?_⟩
  · intro mode
    cases waits : state.pendingLine with
    | none => exact inv.fresh waits ▸ ⟨rfl, rfl⟩
    | some i => exact (inv.awaits i waits).counted mode
  · intro i waits
    have awaits := inv.awaits i waits
    refine ⟨⟨awaits.last.lt_length, awaits.last⟩, ?_, ?_⟩
    · intro mode positive inside
      exact ⟨_, List.getElem?_eq_getElem inside,
        awaits.missed mode positive _ (List.getElem?_eq_getElem inside)⟩
    · intro mode line atLine
      rw [awaits.braced mode line atLine, guarded_iff]

/-- The raise would follow the include, which is dropped. -/
example : (stock .lineOffset).rule.stateAfter
    [Bytes.ofString "throw cms::Exception(\"A\")\n", Bytes.ofString "  << x\n",
      Bytes.ofString "#include \"FWCore/x.h\"\n", Bytes.ofString "next();\n"] = .pending 0 {} false := by
  decide

end Amalgam.Replacement
