import Amalgam.Proofs.Assembly
import Amalgam.Proofs.LineScan
import Amalgam.Proofs.Run
import Amalgam.Proofs.Step

namespace Amalgam.Replacement

variable {r : Replacement} {lines : List Bytes} {line : Bytes} {n : Nat}

/-- The same replacement with another way to find the end of a throw. -/
def endedBy (r : Replacement) (terminator : Terminator) : Replacement :=
  { r with terminator }

def PlainAt (r : Replacement) (lines : List Bytes) (n : Nat) : Prop :=
  ∃ line, lines[n]? = some line ∧ r.IsPlain line

instance (lines : List Bytes) (n : Nat) : Decidable (r.PlainAt lines n) :=
  decidable_of_iff (∃ line ∈ lines[n]?, r.IsPlain line) (by simp [PlainAt])

/-- The throw stands alone on line `i`. The lines behind it are plain up to the offset, and a scan of them ends
there. -/
structure OffsetFits (r : Replacement) (lines : List Bytes) (i : Nat) : Prop where
  unguarded : r.guarded (lines[i]?.getD []) = false
  alone : r.tail (lines[i]?.getD []) = []
  plain : ∀ m, i < m → m ≤ i + r.offset → r.PlainAt lines m
  ends : (Scanner.findInLines {} (lines.drop (i + 1))).1.map (fun found => i + 1 + found.1) = some (i + r.offset)

/-- The offset is right for every throw of these lines. -/
def OffsetFitsAll (r : Replacement) (lines : List Bytes) : Prop :=
  ∀ i, r.TriggerAt lines i → r.OffsetFits lines i

instance (lines : List Bytes) (i : Nat) : Decidable (r.OffsetFits lines i) :=
  decidable_of_iff (r.guarded (lines[i]?.getD []) = false ∧ r.tail (lines[i]?.getD []) = [] ∧
      (∀ m ≤ i + r.offset, i < m → r.PlainAt lines m) ∧
      (Scanner.findInLines {} (lines.drop (i + 1))).1.map (fun found => i + 1 + found.1) = some (i + r.offset))
    ⟨fun fits => ⟨fits.1, fits.2.1, fun m after within => fits.2.2.1 m within after, fits.2.2.2⟩,
      fun fits => ⟨fits.unguarded, fits.alone, fun m within after => fits.plain m after within, fits.ends⟩⟩

instance (lines : List Bytes) : Decidable (r.OffsetFitsAll lines) :=
  decidable_of_iff (∀ i < lines.length, r.TriggerAt lines i → r.OffsetFits lines i)
    ⟨fun fits i trigger => fits i trigger.lt_length trigger, fun fits i _ => fits i⟩

/-- Before line `n` no throw is pending, or the same one is: the countdown has so many lines left, all of them
plain, and the scan ends on the last of them. -/
inductive InStep (r : Replacement) (lines : List Bytes) (n : Nat) : State → State → Prop
  | idle : InStep r lines n {} {}
  | waiting {i left place : Nat} {scanner : Scanner} : n + left = i + r.offset →
      (∀ m, n ≤ m → m ≤ i + r.offset → r.PlainAt lines m) →
      (scanner.findInLines (lines.drop n)).1 = some (left, place) →
      InStep r lines n (.pending i {} false) (.pending i scanner false)

theorem apply_lineOffset_of_trigger (trigger : r.IsTrigger line) (state : State) (index : Nat) :
    (r.endedBy .lineOffset).apply state index line =
      (⟨.triggered, r.diagnostic ++ [Ascii.newline]⟩, .pending index {} false) := by
  obtain ⟨_, _, result⟩ := apply_of_trigger (r := r.endedBy .lineOffset) trigger state index
  rw [result]
  rfl

theorem apply_statementEnd_of_alone (trigger : r.IsTrigger line) (unguarded : r.guarded line = false)
    (alone : r.tail line = []) (state : State) (index : Nat) :
    (r.endedBy .statementEnd).apply state index line =
      (⟨.triggered, r.diagnostic ++ [Ascii.newline]⟩, .pending index {} false) := by
  obtain ⟨start, found, result⟩ := apply_of_trigger (r := r.endedBy .statementEnd) trigger state index
  have parts : (r.endedBy .statementEnd).throwAt line start = ⟨r.lead line, []⟩ :=
    (throwAt_eq found).trans (congrArg (Throw.mk (r.lead line)) alone)
  have braced : Throw.braced ⟨r.lead line, []⟩ = false := unguarded
  have text : (r.endedBy .statementEnd).diagnosticLine ⟨r.lead line, []⟩ = r.diagnostic ++ [Ascii.newline] := by
    rw [diagnosticLine, braced, if_neg Bool.false_ne_true, List.nil_append, List.append_nil]
    rfl
  rw [result, Replacement.trigger]
  simp only [endedBy] at parts text ⊢
  rw [parts, text, braced]
  rfl

theorem InStep.of_trigger (fits : r.OffsetFits lines n) :
    r.InStep lines (n + 1) (.pending n {} false) (.pending n {} false) := by
  obtain ⟨⟨left, place⟩, found, same⟩ := Option.map_eq_some_iff.mp fits.ends
  exact .waiting same fits.plain found

/-- On a plain line behind a throw, the countdown comes to its end exactly if the scan does. -/
theorem InStep.proceed {i left place : Nat} {scanner : Scanner} (distance : n + left = i + r.offset)
    (plain : ∀ m, n ≤ m → m ≤ i + r.offset → r.PlainAt lines m)
    (found : (scanner.findInLines (lines.drop n)).1 = some (left, place)) (atLine : lines[n]? = some line) :
    ((r.endedBy .lineOffset).proceed (.pending i {} false) i n line).1 =
        ((r.endedBy .statementEnd).proceed (.pending i scanner false) i n line).1 ∧
      r.InStep lines (n + 1) ((r.endedBy .lineOffset).proceed (.pending i {} false) i n line).2
        ((r.endedBy .statementEnd).proceed (.pending i scanner false) i n line).2 := by
  obtain ⟨inside, rfl⟩ := List.getElem?_eq_some_iff.mp atLine
  rw [List.drop_eq_getElem_cons inside] at found
  match result : scanner.findTerminator lines[n] with
  | (some stop, next) =>
    rw [Scanner.findInLines_of_some result] at found
    cases found
    have counted : (r.endedBy .lineOffset).proceed (.pending i {} false) i n lines[n] =
        (r.terminate lines[n] false, {}) := if_pos distance
    have scanned : (r.endedBy .statementEnd).proceed (.pending i scanner false) i n lines[n] =
        (r.terminate lines[n] false, {}) := by
      simp only [Replacement.proceed, endedBy, State.scanner_pending, result]
      rfl
    rw [counted, scanned]
    exact ⟨rfl, .idle⟩
  | (none, next) =>
    rw [Scanner.findInLines_of_none result, Option.map_eq_some_iff] at found
    obtain ⟨⟨left, place⟩, found, same⟩ := found
    cases same
    have early : ¬ n = i + r.offset := by omega
    have counted : (r.endedBy .lineOffset).proceed (.pending i {} false) i n lines[n] =
        (⟨.kept, lines[n]⟩, .pending i {} false) := if_neg early
    have scanned : (r.endedBy .statementEnd).proceed (.pending i scanner false) i n lines[n] =
        (⟨.kept, lines[n]⟩, .pending i next false) := by
      simp only [Replacement.proceed, endedBy, State.scanner_pending, result]
      rfl
    rw [counted, scanned]
    exact ⟨rfl, .waiting (by omega) (fun m after => plain m (by omega)) found⟩

/-- In step, both emit the same for the next line and stay in step. -/
theorem InStep.step (fits : r.OffsetFitsAll lines) {state state' : State} (atLine : lines[n]? = some line)
    (inStep : r.InStep lines n state state') :
    ((r.endedBy .lineOffset).apply state n line).1 = ((r.endedBy .statementEnd).apply state' n line).1 ∧
      r.InStep lines (n + 1) ((r.endedBy .lineOffset).apply state n line).2
        ((r.endedBy .statementEnd).apply state' n line).2 := by
  rcases r.line_cases line with dropped | trigger | plain
  · rw [apply_of_dropped (r := r.endedBy .lineOffset) dropped, apply_of_dropped (r := r.endedBy .statementEnd) dropped]
    refine ⟨rfl, ?_⟩
    cases inStep with
    | idle => exact .idle
    | waiting distance plain _ =>
      obtain ⟨other, same, isPlain⟩ := plain n (Nat.le_refl n) (by omega)
      cases atLine.symm.trans same
      exact absurd isPlain (not_plain_of_dropped dropped)
  · have fit := fits n ⟨line, atLine, trigger⟩
    have unguarded := fit.unguarded
    have alone := fit.alone
    rw [atLine, Option.getD_some] at unguarded alone
    rw [apply_lineOffset_of_trigger trigger, apply_statementEnd_of_alone trigger unguarded alone]
    exact ⟨rfl, .of_trigger fit⟩
  · cases inStep with
    | idle =>
      rw [apply_of_idle (r := r.endedBy .lineOffset) plain rfl,
        apply_of_idle (r := r.endedBy .statementEnd) plain rfl]
      exact ⟨rfl, .idle⟩
    | waiting distance ahead found =>
      rw [apply_of_pending (r := r.endedBy .lineOffset) plain (State.pendingLine_pending ..),
        apply_of_pending (r := r.endedBy .statementEnd) plain (State.pendingLine_pending ..)]
      exact InStep.proceed distance ahead found atLine

def simulation (fits : r.OffsetFitsAll lines) :
    (r.endedBy .lineOffset).rule.Simulation (r.endedBy .statementEnd).rule lines where
  Related := r.InStep lines
  start := .idle
  step _ _ _ _ atLine inStep := inStep.step fits atLine

/-- Where the offset is right for every throw, both ways to find the end of a throw do the same with every line,
and so the same artifact is assembled, with the same events and the same result. -/
theorem terminators_agree (r : Replacement) :
    (∀ lines, r.OffsetFitsAll lines →
      ((r.endedBy .lineOffset).rule.run {} 0 lines).1 = ((r.endedBy .statementEnd).rule.run {} 0 lines).1) ∧
    ∀ (read : Path → Except IoError Bytes) (sources : List Path),
      (∀ source ∈ sources, ∀ content, read source = .ok content → r.OffsetFitsAll content.lines) →
      ∀ artifact room,
        assemble (r.endedBy .lineOffset).rule (Assembly.fileSource read) sources artifact room =
          assemble (r.endedBy .statementEnd).rule (Assembly.fileSource read) sources artifact room := by
  refine ⟨fun lines fits => (simulation fits).run_eq, ?_⟩
  intro read sources fits artifact room
  have preamble : (r.endedBy .lineOffset).rule.preamble = (r.endedBy .statementEnd).rule.preamble := rfl
  refine Assembly.assemble_of_emissions_eq preamble ?_ artifact room
  intro source member content found
  exact (simulation (fits source member content found)).run_eq

def timelyThrows : Bytes :=
  Bytes.ofString ("  throw cms::Exception(\"A;\")\n << \"b;\" /* c;\n */ << d;\ne();\n" ++
    "throw cms::Exception\n << 'f' // g;\n << h;")

/-- The semicolons in literals and comments end no statement, and the last line has no newline. -/
theorem terminators_agree_timelyThrows :
    (stock .statementEnd).OffsetFitsAll timelyThrows.lines ∧
      (((stock .statementEnd).endedBy .statementEnd).rule.run {} 0 timelyThrows.lines).1.map (·.outcome) =
        [.triggered, .kept, .terminated, .kept, .triggered, .kept, .terminated] ∧
      assemble ((stock .statementEnd).endedBy .lineOffset).rule (Assembly.fileSource fun _ => .ok timelyThrows)
          [.ofString "A.cc", .ofString "B.cc"] (.ofString "Out.cc") none =
        assemble ((stock .statementEnd).endedBy .statementEnd).rule (Assembly.fileSource fun _ => .ok timelyThrows)
          [.ofString "A.cc", .ofString "B.cc"] (.ofString "Out.cc") none := by
  have fits : (stock .statementEnd).OffsetFitsAll timelyThrows.lines := by decide
  refine ⟨fits, ?_, ?_⟩
  · rw [← (terminators_agree (stock .statementEnd)).1 timelyThrows.lines fits]
    decide
  · refine (terminators_agree (stock .statementEnd)).2 _ _ ?_ _ _
    rintro _ _ content found
    cases found
    exact fits

end Amalgam.Replacement
