import Amalgam.Proofs.Offsets
import Amalgam.Proofs.Trigger

namespace Amalgam

open Offsets (Fault require slice)

namespace Offsets

/-- Whether the filter drops a line, with the markers searched window by window. -/
def drops (filter : Filter) (line : Bytes) : Except Fault Bool := do
  if filter.isInternalInclude line then return true
  let marked ← filter.markers.anyM fun marker => return (← find line marker).isSome
  return marked || filter.patterns.any (· line)

/-- Takes a line apart around the throw found at `start`. -/
def throwAt (limit : Nat) (r : Replacement) (line : Bytes) (start : Nat) : Except Fault Replacement.Throw := do
  let body := (Line.ofBytes line).body
  let start := min start body.length
  let lead ← slice body 0 start
  require (start + r.throwPattern.length ≤ limit) .tooLarge
  match ← argumentsEnd limit body (start + r.throwPattern.length) with
  | some stop => return ⟨lead, ← slice body stop body.length⟩
  | none => return ⟨lead, []⟩

def findTerminator (limit : Nat) (scanner : Scanner) (line : Bytes) : Except Fault (Option Nat × Scanner) :=
  scanFrom limit line scanner.inBlockComment 0

/-- Replaces a line with a throw at `start`. -/
def trigger (limit : Nat) (r : Replacement) (index : Nat) (line : Bytes) (start : Nat) :
    Except Fault (Emission × Replacement.State) :=
  match r.terminator with
  | .lineOffset => return (⟨.triggered, r.diagnostic ++ [Ascii.newline]⟩, .pending index {} false)
  | .statementEnd => do
    let throw ← throwAt limit r line start
    match ← findTerminator limit {} throw.tail with
    | (some _, _) =>
      return (⟨.triggeredAndTerminated, r.diagnosticLine throw ++ r.raiseLine throw.braced⟩, {})
    | (none, scanner) =>
      return (⟨.triggered, r.diagnosticLine throw⟩, .pending index scanner throw.braced)

/-- Emits a line that follows the throw on line `trigger`. -/
def proceed (limit : Nat) (r : Replacement) (state : Replacement.State) (trigger index : Nat) (line : Bytes) :
    Except Fault (Emission × Replacement.State) :=
  match r.terminator with
  | .lineOffset => do
    require (trigger + r.offset ≤ limit) .tooLarge
    if index = trigger + r.offset then return (r.terminate line false, {})
    else return (⟨.kept, line⟩, state)
  | .statementEnd => do
    match ← findTerminator limit state.scanner line with
    | (some _, _) => return (r.terminate line state.braced, {})
    | (none, scanner) => return (⟨.kept, line⟩, .pending trigger scanner state.braced)

def apply (limit : Nat) (r : Replacement) (state : Replacement.State) (index : Nat) (line : Bytes) :
    Except Fault (Emission × Replacement.State) := do
  if ← drops r.filter line then return (⟨.dropped, []⟩, state)
  match ← find line r.throwPattern with
  | some start => trigger limit r index line start
  | none =>
    match state.pendingLine with
    | none => return (⟨.kept, line⟩, state)
    | some trigger => proceed limit r state trigger index line

variable {limit : Nat} {r : Replacement} {line : Bytes}

theorem anyM_markers (markers : List Bytes) (line : Bytes) :
    (markers.anyM fun marker => (return (← find line marker).isSome : Except Fault Bool)) =
      .ok (markers.any line.contains) := by
  induction markers with
  | nil => rfl
  | cons marker markers ih =>
    rw [List.anyM, find_eq, List.any_cons]
    change (match line.contains marker with | true => _ | false => _) = _
    cases line.contains marker with
    | true => rfl
    | false => exact ih

theorem drops_eq (filter : Filter) (line : Bytes) : drops filter line = .ok (filter.drops line) := by
  rw [drops, anyM_markers, Filter.drops]
  cases filter.isInternalInclude line with
  | true => rfl
  | false => rfl

theorem findTerminator_eq (room : line.length < limit) (scanner : Scanner) :
    findTerminator limit scanner line = .ok (scanner.findTerminator line) :=
  scanFrom_eq room scanner.inBlockComment 0

theorem length_body_le (line : Bytes) : (Line.ofBytes line).body.length ≤ line.length :=
  (Line.body_prefix line).length_le

theorem end?_le {start stop : Nat} (found : ArgumentList.end? line start = some stop) : stop ≤ line.length := by
  obtain ⟨blanks, list, rest, parts, _, isList, rfl⟩ := ArgumentList.end?_eq_some_iff.mp found
  obtain ⟨inner, opens⟩ := isList.cons_open
  have length := congrArg List.length parts
  have positive : 0 < list.length := by simp only [opens, List.length_cons, Nat.succ_pos]
  simp only [List.length_drop, List.length_append] at length
  omega

/-- Both parts lie within the body: the throw is found in the whole line, but its place is held to the body, and the
argument list ends there. -/
theorem throwAt_eq (room : line.length < limit) (room' : line.length + r.throwPattern.length ≤ limit) (start : Nat) :
    throwAt limit r line start = .ok (r.throwAt line start) := by
  let body := (Line.ofBytes line).body
  have shorter : body.length ≤ line.length := length_body_le line
  have clamped : min start body.length ≤ body.length := Nat.min_le_right _ _
  have small : min start body.length + r.throwPattern.length ≤ limit := by omega
  have lead : slice body 0 (min start body.length) = .ok (body.take (min start body.length)) :=
    slice_eq (Nat.zero_le _) clamped
  have list := argumentsEnd_eq (Nat.lt_of_le_of_lt shorter room) (min start body.length + r.throwPattern.length)
  simp only [throwAt, Replacement.throwAt]
  rw [lead, require, if_pos small, list]
  cases found : ArgumentList.end? body (min start body.length + r.throwPattern.length) with
  | none => rfl
  | some stop =>
    have tail : slice body stop body.length = .ok (body.drop stop) := by
      rw [slice_eq (end?_le found) (Nat.le_refl _), List.take_length]
    change (do return (⟨_, ← slice body stop body.length⟩ : Replacement.Throw)) = _
    rw [tail]
    rfl

theorem length_tail_le (start : Nat) : (r.throwAt line start).tail.length ≤ line.length := by
  have shorter := length_body_le line
  unfold Replacement.throwAt
  dsimp only
  split
  · rw [List.length_drop]
    omega
  · exact Nat.zero_le _

theorem trigger_eq (room : line.length < limit) (room' : line.length + r.throwPattern.length ≤ limit)
    (index start : Nat) : trigger limit r index line start = .ok (r.trigger index line start) := by
  unfold trigger Replacement.trigger
  cases r.terminator with
  | lineOffset => rfl
  | statementEnd =>
    have shorter : (r.throwAt line start).tail.length ≤ line.length := length_tail_le start
    have tail := findTerminator_eq (Nat.lt_of_le_of_lt shorter room) {}
    dsimp only
    rw [throwAt_eq room room']
    change (findTerminator limit {} (r.throwAt line start).tail >>= _) = _
    rw [tail]
    rcases Scanner.findTerminator {} (r.throwAt line start).tail with ⟨_ | stop, scanner⟩ <;> rfl

theorem proceed_eq (room : line.length < limit) (state : Replacement.State) {trigger : Nat}
    (small : r.terminator = .lineOffset → trigger + r.offset ≤ limit) (index : Nat) :
    proceed limit r state trigger index line = .ok (r.proceed state trigger index line) := by
  unfold proceed Replacement.proceed
  cases mode : r.terminator with
  | lineOffset =>
    rw [require, if_pos (small mode)]
    change (if _ then _ else _) = _
    split <;> rfl
  | statementEnd =>
    dsimp only
    rw [findTerminator_eq room]
    rcases Scanner.findTerminator state.scanner line with ⟨_ | stop, scanner⟩ <;> rfl

theorem apply_eq (room : line.length < limit) (room' : line.length + r.throwPattern.length ≤ limit)
    (state : Replacement.State)
    (small : ∀ trigger, state.pendingLine = some trigger → r.terminator = .lineOffset →
      trigger + r.offset ≤ limit)
    (index : Nat) : apply limit r state index line = .ok (r.apply state index line) := by
  unfold apply Replacement.apply
  rw [drops_eq, find_eq]
  cases r.filter.drops line with
  | true => rfl
  | false =>
    cases line.indexOf? r.throwPattern with
    | some start => exact trigger_eq room room' index start
    | none =>
      cases waits : state.pendingLine with
      | none => rfl
      | some trigger => exact proceed_eq room state (small trigger waits) index

end Offsets

theorem Scanner.semicolon_of_scan {place : Place} {offset stop : Nat} {text : Bytes}
    (found : (scan place offset text).1 = some stop) :
    ∃ i, stop = offset + i ∧ text[i]? = some Ascii.semicolon := by
  fun_induction scan place offset text with
  | case1 => cases found
  | case2 place offset b ends =>
    cases found
    exact ⟨0, rfl, congrArg some ends.2⟩
  | case3 => cases found
  | case4 => cases found
  | case5 offset b c rest _ _ ih =>
    obtain ⟨i, same, atStop⟩ := ih found
    exact ⟨i + 2, by omega, atStop⟩
  | case6 offset c rest =>
    cases found
    exact ⟨0, rfl, rfl⟩
  | case7 offset b c rest _ _ _ ih =>
    obtain ⟨i, same, atStop⟩ := ih found
    exact ⟨i + 1, by omega, atStop⟩
  | case8 offset b c rest _ ih =>
    obtain ⟨i, same, atStop⟩ := ih found
    exact ⟨i + 2, by omega, atStop⟩
  | case9 offset b c rest _ ih =>
    obtain ⟨i, same, atStop⟩ := ih found
    exact ⟨i + 1, by omega, atStop⟩
  | case10 quote offset c rest ih =>
    obtain ⟨i, same, atStop⟩ := ih found
    exact ⟨i + 2, by omega, atStop⟩
  | case11 quote offset b c rest _ ih =>
    obtain ⟨i, same, atStop⟩ := ih found
    exact ⟨i + 1, by omega, atStop⟩

/-- No line makes the rule fault, whatever its settings and its state are, and read by offsets it does the same. All
that it takes is that numbers reach as far as the line with the throw pattern behind it and, counting lines, as far as
the line where a raise is due. The place of a throw is held to the body of the line. A scan stops at a semicolon of
the line, a literal ends at or behind its start and within the line, and so does an argument list, wherever it is
looked for. -/
theorem Replacement.apply_inBounds (r : Replacement) {limit : Nat} {text : Bytes} (room : text.length < limit)
    (room' : text.length + r.throwPattern.length ≤ limit) :
    (∀ state index,
      (∀ trigger, state.pendingLine = some trigger → r.terminator = .lineOffset → trigger + r.offset ≤ limit) →
      Offsets.apply limit r state index text = .ok (r.apply state index text)) ∧
    (∀ start, min start (Line.ofBytes text).body.length ≤ (Line.ofBytes text).body.length ∧
      slice (Line.ofBytes text).body 0 (min start (Line.ofBytes text).body.length) =
        .ok (r.throwAt text start).lead) ∧
    (∀ scanner, Offsets.findTerminator limit scanner text = .ok (scanner.findTerminator text) ∧
      ∀ stop, (scanner.findTerminator text).1 = some stop →
        stop < text.length ∧ text[stop]? = some Ascii.semicolon) ∧
    (∀ quote start, start ≤ text.length →
      ∃ stop, Offsets.skipLiteral limit text quote start = .ok stop ∧ start ≤ stop ∧ stop ≤ text.length) ∧
    ∀ start, Offsets.argumentsEnd limit text start = .ok (ArgumentList.end? text start) ∧
      ∀ stop, ArgumentList.end? text start = some stop → stop ≤ text.length := by
  refine ⟨fun state index small => Offsets.apply_eq room room' state small index, fun start => ?_, fun scanner => ?_,
    fun quote start within => ?_, fun start => ⟨Offsets.argumentsEnd_eq room start, fun stop => Offsets.end?_le⟩⟩
  · have clamped := Nat.min_le_right start (Line.ofBytes text).body.length
    exact ⟨clamped, Offsets.slice_eq (Nat.zero_le _) clamped⟩
  · refine ⟨Offsets.findTerminator_eq room scanner, fun stop found => ?_⟩
    obtain ⟨i, same, atStop⟩ := Scanner.semicolon_of_scan found
    obtain rfl : stop = i := by omega
    exact ⟨(List.getElem?_eq_some_iff.mp atStop).1, atStop⟩
  · obtain ⟨stop, found, _⟩ := Offsets.skipLiteral_eq room quote start
    have bounds := Offsets.skipLiteral_bounds found
    exact ⟨stop, found, by omega, bounds.2⟩

/-- The throw pattern is the end of a line. -/
def breakPattern : Replacement :=
  { Replacement.stock .statementEnd with throwPattern := [Ascii.newline] }

/-- The pattern is found behind the body of the line, and all of the body stays before the diagnostic. -/
theorem Replacement.apply_inBounds_breakPattern :
    (Bytes.ofString "x\r\n").length < 18446744073709551615 ∧
      (Bytes.ofString "x\r\n").length + breakPattern.throwPattern.length ≤ 18446744073709551615 ∧
      Offsets.apply 18446744073709551615 breakPattern {} 0 (Bytes.ofString "x\r\n") =
        .ok (⟨.triggered, Bytes.ofString "x\x7b std::cerr << \"ERROR in BTagCalibration: \"\n"⟩,
          .pending 0 {} true) := by
  have room : (Bytes.ofString "x\r\n").length < 18446744073709551615 := by decide
  have room' : (Bytes.ofString "x\r\n").length + breakPattern.throwPattern.length ≤ 18446744073709551615 := by decide
  obtain ⟨never, _⟩ := apply_inBounds breakPattern room room'
  have applied : breakPattern.apply {} 0 (Bytes.ofString "x\r\n") =
      (⟨.triggered, Bytes.ofString "x\x7b std::cerr << \"ERROR in BTagCalibration: \"\n"⟩,
        .pending 0 {} true) := by decide
  exact ⟨room, room', (never {} 0 nofun).trans (congrArg Except.ok applied)⟩

end Amalgam
