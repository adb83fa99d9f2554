import Mathlib.Algebra.BigOperators.Group.List.Basic
import Mathlib.Algebra.GroupWithZero.Nat
import Amalgam.Report

namespace Amalgam

attribute [ext] Report

namespace Report

/-- The counts for lines with these outcomes. -/
def ofLines (outcomes : List Outcome) : Report where
  linesRead := outcomes.length
  linesDropped := outcomes.count .dropped
  triggers := outcomes.count .triggered + outcomes.count .triggeredAndTerminated
  terminators := outcomes.count .terminated + outcomes.count .triggeredAndTerminated

/-- The counts for one file whose lines have these outcomes. -/
def ofFile (outcomes : List Outcome) : Report :=
  { ofLines outcomes with files := 1 }

instance : Zero Report := ⟨{}⟩

@[simp]
theorem files_add (a b : Report) : (a + b).files = a.files + b.files := rfl

@[simp]
theorem linesRead_add (a b : Report) : (a + b).linesRead = a.linesRead + b.linesRead := rfl

@[simp]
theorem linesDropped_add (a b : Report) : (a + b).linesDropped = a.linesDropped + b.linesDropped := rfl

@[simp]
theorem triggers_add (a b : Report) : (a + b).triggers = a.triggers + b.triggers := rfl

@[simp]
theorem terminators_add (a b : Report) : (a + b).terminators = a.terminators + b.terminators := rfl

instance : AddCommMonoid Report where
  add_assoc a b c := by ext <;> exact Nat.add_assoc ..
  zero_add a := by ext <;> exact Nat.zero_add _
  add_zero _ := rfl
  add_comm a b := by ext <;> exact Nat.add_comm ..
  nsmul := nsmulRec

theorem ofLines_append (first second : List Outcome) :
    ofLines (first ++ second) = ofLines first + ofLines second := by
  ext
  · rfl
  · exact List.length_append
  · exact List.count_append
  · simp only [ofLines, List.count_append, triggers_add]
    omega
  · simp only [ofLines, List.count_append, terminators_add]
    omega

theorem record_eq (report : Report) (outcome : Outcome) : report.record outcome = report + ofLines [outcome] := by
  cases outcome <;> rfl

theorem foldl_record (report : Report) (outcomes : List Outcome) :
    outcomes.foldl record report = report + ofLines outcomes := by
  induction outcomes generalizing report with
  | nil => exact (add_zero report).symm
  | cons outcome outcomes ih =>
    rw [List.foldl_cons, ih, record_eq, add_assoc, ← ofLines_append, List.singleton_append]

theorem recordFile_eq (report : Report) (outcomes : List Outcome) :
    report.recordFile outcomes = report + ofFile outcomes := by
  simp only [recordFile, foldl_record]
  rfl

theorem foldl_recordFile (report : Report) (files : List (List Outcome)) :
    files.foldl recordFile report = report + (files.map ofFile).sum := by
  induction files generalizing report with
  | nil => exact (add_zero report).symm
  | cons outcomes files ih =>
    rw [List.foldl_cons, ih, recordFile_eq, add_assoc, List.map_cons, List.sum_cons]

/-- No more raises have been counted than throws. -/
def Answered (report : Report) : Prop :=
  report.terminators ≤ report.triggers

theorem answered_zero : (0 : Report).Answered :=
  Nat.le_refl 0

theorem Answered.add {a b : Report} (first : a.Answered) (second : b.Answered) : (a + b).Answered :=
  Nat.add_le_add first second

theorem answered_sum {reports : List Report} (answered : ∀ report ∈ reports, report.Answered) :
    reports.sum.Answered := by
  induction reports with
  | nil => exact answered_zero
  | cons report reports ih =>
    rw [List.forall_mem_cons] at answered
    rw [List.sum_cons]
    exact answered.1.add (ih answered.2)

/-- What is missing adds up as long as nothing is answered that was not asked for. -/
theorem unterminated_add {a b : Report} (first : a.Answered) (second : b.Answered) :
    (a + b).unterminated = a.unterminated + b.unterminated := by
  simp only [Answered] at first second
  simp only [unterminated, triggers_add, terminators_add]
  omega

theorem unterminated_sum {reports : List Report} (answered : ∀ report ∈ reports, report.Answered) :
    reports.sum.unterminated = (reports.map unterminated).sum := by
  induction reports with
  | nil => rfl
  | cons report reports ih =>
    rw [List.forall_mem_cons] at answered
    rw [List.sum_cons, unterminated_add answered.1 (answered_sum answered.2), ih answered.2, List.map_cons,
      List.sum_cons]

theorem Answered.unterminated_pos_iff {report : Report} (answered : report.Answered) :
    0 < report.unterminated ↔ report.triggers ≠ report.terminators := by
  simp only [Answered] at answered
  simp only [unterminated]
  omega

end Report

/-- What becomes of the lines of a file. -/
def Rule.outcomes {State : Type} (rule : Rule State) (content : Bytes) : List Outcome :=
  (rule.emissions content).map (·.outcome)

/-- What a file adds to the counts. -/
def Rule.counts {State : Type} (rule : Rule State) (content : Bytes) : Report :=
  .ofFile (rule.outcomes content)

theorem Rule.files_sum_counts {State : Type} (rule : Rule State) (contents : List Bytes) :
    (contents.map rule.counts).sum.files = contents.length := by
  induction contents with
  | nil => rfl
  | cons content contents ih =>
    rw [List.map_cons, List.sum_cons, Report.files_add, ih, List.length_cons, Nat.add_comm]
    rfl

end Amalgam
