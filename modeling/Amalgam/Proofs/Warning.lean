import Amalgam.Proofs.Assembly
import Amalgam.Proofs.Run
import Amalgam.Proofs.Step
import Amalgam.Rules

namespace Amalgam

open Report (ofLines)

section Answers

variable {State : Type} {rule : Rule State}

/-- The rule never emits more raises than it has replaced throws. -/
def Rule.Answers (rule : Rule State) : Prop :=
  ∀ lines, (ofLines ((rule.run rule.initial 0 lines).1.map (·.outcome))).Answered

/-- If every step answers no more than what waits, so does every run. -/
theorem Rule.answers_of_step (waiting : State → Nat) (none : waiting rule.initial = 0)
    (step : ∀ state index line emission next, rule.apply state index line = (emission, next) →
      (ofLines [emission.outcome]).terminators + waiting next ≤
        (ofLines [emission.outcome]).triggers + waiting state) : rule.Answers := by
  have runs : ∀ {seen emitted state}, rule.Reach seen emitted state →
      (ofLines (emitted.map (·.outcome))).terminators + waiting state ≤
        (ofLines (emitted.map (·.outcome))).triggers := by
    intro seen emitted state reach
    induction reach with
    | start => exact Nat.le_of_eq ((Nat.zero_add _).trans none)
    | next _ applied ih =>
      have latest := step _ _ _ _ _ applied
      rw [List.map_append, List.map_singleton, Report.ofLines_append, Report.terminators_add,
        Report.triggers_add]
      omega
  intro lines
  have run := runs (rule.reach_run lines)
  exact Nat.le_trans (Nat.le_add_right _ _) run

theorem Rule.Answers.take (answers : rule.Answers) (content : Bytes) (k : Nat) :
    (ofLines ((rule.outcomes content).take k)).Answered := by
  rw [Rule.outcomes, Rule.emissions, ← List.map_take, ← Rule.run_take]
  exact answers _

theorem Rule.Answers.counts (answers : rule.Answers) (content : Bytes) : (rule.counts content).Answered :=
  answers content.lines

theorem Rule.Answers.forall_counts (answers : rule.Answers) (contents : List Bytes) :
    ∀ report ∈ contents.map rule.counts, report.Answered :=
  List.forall_mem_map.mpr fun content _ => answers.counts content

end Answers

theorem Filter.rule_answers (filter : Filter) : filter.rule.Answers := by
  refine Rule.answers_of_step (fun _ => 0) rfl ?_
  intro state index line emission next applied
  have emitted : (if filter.drops line then ⟨.dropped, []⟩ else ⟨.kept, line⟩) = emission :=
    congrArg Prod.fst applied
  subst emitted
  split <;> exact Nat.le_refl 0

namespace Replacement

variable {r : Replacement}

/-- A raise answers a throw that is pending, and only one throw is. -/
theorem OffsetStep.answers {index : Nat} {line : Bytes} {state next : State} {emission : Emission}
    (step : r.OffsetStep index line state emission next) :
    (ofLines [emission.outcome]).terminators + next.pendingLine.isSome.toNat ≤
      (ofLines [emission.outcome]).triggers + state.pendingLine.isSome.toNat := by
  cases step <;> simp [ofLines, *]

/-- A raise answers a throw that is pending or one on its own line. -/
theorem StatementStep.answers {index : Nat} {line : Bytes} {state next : State} {emission : Emission}
    (step : r.StatementStep index line state emission next) :
    (ofLines [emission.outcome]).terminators + next.pendingLine.isSome.toNat ≤
      (ofLines [emission.outcome]).triggers + state.pendingLine.isSome.toNat := by
  cases step <;> simp [ofLines, *]

theorem rule_answers (r : Replacement) : r.rule.Answers := by
  refine Rule.answers_of_step (fun state => state.pendingLine.isSome.toNat) rfl ?_
  intro state index line emission next applied
  cases mode : r.terminator with
  | lineOffset => exact (offsetStep_of_apply mode applied).answers
  | statementEnd => exact (statementStep_of_apply mode applied).answers

end Replacement

namespace Assembly

variable {State : Type} {rule : Rule State} {read : Path → Except IoError Bytes}

/-- What is logged for a file with these counts. -/
def fileLog (source : Path) (counts : Report) : List Event :=
  .processedSource source counts.linesRead counts.linesDropped counts.triggers ::
    if counts.triggers ≠ counts.terminators then [.raiseMissing source] else []

theorem events_sourceSteps {before counts : Report} (answered : before.Answered) (added : counts.Answered)
    (emissions : List Emission) (source : Path) :
    (sourceSteps emissions source before (before + counts)).flatMap Step.events = fileLog source counts := by
  have quiet : (emissions.map fun emission => Step.write emission.text).flatMap Step.events = [] := by
    rw [List.flatMap_map]
    exact List.flatMap_eq_nil_iff.mpr fun _ _ => rfl
  have missing : before.unterminated < (before + counts).unterminated ↔ counts.triggers ≠ counts.terminators := by
    rw [Report.unterminated_add answered added, ← added.unterminated_pos_iff]
    omega
  rw [sourceSteps, List.flatMap_append, List.flatMap_append, quiet, fileLog, Report.linesRead_add,
    Report.linesDropped_add, Report.triggers_add, Nat.add_sub_cancel_left, Nat.add_sub_cancel_left,
    Nat.add_sub_cancel_left]
  by_cases warns : counts.triggers ≠ counts.terminators
  · rw [if_pos warns, if_pos (missing.mpr warns)]
    rfl
  · rw [if_neg warns, if_neg (mt missing.mp warns)]
    rfl

/-- The log tells of each file by its own counts. -/
theorem events_fileSteps (answers : rule.Answers) {before : Report} (answered : before.Answered)
    (files : List (Path × Bytes)) :
    (fileSteps rule before files).flatMap Step.events =
      files.flatMap fun file => fileLog file.1 (rule.counts file.2) := by
  induction files generalizing before with
  | nil => rfl
  | cons file files ih =>
    have counts := answers.counts file.2
    rw [fileSteps, List.flatMap_append, events_sourceSteps answered counts, ih (answered.add counts),
      List.flatMap_cons]

/-- Within a file, the counts of the files before it are added to those of its own lines. -/
theorem answered_running (answers : rule.Answers) (earlier : List Bytes) (content : Bytes) (k : Nat) :
    (((rule.outcomes content).take k).foldl Report.record
      ((earlier.map rule.outcomes).foldl Report.recordFile {})).Answered := by
  have files := Report.answered_sum (answers.forall_counts earlier)
  rw [Report.foldl_record, Report.foldl_recordFile, List.map_map]
  exact (Report.answered_zero.add files).add (answers.take content k)

theorem unterminated_sum_counts (answers : rule.Answers) (contents : List Bytes) :
    (contents.map rule.counts).sum.unterminated =
      (contents.map fun content => (rule.counts content).triggers - (rule.counts content).terminators).sum := by
  rw [Report.unterminated_sum (answers.forall_counts contents), List.map_map]
  rfl

theorem assemble_events (answers : rule.Answers) (artifact : Path) {sources : List Path}
    {contents : List Bytes} (found : sources.map read = contents.map .ok) :
    (assemble rule (fileSource read) sources artifact).events =
      (sources.zip contents).flatMap fun file => fileLog file.1 (rule.counts file.2) := by
  rw [assemble_of_contents rule artifact found]
  exact events_fileSteps answers Report.answered_zero _

end Assembly

namespace Rules

/-- What the rule for the artifact of a role remembers. -/
abbrev StateFor : Role → Type
  | .header => Unit
  | .implementation => Replacement.State

def ruleFor (rules : Rules) : (role : Role) → Rule (StateFor role)
  | .header => rules.header.rule
  | .implementation => rules.implementation.rule

theorem assemble_eq (rules : Rules) (role : Role) (read : Path → Except IoError Source) (sources : List Path)
    (artifact : Path) (room : Option Nat) :
    rules.assemble role read sources artifact room =
      Amalgam.assemble (rules.ruleFor role) read sources artifact room := by
  cases role <;> rfl

theorem ruleFor_answers (rules : Rules) (role : Role) : (rules.ruleFor role).Answers := by
  cases role with
  | header => exact rules.header.rule_answers
  | implementation => exact rules.implementation.rule_answers

open Assembly in
/-- No raise is counted before its throw, not within a file and not in total, so what is missing in total is
what is missing in the files. The log tells of each file in order, and warns exactly of those in which a
raise is missing. -/
theorem warnings_exact (rules : Rules) (role : Role) {read : Path → Except IoError Bytes} (artifact : Path)
    {sources : List Path} {contents : List Bytes} (found : sources.map read = contents.map .ok) :
    let rule := rules.ruleFor role
    let transcript := rules.assemble role (fileSource read) sources artifact
    (∀ earlier content later k, contents = earlier ++ content :: later →
      let before := (earlier.map rule.outcomes).foldl Report.recordFile {}
      let lines := (rule.outcomes content).take k
      (ofLines lines).terminators ≤ (ofLines lines).triggers ∧
        (lines.foldl Report.record before).terminators ≤ (lines.foldl Report.record before).triggers) ∧
    (∃ report, transcript.result = .ok report ∧ report.unterminated =
      (contents.map fun content => (rule.counts content).triggers - (rule.counts content).terminators).sum) ∧
    transcript.events = (sources.zip contents).flatMap fun file =>
      let counts := rule.counts file.2
      .processedSource file.1 counts.linesRead counts.linesDropped counts.triggers ::
        if counts.triggers ≠ counts.terminators then [.raiseMissing file.1] else [] := by
  intro rule transcript
  have answers := rules.ruleFor_answers role
  have assembled : transcript = Amalgam.assemble rule (fileSource read) sources artifact :=
    rules.assemble_eq role (fileSource read) sources artifact none
  rw [assembled]
  refine ⟨?_, ⟨_, congrArg (·.result) (assemble_of_contents rule artifact found), ?_⟩, ?_⟩
  · intro earlier content _ k _
    exact ⟨answers.take content k, answered_running answers earlier content k⟩
  · exact unterminated_sum_counts answers contents
  · exact assemble_events answers artifact found

def unansweredSources : List Path :=
  [.ofString "A.cc", .ofString "B.cc"]

/-- The first throw is overtaken by the second one, and the file ends where its raise is due. The file
behind it has its own throw answered. -/
def unansweredContents : List Bytes :=
  [Bytes.ofString "throw cms::Exception(\"A\")\nthrow cms::Exception(\"B\")\n<< 1;\n",
    Bytes.ofString "throw cms::Exception(\"C\")\n<< 1\n<< 2;\n"]

def unanswered : FileSystem where
  entries := (unansweredSources.map (·.names)).zip (unansweredContents.map .file)

theorem warnings_exact_unanswered :
    unansweredSources.map unanswered.read = unansweredContents.map .ok ∧
      (Rules.assemble ⟨{}, Replacement.stock .lineOffset⟩ .implementation
          (Assembly.fileSource unanswered.read) unansweredSources (.ofString "Out.cc")).events =
        [.processedSource (.ofString "A.cc") 3 0 2, .raiseMissing (.ofString "A.cc"),
          .processedSource (.ofString "B.cc") 3 0 1] := by
  have found : unansweredSources.map unanswered.read = unansweredContents.map .ok := by decide
  obtain ⟨_, _, events⟩ :=
    warnings_exact ⟨{}, Replacement.stock .lineOffset⟩ .implementation (.ofString "Out.cc") found
  refine ⟨found, events.trans ?_⟩
  decide

end Rules

end Amalgam
