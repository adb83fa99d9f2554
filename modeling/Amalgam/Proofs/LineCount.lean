import Amalgam.Proofs.Split
import Amalgam.Proofs.Warning

namespace Amalgam

open Report (ofLines)

namespace Bytes

variable {line text : Bytes}

theorem count_newline_of_isWhole (whole : line.IsWhole) : line.count Ascii.newline = 1 := by
  obtain ⟨body, rfl⟩ := List.getLast?_eq_some_iff.mp whole.2
  have absent : Ascii.newline ∉ body := by simpa only [List.dropLast_concat] using whole.1
  rw [List.count_append, List.count_eq_zero.mpr absent, List.count_singleton_self]

theorem length_lines (closed : Closed text) : text.lines.length = text.count Ascii.newline := by
  have one : text.lines.map (List.count Ascii.newline) = text.lines.map fun _ => 1 :=
    List.map_congr_left fun line member => count_newline_of_isWhole (isWhole_of_mem_lines closed member)
  conv_rhs => rw [← flatten_lines text, List.count_flatten, one]
  simp

end Bytes

namespace Report

variable {first second : Bytes} {a b : Report}

/-- The text has a newline for each line that has been read and not dropped, and one for each raise. -/
def Accounts (report : Report) (text : Bytes) : Prop :=
  text.count Ascii.newline + report.linesDropped = report.linesRead + report.terminators

theorem accounts_zero : (0 : Report).Accounts [] := rfl

theorem Accounts.append (accounts : a.Accounts first) (accounts' : b.Accounts second) :
    (a + b).Accounts (first ++ second) := by
  simp only [Accounts] at accounts accounts'
  simp only [Accounts, List.count_append, linesDropped_add, linesRead_add, terminators_add]
  omega

theorem linesDropped_le (outcomes : List Outcome) : (ofFile outcomes).linesDropped ≤ (ofFile outcomes).linesRead :=
  List.count_le_length

end Report

section Accounting

variable {State : Type} {rule : Rule State}

/-- What the rule emits for a whole line is accounted for by its outcome. -/
def Rule.KeepsAccount (rule : Rule State) : Prop :=
  ∀ state index line emission next, line.IsWhole → rule.apply state index line = (emission, next) →
    (ofLines [emission.outcome]).Accounts emission.text

theorem Rule.KeepsAccount.output (keeps : rule.KeepsAccount) {seen : List Bytes} {emitted : List Emission}
    {state : State} (reach : rule.Reach seen emitted state) (whole : ∀ line ∈ seen, line.IsWhole) :
    (ofLines (emitted.map (·.outcome))).Accounts (rule.output seen) := by
  induction reach with
  | start => exact Report.accounts_zero
  | @next seen emitted state line emission after reach applied ih =>
    obtain ⟨earlier, latest⟩ := List.forall_mem_append.mp whole
    have step := keeps state seen.length line emission after (latest line List.mem_cons_self) applied
    rw [reach.output_concat applied, List.map_append, List.map_singleton, Report.ofLines_append]
    exact (ih earlier).append step

theorem Rule.KeepsAccount.contribution (keeps : rule.KeepsAccount) {content : Bytes} (closed : content.Closed) :
    (rule.counts content).Accounts (rule.contribution content) :=
  keeps.output (rule.reach_run content.lines) fun _ member => Bytes.isWhole_of_mem_lines closed member

open Assembly in
/-- Behind each file there is a separator, whose newlines are not counted among its lines. -/
theorem Rule.KeepsAccount.contributions (keeps : rule.KeepsAccount) {contents : List Bytes}
    (closed : ∀ content ∈ contents, content.Closed) :
    (contents.flatMap fun content => rule.contribution content ++ separator).count Ascii.newline +
        (contents.map rule.counts).sum.linesDropped =
      (contents.map rule.counts).sum.linesRead + (contents.map rule.counts).sum.terminators + 2 * contents.length := by
  induction contents with
  | nil => rfl
  | cons content contents ih =>
    obtain ⟨first, later⟩ := List.forall_mem_cons.mp closed
    have here : (rule.contribution content).count Ascii.newline + (rule.counts content).linesDropped =
        (rule.counts content).linesRead + (rule.counts content).terminators := keeps.contribution first
    have behind := ih later
    have parting : separator.count Ascii.newline = 2 := rfl
    simp only [List.flatMap_cons, List.count_append, parting, List.map_cons, List.sum_cons, Report.linesDropped_add,
      Report.linesRead_add, Report.terminators_add, List.length_cons]
    omega

theorem Rule.linesRead_sum_counts (rule : Rule State) {contents : List Bytes}
    (closed : ∀ content ∈ contents, content.Closed) :
    (contents.map rule.counts).sum.linesRead = (contents.map (List.count Ascii.newline)).sum := by
  induction contents with
  | nil => rfl
  | cons content contents ih =>
    obtain ⟨first, later⟩ := List.forall_mem_cons.mp closed
    have lines : (rule.counts content).linesRead = content.lines.length := by
      have length := (rule.reach_run content.lines).length_eq
      rw [← length]
      exact List.length_map ..
    rw [List.map_cons, List.sum_cons, Report.linesRead_add, lines, Bytes.length_lines first, ih later, List.map_cons,
      List.sum_cons]

theorem Rule.linesDropped_sum_counts_le (rule : Rule State) (contents : List Bytes) :
    (contents.map rule.counts).sum.linesDropped ≤ (contents.map rule.counts).sum.linesRead := by
  induction contents with
  | nil => exact Nat.le_refl 0
  | cons content contents ih =>
    rw [List.map_cons, List.sum_cons]
    exact Nat.add_le_add (Report.linesDropped_le (rule.outcomes content)) ih

end Accounting

theorem Filter.rule_keepsAccount (filter : Filter) : filter.rule.KeepsAccount := by
  intro state index line emission next whole applied
  have emitted : (if filter.drops line then ⟨.dropped, []⟩ else ⟨.kept, line⟩) = emission :=
    congrArg Prod.fst applied
  subst emitted
  split
  · exact rfl
  · exact congrArg (· + 0) (Bytes.count_newline_of_isWhole whole)

namespace Replacement

variable {r : Replacement} {index : Nat} {line : Bytes} {state next : State} {emission : Emission}

/-- The diagnostic and the raise have no line breaks of their own. -/
structure InsertsSingleLines (r : Replacement) : Prop where
  diagnostic : Ascii.newline ∉ r.diagnostic
  raise : Ascii.newline ∉ r.raise

theorem InsertsSingleLines.count_raiseLine (single : r.InsertsSingleLines) (braced : Bool) :
    (r.raiseLine braced).count Ascii.newline = 1 := by
  have close : (if braced then closeBlock else []).count Ascii.newline = 0 := by
    cases braced <;> rfl
  simp only [raiseLine, List.count_append, List.count_eq_zero.mpr single.raise, close, List.count_singleton_self]

theorem InsertsSingleLines.count_raised (single : r.InsertsSingleLines) (whole : line.IsWhole) (braced : Bool) :
    (line ++ Line.gap line ++ r.raiseLine braced).count Ascii.newline = 2 := by
  -- The line brings its newline along, so there is no gap to be filled before the raise.
  rw [Line.gap, if_pos whole.2, List.append_nil, List.count_append, single.count_raiseLine,
    Bytes.count_newline_of_isWhole whole]

theorem InsertsSingleLines.count_diagnosticLine (single : r.InsertsSingleLines) (whole : line.IsWhole) :
    (r.opening line ++ r.diagnostic ++ r.tail line ++ [Ascii.newline]).count Ascii.newline = 1 := by
  have before := newline_notMem_opening (r := r) whole.1
  have behind := newline_notMem_tail (r := r) whole.1
  simp only [List.count_append, List.count_eq_zero.mpr before, List.count_eq_zero.mpr single.diagnostic,
    List.count_eq_zero.mpr behind, List.count_singleton_self]

theorem OffsetStep.accounts (step : r.OffsetStep index line state emission next) (single : r.InsertsSingleLines)
    (whole : line.IsWhole) : (ofLines [emission.outcome]).Accounts emission.text := by
  have one := Bytes.count_newline_of_isWhole whole
  cases step with
  | dropped _ => exact rfl
  | triggered _ =>
    simp [Report.Accounts, ofLines, List.count_eq_zero.mpr single.diagnostic]
  | idle _ _ => exact congrArg (· + 0) one
  | waiting _ _ _ => exact congrArg (· + 0) one
  | raised _ _ _ => exact congrArg (· + 0) (single.count_raised whole false)

theorem StatementStep.accounts (step : r.StatementStep index line state emission next)
    (single : r.InsertsSingleLines) (whole : line.IsWhole) :
    (ofLines [emission.outcome]).Accounts emission.text := by
  have one := Bytes.count_newline_of_isWhole whole
  have diagnostic := single.count_diagnosticLine whole
  cases step with
  | dropped _ => exact rfl
  | triggered _ _ => exact congrArg (· + 0) diagnostic
  | closed _ _ =>
    have raise := single.count_raiseLine (r.guarded line)
    rw [Report.Accounts, List.count_append, diagnostic, raise]
    rfl
  | idle _ _ => exact congrArg (· + 0) one
  | waiting _ _ _ => exact congrArg (· + 0) one
  | raised _ _ _ => exact congrArg (· + 0) (single.count_raised whole state.braced)

theorem rule_keepsAccount (single : r.InsertsSingleLines) : r.rule.KeepsAccount := by
  intro state index line emission next whole applied
  cases mode : r.terminator with
  | lineOffset => exact (offsetStep_of_apply mode applied).accounts single whole
  | statementEnd => exact (statementStep_of_apply mode applied).accounts single whole

end Replacement

namespace Rules

theorem ruleFor_keepsAccount {rules : Rules} {role : Role}
    (single : role = .implementation → rules.implementation.InsertsSingleLines) :
    (rules.ruleFor role).KeepsAccount := by
  cases role with
  | header => exact rules.header.rule_keepsAccount
  | implementation => exact Replacement.rule_keepsAccount (single rfl)

open Assembly in
/-- An assembly of files that are empty or end in a newline reads as many lines as these have newlines, and writes
its preamble, a line for each line that is not dropped, a line for each raise, and two more behind each file. -/
theorem newlines_accounted (rules : Rules) (role : Role) {read : Path → Except IoError Bytes} (artifact : Path)
    {sources : List Path} {contents : List Bytes} (found : sources.map read = contents.map .ok)
    (closed : ∀ content ∈ contents, content.Closed)
    (single : role = .implementation → rules.implementation.InsertsSingleLines) :
    let transcript := rules.assemble role (fileSource read) sources artifact
    ∃ report, transcript.result = .ok report ∧
      report.linesRead = (contents.map (List.count Ascii.newline)).sum ∧
      report.linesDropped ≤ report.linesRead ∧
      transcript.written.count Ascii.newline =
        (rules.ruleFor role).preamble.count Ascii.newline + (report.linesRead - report.linesDropped) +
          report.terminators + 2 * report.files := by
  intro transcript
  have assembled : transcript = _ :=
    (rules.assemble_eq role (fileSource read) sources artifact none).trans
      (assemble_of_contents (rules.ruleFor role) artifact found)
  rw [assembled]
  have files := (ruleFor_keepsAccount single).contributions closed
  have dropped := (rules.ruleFor role).linesDropped_sum_counts_le contents
  refine ⟨_, rfl, (rules.ruleFor role).linesRead_sum_counts closed, dropped, ?_⟩
  rw [List.count_append, (rules.ruleFor role).files_sum_counts]
  omega

def accountedSources : List Path :=
  [.ofString "A.cc", .ofString "B.cc"]

/-- A dropped include, a throw in a guard and the line that ends it, and then a file without any line. -/
def accountedContents : List Bytes :=
  [Bytes.ofString "#include \"FWCore/A.h\"\nif (a) throw cms::Exception(\"A\")\n<< 1;\n", []]

def accounted : FileSystem where
  entries := (accountedSources.map (·.names)).zip (accountedContents.map .file)

/-- Three lines of the preamble, two that are not dropped, one raise and two separators. -/
theorem newlines_accounted_guardedThrow :
    accountedSources.map accounted.read = accountedContents.map .ok ∧
      (∀ content ∈ accountedContents, content.Closed) ∧
      (Replacement.stock .statementEnd).InsertsSingleLines ∧
      ((Rules.assemble ⟨{}, Replacement.stock .statementEnd⟩ .implementation
          (Assembly.fileSource accounted.read) accountedSources (.ofString "Out.cc")).written.count
        Ascii.newline = 3 + 2 + 1 + 4) := by
  have found : accountedSources.map accounted.read = accountedContents.map .ok := by decide
  have closed : ∀ content ∈ accountedContents, content.Closed := by
    unfold Bytes.Closed
    decide
  have single : (Replacement.stock .statementEnd).InsertsSingleLines := ⟨by decide, by decide⟩
  obtain ⟨report, result, _, _, written⟩ :=
    newlines_accounted ⟨{}, Replacement.stock .statementEnd⟩ .implementation (.ofString "Out.cc") found closed
      fun _ => single
  have counts : (Rules.assemble ⟨{}, Replacement.stock .statementEnd⟩ .implementation
      (Assembly.fileSource accounted.read) accountedSources (.ofString "Out.cc")).result =
        .ok { files := 2, linesRead := 3, linesDropped := 1, triggers := 1, terminators := 1 } := by decide
  cases result.symm.trans counts
  exact ⟨found, closed, single, written.trans (by decide)⟩

end Rules

end Amalgam
