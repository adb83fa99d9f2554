import Amalgam.Rule

namespace Amalgam

structure Report where
  files : Nat := 0
  linesRead : Nat := 0
  linesDropped : Nat := 0
  triggers : Nat := 0
  terminators : Nat := 0
  deriving Repr, DecidableEq

namespace Report

/-- Counts one more line. -/
def record (report : Report) (outcome : Outcome) : Report :=
  let report := { report with linesRead := report.linesRead + 1 }
  match outcome with
  | .kept => report
  | .dropped => { report with linesDropped := report.linesDropped + 1 }
  | .triggered => { report with triggers := report.triggers + 1 }
  | .terminated => { report with terminators := report.terminators + 1 }
  | .triggeredAndTerminated =>
    { report with triggers := report.triggers + 1, terminators := report.terminators + 1 }

/-- Counts a file and the lines of it. -/
def recordFile (report : Report) (outcomes : List Outcome) : Report :=
  let report := outcomes.foldl record report
  { report with files := report.files + 1 }

/-- The throws that never received their raise statement. -/
def unterminated (report : Report) : Nat :=
  report.triggers - report.terminators

instance : Add Report where
  add a b :=
    { files := a.files + b.files
      linesRead := a.linesRead + b.linesRead
      linesDropped := a.linesDropped + b.linesDropped
      triggers := a.triggers + b.triggers
      terminators := a.terminators + b.terminators }

end Report

end Amalgam
