import Amalgam.Proofs.Assembly

namespace Amalgam

namespace Assembly

variable {State : Type} {rule : Rule State} {read : Path → Except IoError Bytes}

/-- Nothing behind a source that cannot be read is looked at. -/
theorem readable_append_error {source : Path} {cause : IoError} (failed : read source = .error cause)
    (first later : List Path) : readable read (first ++ source :: later) = readable read first := by
  induction first with
  | nil => simp only [List.nil_append, readable, failed]
  | cons earlier first ih =>
    rw [List.cons_append, readable, readable]
    cases read earlier with
    | ok content => exact congrArg ((earlier, content) :: ·) ih
    | error _ => rfl

theorem unreadable?_append_error {source : Path} {cause : IoError} (failed : read source = .error cause)
    (first later : List Path) :
    unreadable? read (first ++ source :: later) = (unreadable? read first).or (some (source, cause)) := by
  induction first with
  | nil => simp only [List.nil_append, unreadable?, failed, Option.none_or]
  | cons earlier first ih =>
    rw [List.cons_append, unreadable?, unreadable?]
    cases read earlier with
    | ok _ => exact ih
    | error _ => rfl

theorem fullText_append_error {source : Path} {cause : IoError} (failed : read source = .error cause)
    (first later : List Path) : fullText rule read (first ++ source :: later) = fullText rule read first := by
  rw [fullText, readable_append_error failed, fullText]

theorem steps_append_error {source : Path} {cause : IoError} (failed : read source = .error cause)
    (first later later' : List Path) :
    steps rule (fileSource read) (first ++ source :: later) =
      steps rule (fileSource read) (first ++ source :: later') := by
  simp only [steps_eq, innerSteps, lastStep, readable_append_error failed, unreadable?_append_error failed]

/-- Whether it is cut or not, what is written is what the room holds of the full text. -/
theorem assemble_written (artifact : Path) (n : Nat) (sources : List Path) :
    (assemble rule (fileSource read) sources artifact (some n)).written = (fullText rule read sources).take n := by
  rcases Nat.lt_or_ge n (fullText rule read sources).length with full | fits
  · exact (assemble_of_full artifact full).1
  · rw [assemble_of_hasRoom artifact (hasRoom_some.mpr fits), List.take_of_length_le fits]

end Assembly

open Assembly in
/-- The first failure ends an assembly and is the one that is told: a source that cannot be read, or else a
writer that has no room for what comes before that source. What has been written is a prefix of the text
for the sources up to there, and all of it unless the writer has failed. -/
theorem assemble_failure {State : Type} (rule : Rule State) (read : Path → Except IoError Bytes)
    (sources : List Path) (artifact : Path) (n : Nat) :
    let transcript := assemble rule (fileSource read) sources artifact (some n)
    let text := fullText rule read sources
    (text.length ≤ n → transcript.written = text ∧ transcript.result = verdict rule read sources) ∧
      (n < text.length → transcript.written = text.take n ∧
        transcript.result = .error (.writeArtifact artifact .storageFull)) ∧
      ∀ first source later cause, sources = first ++ source :: later → read source = .error cause →
        transcript.written <+: fullText rule read first ∧
        ∀ later', assemble rule (fileSource read) (first ++ source :: later') artifact (some n) = transcript := by
  refine ⟨?_, assemble_of_full artifact, ?_⟩
  · intro fits
    rw [assemble_of_hasRoom artifact (hasRoom_some.mpr fits)]
    exact ⟨rfl, rfl⟩
  · rintro first source later cause rfl failed
    refine ⟨?_, fun later' => ?_⟩
    · rw [assemble_written, fullText_append_error failed]
      exact List.take_prefix n _
    · rw [assemble, steps_append_error failed first later' later, assemble]

/-- A file, and a directory where a file is expected. -/
def brokenPackage : FileSystem where
  entries := [(["A.h".toList], .file (Bytes.ofString "int a;\n")), (["D.h".toList], .directory)]

/-- An assembly of the package, which lacks the last file, with room for so many bytes. -/
def assembleBroken (room : Nat) : Transcript :=
  assemble (Filter.rule {}) (Assembly.fileSource brokenPackage.read)
    [.ofString "A.h", .ofString "D.h", .ofString "C.h"] (.ofString "Out.h") (some room)

/-- With room for nine bytes the first file is written and the directory is told, which stands before the
file that is missing. With room for eight the separator is cut, and the directory is not looked at. -/
theorem assemble_failure_brokenPackage :
    (assembleBroken 9).written = Bytes.ofString "int a;\n\n\n" ∧
      (assembleBroken 9).result = .error (.readSource (.ofString "D.h") .isADirectory) ∧
      assemble (Filter.rule {}) (Assembly.fileSource brokenPackage.read) [.ofString "A.h", .ofString "D.h"]
        (.ofString "Out.h") (some 9) = assembleBroken 9 ∧
      (assembleBroken 8).written = Bytes.ofString "int a;\n\n" ∧
      (assembleBroken 8).result = .error (.writeArtifact (.ofString "Out.h") .storageFull) := by
  have sources : [Path.ofString "A.h", .ofString "D.h", .ofString "C.h"] =
      [.ofString "A.h"] ++ .ofString "D.h" :: [.ofString "C.h"] := rfl
  have failed : brokenPackage.read (.ofString "D.h") = .error .isADirectory := by decide
  obtain ⟨fits, _, behind⟩ := assemble_failure (Filter.rule {}) brokenPackage.read
    [.ofString "A.h", .ofString "D.h", .ofString "C.h"] (.ofString "Out.h") 9
  have whole := fits (by decide)
  have cut := (assemble_failure (Filter.rule {}) brokenPackage.read
    [.ofString "A.h", .ofString "D.h", .ofString "C.h"] (.ofString "Out.h") 8).2.1 (by decide)
  refine ⟨whole.1.trans ?_, whole.2.trans ?_, (behind _ _ _ _ sources failed).2 [], cut.1.trans ?_, cut.2⟩
  · decide
  · decide
  · decide

end Amalgam
