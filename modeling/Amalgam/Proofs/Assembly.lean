import Amalgam.Proofs.Counts
import Amalgam.Proofs.Perform
import Amalgam.Proofs.Trigger

namespace Amalgam

namespace Assembly

variable {State : Type} {rule : Rule State} {read : Path → Except IoError Bytes}

/-- Sources that are files, none of them the artifact. -/
def fileSource (read : Path → Except IoError Bytes) (path : Path) : Except IoError Source :=
  (read path).map .file

/-- The files before the first source that cannot be read. -/
def readable (read : Path → Except IoError Bytes) : List Path → List (Path × Bytes)
  | [] => []
  | source :: sources =>
    match read source with
    | .ok content => (source, content) :: readable read sources
    | .error _ => []

/-- The first source that cannot be read, and why. -/
def unreadable? (read : Path → Except IoError Bytes) : List Path → Option (Path × IoError)
  | [] => none
  | source :: sources =>
    match read source with
    | .ok _ => unreadable? read sources
    | .error cause => some (source, cause)

/-- The counts for the files. -/
def total (rule : Rule State) (files : List (Path × Bytes)) : Report :=
  (files.map fun file => rule.counts file.2).sum

/-- What is written if there is room for it: the preamble, and each file before the first source that
cannot be read, with the separator behind it. -/
def fullText (rule : Rule State) (read : Path → Except IoError Bytes) (sources : List Path) : Bytes :=
  rule.preamble ++ (readable read sources).flatMap fun file => rule.contribution file.2 ++ separator

/-- What comes of the assembly if there is room for what it writes. -/
def verdict (rule : Rule State) (read : Path → Except IoError Bytes) (sources : List Path) :
    Except Error Report :=
  match unreadable? read sources with
  | some (source, cause) => .error (.readSource source cause)
  | none => .ok (total rule (readable read sources))

/-- The steps for files that can be read, given the counts before them. -/
def fileSteps (rule : Rule State) (before : Report) : List (Path × Bytes) → List Step
  | [] => []
  | (source, content) :: files =>
    sourceSteps (rule.emissions content) source before (before + rule.counts content) ++
      fileSteps rule (before + rule.counts content) files

/-- The step behind those for the files, given all counts. -/
def lastStep (read : Path → Except IoError Bytes) (sources : List Path) (report : Report) : Step :=
  match unreadable? read sources with
  | some (source, cause) => .unreadable source cause
  | none => .finish report

theorem goesOn_sourceSteps {emissions : List Emission} {source : Path} {before after : Report} :
    ∀ step ∈ sourceSteps emissions source before after, step.GoesOn := by
  intro step member
  unfold sourceSteps at member
  rcases List.mem_append.mp member with written | warning
  · rcases List.mem_append.mp written with line | closing
    · obtain ⟨emission, _, rfl⟩ := List.mem_map.mp line
      trivial
    · rcases List.mem_pair.mp closing with rfl | rfl <;> trivial
  · split at warning
    · rw [List.mem_singleton.mp warning]
      trivial
    · exact absurd warning List.not_mem_nil

theorem text_sourceSteps (content : Bytes) (source : Path) (before after : Report) :
    (sourceSteps (rule.emissions content) source before after).flatMap Step.text =
      rule.contribution content ++ separator := by
  have quiet : (if before.unterminated < after.unterminated then [Step.log (.raiseMissing source)] else []).flatMap
      Step.text = [] := by
    split <;> rfl
  rw [sourceSteps, List.flatMap_append, quiet, List.flatMap_append, List.flatMap_map, List.append_nil,
    Rule.contribution, ← List.flatMap_def]
  rfl

theorem stepsFrom_cons_error (rule : Rule State) {source : Path} {cause : IoError}
    (failed : read source = .error cause) (written : List Bytes) (before : Report) (sources : List Path) :
    stepsFrom rule (fileSource read) written before (source :: sources) = [.unreadable source cause] := by
  simp only [stepsFrom, fileSource, failed, Except.map]

/-- Behind a file, only the counts are different. What has been written matters to no other file. -/
theorem stepsFrom_cons_ok (rule : Rule State) {source : Path} {content : Bytes}
    (found : read source = .ok content) (written : List Bytes) (before : Report) (sources : List Path) :
    ∃ written', stepsFrom rule (fileSource read) written before (source :: sources) =
      sourceSteps (rule.emissions content) source before (before + rule.counts content) ++
        stepsFrom rule (fileSource read) written' (before + rule.counts content) sources := by
  simp only [stepsFrom, fileSource, found, Except.map, reading, if_true, Report.recordFile_eq]
  exact ⟨_, rfl⟩

/-- The steps for the sources are those for the files that can be read, and what comes behind these. -/
theorem stepsFrom_eq (rule : Rule State) (read : Path → Except IoError Bytes) (written : List Bytes)
    (before : Report) (sources : List Path) :
    stepsFrom rule (fileSource read) written before sources =
      fileSteps rule before (readable read sources) ++
        [lastStep read sources (before + total rule (readable read sources))] := by
  induction sources generalizing written before with
  | nil => rfl
  | cons source sources ih =>
    cases found : read source with
    | error cause =>
      simp only [stepsFrom_cons_error rule found, readable, lastStep, unreadable?, found, fileSteps, List.nil_append]
    | ok content =>
      obtain ⟨written', same⟩ := stepsFrom_cons_ok rule found written before sources
      simp only [same, ih, readable, lastStep, unreadable?, found, fileSteps, total, List.map_cons, List.sum_cons,
        List.append_assoc, add_assoc]

theorem goesOn_fileSteps {before : Report} {files : List (Path × Bytes)} :
    ∀ step ∈ fileSteps rule before files, step.GoesOn := by
  induction files generalizing before with
  | nil => exact fun step member => absurd member List.not_mem_nil
  | cons file files ih =>
    intro step member
    rcases List.mem_append.mp member with first | later
    · exact goesOn_sourceSteps step first
    · exact ih step later

theorem text_fileSteps (before : Report) (files : List (Path × Bytes)) :
    (fileSteps rule before files).flatMap Step.text =
      files.flatMap fun file => rule.contribution file.2 ++ separator := by
  induction files generalizing before with
  | nil => rfl
  | cons file files ih => rw [fileSteps, List.flatMap_append, text_sourceSteps, ih, List.flatMap_cons]

/-- The steps of an assembly up to its end. -/
def innerSteps (rule : Rule State) (read : Path → Except IoError Bytes) (sources : List Path) : List Step :=
  .write rule.preamble :: fileSteps rule 0 (readable read sources)

theorem goesOn_innerSteps {sources : List Path} : ∀ step ∈ innerSteps rule read sources, step.GoesOn :=
  List.forall_mem_cons.mpr ⟨trivial, goesOn_fileSteps⟩

theorem text_innerSteps (sources : List Path) :
    (innerSteps rule read sources).flatMap Step.text = fullText rule read sources := by
  rw [innerSteps, List.flatMap_cons, text_fileSteps]
  rfl

theorem steps_eq (sources : List Path) :
    steps rule (fileSource read) sources = innerSteps rule read sources ++
      [lastStep read sources (total rule (readable read sources))] := by
  have files := stepsFrom_eq rule read [rule.preamble] 0 sources
  rw [zero_add] at files
  exact congrArg (Step.write rule.preamble :: ·) files

/-- Of a rule, an assembly of files shows the preamble and the emissions. -/
theorem assemble_of_emissions_eq {State' : Type} {rule' : Rule State'} {sources : List Path}
    (preamble : rule.preamble = rule'.preamble)
    (same : ∀ source ∈ sources, ∀ content, read source = .ok content →
      rule.emissions content = rule'.emissions content) (artifact : Path) (room : Option Nat) :
    assemble rule (fileSource read) sources artifact room = assemble rule' (fileSource read) sources artifact room := by
  have onward : ∀ written before, stepsFrom rule (fileSource read) written before sources =
      stepsFrom rule' (fileSource read) written before sources := by
    induction sources with
    | nil => exact fun _ _ => rfl
    | cons source sources ih =>
      rw [List.forall_mem_cons] at same
      intro written before
      cases found : read source with
      | error cause => rw [stepsFrom_cons_error rule found, stepsFrom_cons_error rule' found]
      | ok content =>
        simp only [stepsFrom, fileSource, found, Except.map, reading, same.1 content found, if_true]
        rw [ih same.2]
  rw [assemble, assemble, steps, steps, preamble, onward]

theorem perform_lastStep {artifact : Path} {room : Option Nat} (sources : List Path) :
    perform artifact room [lastStep read sources (total rule (readable read sources))] =
      ⟨[], [], verdict rule read sources⟩ := by
  unfold lastStep verdict
  cases unreadable? read sources <;> cases room <;> rfl

theorem assemble_of_hasRoom (artifact : Path) {room : Option Nat} {sources : List Path}
    (fits : HasRoom room (fullText rule read sources)) :
    assemble rule (fileSource read) sources artifact room =
      ⟨fullText rule read sources, (innerSteps rule read sources).flatMap Step.events,
        verdict rule read sources⟩ := by
  rw [← text_innerSteps] at fits
  rw [assemble, steps_eq, perform_append goesOn_innerSteps fits, perform_lastStep, Transcript.behind,
    text_innerSteps, List.append_nil, List.append_nil]

theorem assemble_of_full (artifact : Path) {n : Nat} {sources : List Path}
    (full : n < (fullText rule read sources).length) :
    (assemble rule (fileSource read) sources artifact (some n)).written = (fullText rule read sources).take n ∧
      (assemble rule (fileSource read) sources artifact (some n)).result =
        .error (.writeArtifact artifact .storageFull) := by
  rw [← text_innerSteps] at full ⊢
  rw [assemble, steps_eq]
  exact perform_append_full goesOn_innerSteps full

theorem readable_of_contents {sources : List Path} {contents : List Bytes}
    (found : sources.map read = contents.map .ok) :
    readable read sources = sources.zip contents ∧ unreadable? read sources = none := by
  induction sources generalizing contents with
  | nil => exact ⟨rfl, rfl⟩
  | cons source sources ih =>
    cases contents with
    | nil => cases found
    | cons content contents =>
      obtain ⟨first, later⟩ := List.cons.inj found
      obtain ⟨files, none⟩ := ih later
      simp only [readable, unreadable?, first, files, none, List.zip_cons_cons, and_self]

theorem length_of_contents {sources : List Path} {contents : List Bytes}
    (found : sources.map read = contents.map .ok) : sources.length = contents.length := by
  have length := congrArg List.length found
  rwa [List.length_map, List.length_map] at length

/-- What an assembly of files leaves behind, if its writer never fails. -/
theorem assemble_of_contents (rule : Rule State) (artifact : Path) {sources : List Path}
    {contents : List Bytes} (found : sources.map read = contents.map .ok) :
    assemble rule (fileSource read) sources artifact =
      ⟨rule.preamble ++ contents.flatMap (fun content => rule.contribution content ++ separator),
        (fileSteps rule 0 (sources.zip contents)).flatMap Step.events, .ok (contents.map rule.counts).sum⟩ := by
  obtain ⟨files, none⟩ := readable_of_contents found
  have second : (sources.zip contents).map Prod.snd = contents :=
    List.map_snd_zip (Nat.le_of_eq (length_of_contents found).symm)
  have text : (sources.zip contents).flatMap (fun file => rule.contribution file.2 ++ separator) =
      contents.flatMap (fun content => rule.contribution content ++ separator) := by
    rw [← second, List.flatMap_map, second]
  have counts : total rule (sources.zip contents) = (contents.map rule.counts).sum := by
    rw [← second, List.map_map, second]
    rfl
  rw [assemble_of_hasRoom artifact (hasRoom_none _), fullText, innerSteps, verdict, files, none, text, counts]
  rfl

theorem contents_perm {sources sources' : List Path} {contents : List Bytes}
    (found : sources.map read = contents.map .ok) (perm : sources'.Perm sources) :
    ∃ contents' : List Bytes, contents'.Perm contents ∧ sources'.map read = contents'.map .ok := by
  have results : (sources'.map read).Perm (contents.map .ok) := found ▸ perm.map read
  have paired : List.Forall₂ (fun (result : Except IoError Bytes) content => result = .ok content)
      (contents.map .ok) contents :=
    List.forall₂_map_left_iff.mpr (List.forall₂_same.mpr fun _ _ => rfl)
  obtain ⟨contents', paired', permuted⟩ := List.perm_comp_forall₂ results paired
  refine ⟨contents', permuted, ?_⟩
  rwa [← List.forall₂_eq_eq_eq, List.forall₂_map_right_iff]

end Assembly

open Assembly in
/-- An assembly of files is the preamble and then each file by itself, in order, whatever stands around
it. Its counts are the sum of theirs. -/
theorem assemble_compositional {State : Type} (rule : Rule State) {read : Path → Except IoError Bytes}
    (artifact : Path) {sources : List Path} {contents : List Bytes}
    (found : sources.map read = contents.map .ok) :
    let transcript := assemble rule (fileSource read) sources artifact
    transcript.written =
        rule.preamble ++ contents.flatMap (fun content => rule.contribution content ++ separator) ∧
      transcript.result = .ok (contents.map rule.counts).sum ∧
      (contents.map rule.counts).sum.files = sources.length ∧
      (∀ first second, sources = first ++ second →
        transcript.written = (assemble rule (fileSource read) first artifact).written ++
          (assemble rule (fileSource read) second artifact).written.drop rule.preamble.length) ∧
      ∀ sources', sources'.Perm sources → ∃ contents' : List Bytes, contents'.Perm contents ∧
        sources'.map read = contents'.map .ok ∧
        (assemble rule (fileSource read) sources' artifact).written =
          rule.preamble ++ contents'.flatMap (fun content => rule.contribution content ++ separator) ∧
        (assemble rule (fileSource read) sources' artifact).result = transcript.result := by
  have whole := assemble_of_contents rule artifact found
  refine ⟨by rw [whole], by rw [whole], ?_, ?_, ?_⟩
  · rw [rule.files_sum_counts, length_of_contents found]
  · rintro first second rfl
    rw [List.map_append, eq_comm, List.map_eq_append_iff] at found
    obtain ⟨before, behind, rfl, foundFirst, foundSecond⟩ := found
    rw [whole, assemble_of_contents rule artifact foundFirst.symm,
      assemble_of_contents rule artifact foundSecond.symm, List.drop_left, List.flatMap_append, List.append_assoc]
  · intro sources' perm
    obtain ⟨contents', permuted, found'⟩ := contents_perm found perm
    have other := assemble_of_contents rule artifact found'
    refine ⟨contents', permuted, found', by rw [other], ?_⟩
    rw [whole, other]
    exact congrArg Except.ok (permuted.map rule.counts).sum_eq

def openEndedSources : List Path :=
  [.ofString "A.cc", .ofString "B.cc"]

/-- The first file ends within a statement and a comment, and the second one could end both. -/
def openEndedContents : List Bytes :=
  [Bytes.ofString "throw cms::Exception(\"A\") /* open", Bytes.ofString "*/ << 1;\nok();\n"]

def openEnded : FileSystem where
  entries := (openEndedSources.map (·.names)).zip (openEndedContents.map .file)

/-- The second file is kept as it is. -/
theorem assemble_compositional_openEnded :
    openEndedSources.map openEnded.read = openEndedContents.map .ok ∧
      (assemble (Replacement.stock .statementEnd).rule (Assembly.fileSource openEnded.read) openEndedSources
          (.ofString "Out.cc")).written =
        (Replacement.stock .statementEnd).preamble ++ Bytes.ofString
          "std::cerr << \"ERROR in BTagCalibration: \" /* open\n\n\n*/ << 1;\nok();\n\n\n" ∧
      (assemble (Replacement.stock .statementEnd).rule (Assembly.fileSource openEnded.read) openEndedSources
          (.ofString "Out.cc")).result =
        .ok { files := 2, linesRead := 3, triggers := 1 } := by
  have found : openEndedSources.map openEnded.read = openEndedContents.map .ok := by decide
  obtain ⟨written, result, _⟩ :=
    assemble_compositional (Replacement.stock .statementEnd).rule (.ofString "Out.cc") found
  refine ⟨found, written.trans ?_, result.trans ?_⟩
  · decide
  · decide

end Amalgam
