import Mathlib.Data.List.Infix
import Amalgam.Proofs.Run
import Amalgam.Proofs.Search
import Amalgam.Proofs.Step

namespace Amalgam

/-- The first byte of what opens a block. -/
abbrev Ascii.openBrace : UInt8 := 123

namespace Replacement

variable {r : Replacement}

/-- The throw pattern stands in nothing that is put into a line, and not across its ends either: each end
is a byte that the pattern lacks. -/
structure Seamless (r : Replacement) : Prop where
  newline : Ascii.newline ∉ r.throwPattern
  openBrace : Ascii.openBrace ∉ r.throwPattern
  diagnostic : ∃ front last, r.diagnostic = front ++ [last] ∧ last ∉ r.throwPattern ∧
    Bytes.contains (Ascii.space :: front) r.throwPattern = false
  raise : ∀ braced, (r.raiseLine braced).contains r.throwPattern = false

theorem Seamless.throwPattern_ne_nil (seamless : r.Seamless) : r.throwPattern ≠ [] := by
  intro empty
  have absent := seamless.raise false
  rw [empty, Bytes.contains_eq_false_iff] at absent
  exact absent List.nil_infix

/-- The throw that is replaced is the first one of its line. -/
theorem contains_lead (line : Bytes) (needed : r.throwPattern ≠ []) :
    (r.lead line).contains r.throwPattern = false := by
  unfold lead
  split
  next start found =>
    have before := Bytes.contains_take_eq_false found needed
    rw [Bytes.contains_eq_false_iff] at before ⊢
    intro stands
    exact before (stands.trans ((Line.body_prefix line).take start).isInfix)
  next =>
    rw [Bytes.contains_eq_false_iff, List.infix_nil]
    exact needed

theorem contains_opening (seamless : r.Seamless) (line : Bytes) {front : Bytes}
    (absent : Bytes.contains (Ascii.space :: front) r.throwPattern = false) :
    Bytes.contains (r.opening line ++ front) r.throwPattern = false := by
  have block : openBlock = [Ascii.openBrace, Ascii.space] := by decide
  unfold opening
  split
  next =>
    rw [block, List.append_assoc, ← Bool.not_eq_true]
    intro stands
    rcases (Bytes.contains_seam seamless.openBrace).mp stands with inLead | inFront
    · exact Bool.noConfusion (inLead.symm.trans (contains_lead line seamless.throwPattern_ne_nil))
    · exact Bool.noConfusion (inFront.symm.trans absent)
  next =>
    rw [Bytes.contains_eq_false_iff] at absent ⊢
    exact fun stands => absent (List.infix_cons stands)

/-- The line that replaces a throw holds another one exactly if the tail does. -/
theorem contains_diagnosticLine (seamless : r.Seamless) (line behind : Bytes) :
    Bytes.contains (r.opening line ++ r.diagnostic ++ r.tail line ++ [Ascii.newline] ++ behind)
        r.throwPattern = true ↔
      (r.tail line).contains r.throwPattern = true ∨ behind.contains r.throwPattern = true := by
  obtain ⟨front, last, ends, lastAbsent, frontAbsent⟩ := seamless.diagnostic
  have parts : r.opening line ++ r.diagnostic ++ r.tail line ++ [Ascii.newline] ++ behind =
      (r.opening line ++ front) ++ last :: (r.tail line ++ Ascii.newline :: behind) := by
    simp only [ends, List.append_assoc, List.cons_append, List.nil_append]
  rw [parts, Bytes.contains_seam lastAbsent, Bytes.contains_seam seamless.newline,
    contains_opening seamless line frontAbsent]
  simp only [Bool.false_eq_true, false_or]

theorem contains_nil (seamless : r.Seamless) : Bytes.contains [] r.throwPattern = false := by
  rw [Bytes.contains_eq_false_iff, List.infix_nil]
  exact seamless.throwPattern_ne_nil

/-- A text that is emitted for a line holds a throw exactly if the line has one behind the first. -/
theorem StatementStep.contains_text (seamless : r.Seamless) {index : Nat} {line : Bytes}
    {state next : State} {emission : Emission} (step : r.StatementStep index line state emission next) :
    emission.text.contains r.throwPattern = true ↔
      r.IsTrigger line ∧ (r.tail line).contains r.throwPattern = true := by
  cases step with
  | dropped dropped => simp [contains_nil seamless, not_trigger_of_dropped dropped]
  | triggered trigger _ =>
    have seam := contains_diagnosticLine seamless line []
    rw [List.append_nil, contains_nil seamless] at seam
    simpa [trigger] using seam
  | closed trigger _ =>
    rw [contains_diagnosticLine seamless]
    simp [seamless.raise, trigger]
  | idle plain _ => simp [plain.2, plain.not_trigger]
  | waiting plain _ _ => simp [plain.2, plain.not_trigger]
  | raised plain _ _ =>
    obtain ⟨front, isFront, parts⟩ := Line.append_gap line
    have absent : Bytes.contains front r.throwPattern = false := by
      have plainLine := plain.2
      rw [Bytes.contains_eq_false_iff] at plainLine ⊢
      exact fun stands => plainLine (stands.trans isFront.isInfix)
    rw [parts, List.append_assoc, List.singleton_append, Bytes.contains_seam seamless.newline]
    simp [absent, seamless.raise, plain.not_trigger]

theorem stock_seamless : (stock .statementEnd).Seamless where
  newline := by decide
  openBrace := by decide
  diagnostic := ⟨Bytes.ofString "std::cerr << \"ERROR in BTagCalibration: ", Ascii.doubleQuote, by decide⟩
  raise := by decide

/-- A line is emitted with a throw exactly if it is a trigger with another throw behind the first, so no
throw survives exactly if no line has two. -/
theorem throwSurvives_iff (filter : Filter) (headerArtifact : String) (systemIncludes : List String)
    (offset : Nat) (lines : List Bytes) :
    let r : Replacement := { stock .statementEnd with filter, headerArtifact, systemIncludes, offset }
    (∀ j line emission, lines[j]? = some line → r.rule.emissionAt lines j = some emission →
      (emission.text.contains r.throwPattern = true ↔
        r.IsTrigger line ∧ (r.tail line).contains r.throwPattern = true)) ∧
    ((∀ emission ∈ (r.rule.run r.rule.initial 0 lines).1, emission.text.contains r.throwPattern = false) ↔
      ∀ line ∈ lines, r.IsTrigger line → (r.tail line).contains r.throwPattern = false) := by
  intro r
  have seamless : r.Seamless :=
    ⟨stock_seamless.newline, stock_seamless.openBrace, stock_seamless.diagnostic, stock_seamless.raise⟩
  have each : ∀ j line emission, lines[j]? = some line → r.rule.emissionAt lines j = some emission →
      (emission.text.contains r.throwPattern = true ↔
        r.IsTrigger line ∧ (r.tail line).contains r.throwPattern = true) := by
    intro j line emission atLine emits
    obtain ⟨_, _, emission', _, _, applied, emits'⟩ := r.rule.emissionAt_reach atLine
    obtain rfl := Option.some.inj (emits.symm.trans emits')
    exact (statementStep_of_apply rfl applied).contains_text seamless
  refine ⟨each, ?_, ?_⟩
  · intro clean line member trigger
    obtain ⟨j, atLine⟩ := List.mem_iff_getElem?.mp member
    obtain ⟨_, _, emission, _, _, _, emits⟩ := r.rule.emissionAt_reach atLine
    have absent := clean emission (List.mem_of_getElem? emits)
    rw [← Bool.not_eq_true, each j line emission atLine emits] at absent
    exact Bool.eq_false_iff.mpr fun holds => absent ⟨trigger, holds⟩
  · intro clean emission member
    obtain ⟨j, emits⟩ := List.mem_iff_getElem?.mp member
    obtain ⟨line, atLine⟩ := Rule.line_of_emissionAt emits
    rw [← Bool.not_eq_true, each j line emission atLine emits]
    rintro ⟨trigger, holds⟩
    exact Bool.noConfusion (holds.symm.trans (clean line (List.mem_of_getElem? atLine) trigger))

/-- The throw names itself in its argument list, which is left out. -/
def selfNamingThrow : List Bytes :=
  [Bytes.ofString "if (a) throw cms::Exception(\"not a throw cms::Exception\")\n", Bytes.ofString "    << b;\n"]

theorem throwSurvives_iff_selfNamingThrow :
    (∀ line ∈ selfNamingThrow, (stock .statementEnd).IsTrigger line →
        ((stock .statementEnd).tail line).contains (stock .statementEnd).throwPattern = false) ∧
      ∀ emission ∈ ((stock .statementEnd).rule.run {} 0 selfNamingThrow).1,
        emission.text.contains (stock .statementEnd).throwPattern = false := by
  have clean : ∀ line ∈ selfNamingThrow, (stock .statementEnd).IsTrigger line →
      ((stock .statementEnd).tail line).contains (stock .statementEnd).throwPattern = false := by
    decide
  exact ⟨clean, (throwSurvives_iff (stock .statementEnd).filter (stock .statementEnd).headerArtifact
    (stock .statementEnd).systemIncludes (stock .statementEnd).offset selfNamingThrow).2.mpr clean⟩

/-- Both branches throw. -/
def elseThrow : List Bytes :=
  [Bytes.ofString "if (a) throw cms::Exception(\"A\"); else throw cms::Exception(\"B\");\n"]

/-- The second throw of the line is kept as part of what follows the first. -/
theorem elseThrow_survives :
    Bytes.AreLines elseThrow ∧
      (stock .statementEnd).rule.emissionAt elseThrow 0 = some ⟨.triggeredAndTerminated, Bytes.ofString
        ("if (a) \x7b std::cerr << \"ERROR in BTagCalibration: \"; else throw cms::Exception(\"B\");\n" ++
          "throw std::exception(); \x7d\n")⟩ ∧
      ¬ ∀ emission ∈ ((stock .statementEnd).rule.run {} 0 elseThrow).1,
        emission.text.contains (stock .statementEnd).throwPattern = false := by
  decide

end Replacement

end Amalgam
