import Amalgam.Proofs.Nesting
import Amalgam.Proofs.StatementEnd

namespace Amalgam.Replacement

open Lexer (terminator? SemicolonAt HasFreeSemicolon Uncommented)

variable {r : Replacement} {line list rest : Bytes}

/-- What stands in the body of a line behind the throw pattern. -/
def behindThrow (r : Replacement) (line : Bytes) : Bytes :=
  match line.indexOf? r.throwPattern with
  | some start => (Line.ofBytes line).body.drop (start + r.throwPattern.length)
  | none => []

/-- An argument list follows the throw pattern, blanks apart, and the rest of the body follows the list. -/
def CallsWith (r : Replacement) (line list rest : Bytes) : Prop :=
  ∃ blanks, (∀ b ∈ blanks, Ascii.isBlank b = true) ∧ ArgumentList.IsList list ∧
    r.behindThrow line = blanks ++ (list ++ rest)

theorem tail_of_callsWith (calls : r.CallsWith line list rest) : r.tail line = rest := by
  obtain ⟨blanks, blank, isList, parts⟩ := calls
  unfold behindThrow at parts
  split at parts
  next start found =>
    have stops := ArgumentList.end?_eq_some_iff.mpr ⟨blanks, list, rest, parts, blank, isList, rfl⟩
    rw [tail, found]
    simp only [stops]
    rw [← List.drop_drop, parts, ← List.append_assoc, ← List.length_append, List.drop_left]
  next =>
    obtain ⟨inner, opens⟩ := isList.cons_open
    simp only [opens, List.nil_eq, List.append_eq_nil_iff, List.cons_ne_nil, false_and, and_false] at parts

theorem callsWith_or_tail_eq_nil (r : Replacement) (line : Bytes) :
    (∃ list, r.CallsWith line list (r.tail line)) ∨ r.tail line = [] := by
  match found : line.indexOf? r.throwPattern with
  | none => exact Or.inr (by simp only [tail, found])
  | some start =>
    match stops : ArgumentList.end? (Line.ofBytes line).body (start + r.throwPattern.length) with
    | none => exact Or.inr (by simp only [tail, found, stops])
    | some stop =>
      obtain ⟨blanks, list, rest, parts, blank, isList, _⟩ := ArgumentList.end?_eq_some_iff.mp stops
      have calls : r.CallsWith line list rest := ⟨blanks, blank, isList, by simpa only [behindThrow, found] using parts⟩
      exact Or.inl ⟨list, by rwa [tail_of_callsWith calls]⟩

theorem newline_notMem_list (inner : Ascii.newline ∉ line.dropLast) (calls : r.CallsWith line list rest) :
    Ascii.newline ∉ list := by
  obtain ⟨blanks, _, _, parts⟩ := calls
  have body := Line.newline_notMem_body inner
  intro member
  have behind : Ascii.newline ∈ r.behindThrow line := by
    rw [parts]
    exact List.mem_append_right _ (List.mem_append_left _ member)
  unfold behindThrow at behind
  split at behind
  · exact body (List.mem_of_mem_drop behind)
  · exact absurd behind List.not_mem_nil

/-- A throw whose tail ends the statement is done with on its line. -/
theorem apply_of_closed (mode : r.terminator = .statementEnd) (trigger : r.IsTrigger line)
    (ended : (Scanner.findTerminator {} (r.tail line)).1 ≠ none) (state : State) (index : Nat) :
    r.apply state index line =
      (⟨.triggeredAndTerminated, r.opening line ++ r.diagnostic ++ r.tail line ++ [Ascii.newline] ++
        r.raiseLine (r.guarded line)⟩, {}) := by
  match applied : r.apply state index line with
  | (emission, next) =>
    cases statementStep_of_apply mode applied with
    | closed _ _ => rfl
    | triggered _ scan => exact absurd (congrArg Prod.fst scan) ended
    | dropped dropped => exact absurd trigger (not_trigger_of_dropped dropped)
    | idle plain _ => exact absurd trigger plain.not_trigger
    | waiting plain _ _ => exact absurd trigger plain.not_trigger
    | raised plain _ _ => exact absurd trigger plain.not_trigger

/-- The raise comes directly behind the diagnostic exactly if an argument list follows the throw and a semicolon
in code follows the list. That is so for a throw whose line ends its statement, if a list without comments
follows it. -/
theorem oneLineThrow_ends_iff (mode : r.terminator = .statementEnd) (inner : Ascii.newline ∉ line.dropLast)
    (trigger : r.IsTrigger line) (state : State) (index : Nat) :
    ((r.apply state index line).1.outcome = .triggeredAndTerminated ↔
      ∃ list rest, r.CallsWith line list rest ∧ ∃ place, SemicolonAt .code rest place) ∧
    ∀ list rest, r.CallsWith line list rest → Uncommented .code list →
      HasFreeSemicolon .code 0 (r.behindThrow line) →
      r.apply state index line =
        (⟨.triggeredAndTerminated, r.opening line ++ r.diagnostic ++ rest ++ [Ascii.newline] ++
          r.raiseLine (r.guarded line)⟩, {}) := by
  have search := tail_terminator?_eq (newline_notMem_tail (r := r) inner)
  have ends : (Scanner.findTerminator {} (r.tail line)).1 ≠ none ↔ ∃ place, SemicolonAt .code (r.tail line) place := by
    rw [search, ne_eq, Lexer.terminator?_eq_none_iff, Classical.not_forall_not]
  refine ⟨?_, ?_⟩
  · obtain ⟨emission, next, applied⟩ : ∃ emission next, r.apply state index line = (emission, next) := ⟨_, _, rfl⟩
    rw [applied, (statementStep_of_apply mode applied).emission_eq.2.2.1, ends]
    constructor
    · rintro ⟨_, place, stands⟩
      rcases r.callsWith_or_tail_eq_nil line with ⟨list, calls⟩ | empty
      · exact ⟨list, r.tail line, calls, place, stands⟩
      · rw [empty] at stands
        cases stands.1
    · rintro ⟨list, rest, calls, stands⟩
      rw [tail_of_callsWith calls]
      exact ⟨trigger, stands⟩
  · intro list rest calls clean free
    obtain ⟨blanks, blank, isList, parts⟩ := id calls
    rw [parts] at free
    have stands := Lexer.semicolonAt_of_call blank isList (newline_notMem_list inner calls) clean free
    rw [← tail_of_callsWith calls] at stands ⊢
    exact apply_of_closed mode trigger (ends.mpr stands) state index

def semicolonThrow : Bytes :=
  Bytes.ofString "  if (bad) throw cms::Exception (\";\") << b; // done\n"

/-- Neither the semicolon in the argument nor a throw that is still pending keeps the raise from its line. -/
theorem oneLineThrow_ends_iff_semicolonThrow :
    (stock .statementEnd).IsTrigger semicolonThrow ∧
      (stock .statementEnd).apply (.pending 3 {} true) 5 semicolonThrow =
        (⟨.triggeredAndTerminated, Bytes.ofString ("  if (bad) \x7b std::cerr << \"ERROR in BTagCalibration: \"" ++
          " << b; // done\nthrow std::exception(); \x7d\n")⟩, {}) := by
  have trigger : (stock .statementEnd).IsTrigger semicolonThrow := by decide
  have inner : Ascii.newline ∉ semicolonThrow.dropLast := by decide
  have literal : ArgumentList.IsItem [Ascii.doubleQuote, Ascii.semicolon, Ascii.doubleQuote] :=
    .literal ⟨_, [Ascii.semicolon], rfl, .plain (by decide) (by decide) .nil, rfl⟩
  have calls : (stock .statementEnd).CallsWith semicolonThrow (Bytes.ofString "(\";\")")
      (Bytes.ofString " << b; // done") :=
    ⟨[Ascii.space], List.forall_mem_singleton.mpr rfl, ⟨[_], List.forall_mem_singleton.mpr literal, rfl⟩, by decide⟩
  have clean : Uncommented .code (Bytes.ofString "(\";\")") := by decide
  have free : HasFreeSemicolon .code 0 ((stock .statementEnd).behindThrow semicolonThrow) :=
    ⟨11, by decide, by decide⟩
  refine ⟨trigger, ?_⟩
  rw [(oneLineThrow_ends_iff (r := stock .statementEnd) rfl inner trigger _ 5).2 _ _ calls clean free]
  decide

/-- The apostrophe in the comment hides the end of the argument list. -/
def notedThrow : List Bytes :=
  [Bytes.ofString "throw cms::Exception(name /* don't care */) << \"bad\";\n", Bytes.ofString "next();\n"]

/-- The statement ends on the line of its throw, and its raise follows the next statement. -/
theorem notedThrow_raises_late :
    Bytes.AreLines notedThrow ∧
      HasFreeSemicolon .code 0
        ((stock .statementEnd).behindThrow (Bytes.ofString "throw cms::Exception(name /* don't care */) << \"bad\";\n")) ∧
      (stock .statementEnd).rule.emissionAt notedThrow 0 =
        some ⟨.triggered, Bytes.ofString "std::cerr << \"ERROR in BTagCalibration: \"\n"⟩ ∧
      (stock .statementEnd).rule.emissionAt notedThrow 1 =
        some ⟨.terminated, Bytes.ofString "next();\nthrow std::exception();\n"⟩ := by
  refine ⟨by decide, ⟨32, by decide, by decide⟩, by decide, by decide⟩

end Amalgam.Replacement
