import Amalgam.Proofs.Lexer

namespace Amalgam

namespace Lexer

variable {mode : Mode} {b : UInt8} {text rest : Bytes}

/-- A lexer that starts in this mode meets a semicolon in code at this place of the text. -/
def SemicolonAt (mode : Mode) (text : Bytes) (place : Nat) : Prop :=
  text[place]? = some Ascii.semicolon ∧ (after mode (text.take place)).isCode = true

instance (mode : Mode) (text : Bytes) (place : Nat) : Decidable (SemicolonAt mode text place) :=
  inferInstanceAs (Decidable (_ ∧ _))

/-- There is none before it. -/
def FirstSemicolon (mode : Mode) (text : Bytes) (place : Nat) : Prop :=
  SemicolonAt mode text place ∧ ∀ earlier < place, ¬ SemicolonAt mode text earlier

theorem semicolonAt_cons_zero :
    SemicolonAt mode (b :: rest) 0 ↔ mode.isCode = true ∧ b = Ascii.semicolon := by
  simp only [SemicolonAt, List.getElem?_cons_zero, Option.some.injEq, List.take_zero, after_nil]
  exact And.comm

theorem semicolonAt_cons_succ {place : Nat} :
    SemicolonAt mode (b :: rest) (place + 1) ↔ SemicolonAt (mode.step b) rest place := by
  simp only [SemicolonAt, List.getElem?_cons_succ, List.take_succ_cons, after_cons]

theorem firstSemicolon_of_terminator? {place : Nat} (found : terminator? mode text = some place) :
    FirstSemicolon mode text place := by
  induction text generalizing mode place with
  | nil => cases found
  | cons b rest ih =>
    by_cases here : mode.isCode = true ∧ b = Ascii.semicolon
    · rw [terminator?, if_pos here] at found
      cases found
      exact ⟨semicolonAt_cons_zero.mpr here, fun earlier before => absurd before (Nat.not_lt_zero earlier)⟩
    · rw [terminator?_cons_of_not here, Option.map_eq_some_iff] at found
      obtain ⟨place, found, rfl⟩ := found
      obtain ⟨stands, first⟩ := ih found
      refine ⟨semicolonAt_cons_succ.mpr stands, ?_⟩
      intro earlier before stands'
      cases earlier with
      | zero => exact here (semicolonAt_cons_zero.mp stands')
      | succ earlier => exact first earlier (by omega) (semicolonAt_cons_succ.mp stands')

theorem terminator?_eq_none_iff : terminator? mode text = none ↔ ∀ place, ¬ SemicolonAt mode text place := by
  induction text generalizing mode with
  | nil =>
    simp only [terminator?_nil, true_iff]
    intro place stands
    cases stands.1
  | cons b rest ih =>
    by_cases here : mode.isCode = true ∧ b = Ascii.semicolon
    · rw [terminator?, if_pos here]
      constructor
      · intro absent
        cases absent
      · intro never
        exact absurd (semicolonAt_cons_zero.mpr here) (never 0)
    · rw [terminator?_cons_of_not here, Option.map_eq_none_iff, ih]
      constructor
      · intro never place stands
        cases place with
        | zero => exact here (semicolonAt_cons_zero.mp stands)
        | succ place => exact never place (semicolonAt_cons_succ.mp stands)
      · intro never place stands
        exact never (place + 1) (semicolonAt_cons_succ.mpr stands)

theorem terminator?_lt {place : Nat} (found : terminator? mode text = some place) : place < text.length :=
  (List.getElem?_eq_some_iff.mp (firstSemicolon_of_terminator? found).1.1).1

end Lexer

namespace Scanner

open Lexer (terminator? after SemicolonAt FirstSemicolon)

variable {scanner next : Scanner} {line : Bytes} {lines : List Bytes}

/-- Scans lines in turn until one of them ends a statement. Gives that line with the offset in it, and the
scanner behind the last line that was scanned. -/
def findInLines (scanner : Scanner) : List Bytes → Option (Nat × Nat) × Scanner
  | [] => (none, scanner)
  | line :: lines =>
    match scanner.findTerminator line with
    | (some offset, next) => (some (0, offset), next)
    | (none, next) =>
      ((findInLines next lines).1.map fun found => (found.1 + 1, found.2), (findInLines next lines).2)

theorem findInLines_of_some {offset : Nat} (ended : scanner.findTerminator line = (some offset, next))
    (lines : List Bytes) : scanner.findInLines (line :: lines) = (some (0, offset), next) := by
  simp only [findInLines, ended]

theorem findInLines_of_none (goesOn : scanner.findTerminator line = (none, next)) (lines : List Bytes) :
    scanner.findInLines (line :: lines) =
      ((next.findInLines lines).1.map fun found => (found.1 + 1, found.2), (next.findInLines lines).2) := by
  simp only [findInLines, goesOn]

/-- Behind a line that goes on, the scanner stands where the lexer does, unless the text ends there. -/
theorem mode_of_goesOn (split : Bytes.AreLines (line :: lines))
    (goesOn : scanner.findTerminator line = (none, next)) :
    lines = [] ∨ next.mode = after scanner.mode line := by
  cases lines with
  | nil => exact Or.inl rfl
  | cons second lines =>
    have inner := split.inner line List.mem_cons_self
    have whole : line.IsWhole := ⟨inner, split.ended line List.mem_cons_self⟩
    have none := scanner.findTerminator_fst inner
    rw [goesOn] at none
    have mode := scanner.mode_findTerminator whole none.symm
    rw [goesOn] at mode
    exact Or.inr mode

/-- The place of an offset in a line within the text that the lines make up. -/
def placeOf (lines : List Bytes) (found : Nat × Nat) : Nat :=
  (lines.take found.1).flatten.length + found.2

theorem placeOf_cons_succ (line : Bytes) (lines : List Bytes) (found : Nat × Nat) :
    placeOf (line :: lines) (found.1 + 1, found.2) = placeOf lines found + line.length := by
  simp only [placeOf, List.take_succ_cons, List.flatten_cons, List.length_append]
  omega

/-- The scan finds the place that the lexer finds. -/
theorem place_findInLines (scanner : Scanner) (split : Bytes.AreLines lines) :
    (scanner.findInLines lines).1.map (placeOf lines) = terminator? scanner.mode lines.flatten := by
  induction lines generalizing scanner with
  | nil => rfl
  | cons line lines ih =>
    have search := scanner.findTerminator_fst (split.inner line List.mem_cons_self)
    rw [List.flatten_cons]
    match result : scanner.findTerminator line with
    | (some offset, next) =>
      rw [result] at search
      rw [findInLines_of_some result, Lexer.terminator?_append, ← search, Option.some_or]
      simp [placeOf]
    | (none, next) =>
      rw [result] at search
      have later : terminator? next.mode lines.flatten = terminator? (after scanner.mode line) lines.flatten := by
        rcases mode_of_goesOn split result with rfl | mode
        · rfl
        · rw [mode]
      rw [findInLines_of_none result, Lexer.terminator?_append_of_none search.symm, ← later,
        ← ih next split.tail, Option.map_map, Option.map_map]
      refine congrArg (Option.map · _) (funext fun found => ?_)
      exact placeOf_cons_succ line lines found

theorem line_of_findInLines {i offset : Nat} (split : Bytes.AreLines lines)
    (found : (scanner.findInLines lines).1 = some (i, offset)) :
    ∃ line, lines[i]? = some line ∧ offset < line.length := by
  induction lines generalizing scanner i with
  | nil => cases found
  | cons line lines ih =>
    have search := scanner.findTerminator_fst (split.inner line List.mem_cons_self)
    match result : scanner.findTerminator line with
    | (some stop, next) =>
      rw [result] at search
      rw [findInLines_of_some result] at found
      cases found
      exact ⟨line, rfl, Lexer.terminator?_lt search.symm⟩
    | (none, next) =>
      rw [findInLines_of_none result, Option.map_eq_some_iff] at found
      obtain ⟨⟨i, offset⟩, found, same⟩ := found
      cases same
      exact ih split.tail found

/-- As long as nothing is found, both agree on whether a block comment is open. -/
theorem inBlock_findInLines (scanner : Scanner) (split : Bytes.AreLines lines)
    (goesOn : (scanner.findInLines lines).1 = none) :
    (scanner.findInLines lines).2.inBlockComment = (after scanner.mode lines.flatten).inBlock := by
  induction lines generalizing scanner with
  | nil =>
    rw [findInLines, List.flatten_nil, Lexer.after_nil, mode_eq]
    cases scanner.inBlockComment <;> rfl
  | cons line lines ih =>
    have inner := split.inner line List.mem_cons_self
    match result : scanner.findTerminator line with
    | (some stop, next) =>
      rw [findInLines_of_some result] at goesOn
      cases goesOn
    | (none, next) =>
      rw [findInLines_of_none result, Option.map_eq_none_iff] at goesOn
      rw [findInLines_of_none result, ih next split.tail goesOn, List.flatten_cons, Lexer.after_append]
      rcases mode_of_goesOn split result with rfl | mode
      · have search := scanner.findTerminator_fst inner
        rw [result] at search
        have agrees := scanner.findTerminator_inBlock inner search.symm
        rw [result] at agrees
        rw [List.flatten_nil, Lexer.after_nil, Lexer.after_nil, ← agrees, mode_eq]
        cases next.inBlockComment <;> rfl
      · rw [mode]

/-- A scan of the lines before the one that ends the statement finds nothing. -/
theorem findInLines_take {n : Nat} (before : ∀ found, (scanner.findInLines lines).1 = some found → n ≤ found.1) :
    (scanner.findInLines (lines.take n)).1 = none := by
  induction lines generalizing scanner n with
  | nil => rw [List.take_nil, findInLines]
  | cons line lines ih =>
    cases n with
    | zero => rfl
    | succ n =>
      rw [List.take_succ_cons]
      match result : scanner.findTerminator line with
      | (some stop, next) =>
        rw [findInLines_of_some result] at before
        exact absurd (before _ rfl) (Nat.not_succ_le_zero n)
      | (none, next) =>
        rw [findInLines_of_none result] at before ⊢
        rw [Option.map_eq_none_iff]
        refine ih fun found same => ?_
        have later := before (found.1 + 1, found.2) (by rw [same]; rfl)
        omega

/-- A scan line by line with one scanner stops where the lexer meets the first semicolon in code of the whole
text, and up to there the two agree after each line on whether a block comment is open. -/
theorem findInLines_agrees (split : Bytes.AreLines lines) :
    (∀ i offset, (findInLines {} lines).1 = some (i, offset) →
      ∃ line, lines[i]? = some line ∧ offset < line.length ∧
        FirstSemicolon .code lines.flatten ((lines.take i).flatten.length + offset)) ∧
    ((findInLines {} lines).1 = none → ∀ place, ¬ SemicolonAt .code lines.flatten place) ∧
    ∀ n, (∀ i offset, (findInLines {} lines).1 = some (i, offset) → n ≤ i) →
      (findInLines {} (lines.take n)).2.inBlockComment = (after .code (lines.take n).flatten).inBlock := by
  have places := place_findInLines {} split
  refine ⟨?_, ?_, ?_⟩
  · intro i offset found
    obtain ⟨line, atLine, within⟩ := line_of_findInLines split found
    rw [found] at places
    exact ⟨line, atLine, within, Lexer.firstSemicolon_of_terminator? places.symm⟩
  · intro absent
    rw [absent] at places
    exact Lexer.terminator?_eq_none_iff.mp places.symm
  · intro n before
    have goesOn := findInLines_take fun found same => before found.1 found.2 same
    exact inBlock_findInLines {} (split.take n) goesOn

/-- The stars and slashes at the ends of lines open and close nothing, an escaped newline ends its string, and
the comment holds an apostrophe and three semicolons. -/
def brokenDelimiters : List Bytes :=
  [Bytes.ofString "<< 'a' /\n", Bytes.ofString "* \"b;\\\n", Bytes.ofString "<< c /*/ isn't;\n",
    Bytes.ofString "over; *\n", Bytes.ofString "/ yet; */ << d; // done\n"]

theorem findInLines_agrees_brokenDelimiters :
    Bytes.AreLines brokenDelimiters ∧
      FirstSemicolon .code brokenDelimiters.flatten ((brokenDelimiters.take 4).flatten.length + 14) := by
  have split : Bytes.AreLines brokenDelimiters := by decide
  have found : (findInLines {} brokenDelimiters).1 = some (4, 14) := by decide
  obtain ⟨_, _, _, first⟩ := (findInLines_agrees split).1 4 14 found
  exact ⟨split, first⟩

end Scanner

end Amalgam
