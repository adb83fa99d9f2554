import Amalgam.Statement.Scanner
import Amalgam.Proofs.Lines

namespace Amalgam

namespace Lexer

/-- What surrounds the next byte of a text. -/
inductive Mode where
  | code
  /-- in code, behind a slash that may open a comment -/
  | slash
  | literal (quote : UInt8)
  /-- in a literal, behind a backslash -/
  | escape (quote : UInt8)
  | lineComment
  | blockComment
  /-- in a block comment, behind a star that may close it -/
  | star
  deriving Repr, DecidableEq

namespace Mode

/-- What follows a byte of code that is not part of the opening of a comment. -/
def ofCode (b : UInt8) : Mode :=
  if b = Ascii.slash then .slash else if Ascii.isQuote b then .literal b else .code

/-- A newline ends all but block comments, even behind a backslash. -/
def step : Mode → UInt8 → Mode
  | code, b => ofCode b
  | slash, b =>
    if b = Ascii.slash then lineComment else if b = Ascii.star then blockComment else ofCode b
  | literal quote, b =>
    if b = Ascii.newline then code
    else if b = Ascii.backslash then escape quote
    else if b = quote then code else literal quote
  | escape quote, b => if b = Ascii.newline then code else literal quote
  | lineComment, b => if b = Ascii.newline then code else lineComment
  | blockComment, b => if b = Ascii.star then star else blockComment
  | star, b => if b = Ascii.slash then code else if b = Ascii.star then star else blockComment

def isCode : Mode → Bool
  | code | slash => true
  | _ => false

def inBlock : Mode → Bool
  | blockComment | star => true
  | _ => false

theorem step_newline (mode : Mode) :
    mode.step Ascii.newline = if mode.inBlock then blockComment else code := by
  cases mode <;> rfl

theorem ofCode_inBlock (b : UInt8) : (ofCode b).inBlock = false := by
  unfold ofCode
  split
  · rfl
  · split <;> rfl

theorem step_slash_eq {b : UInt8} (noLine : b ≠ Ascii.slash) (noBlock : b ≠ Ascii.star) :
    step slash b = step code b := by
  simp only [step, if_neg noLine, if_neg noBlock]

theorem step_star_eq {b : UInt8} (notClosed : b ≠ Ascii.slash) : step star b = step blockComment b := by
  simp only [step, if_neg notClosed]

end Mode

/-- The mode behind a text. -/
def after (mode : Mode) (text : Bytes) : Mode :=
  text.foldl Mode.step mode

/-- Offset of the first semicolon in code. -/
def terminator? : Mode → Bytes → Option Nat
  | _, [] => none
  | mode, b :: rest =>
    if mode.isCode ∧ b = Ascii.semicolon then some 0 else (terminator? (mode.step b) rest).map (· + 1)

@[simp]
theorem after_nil (mode : Mode) : after mode [] = mode := rfl

@[simp]
theorem after_cons (mode : Mode) (b : UInt8) (rest : Bytes) :
    after mode (b :: rest) = after (mode.step b) rest := rfl

theorem after_append (mode : Mode) (first second : Bytes) :
    after mode (first ++ second) = after (after mode first) second :=
  List.foldl_append

@[simp]
theorem terminator?_nil (mode : Mode) : terminator? mode [] = none := rfl

theorem terminator?_cons_of_not {mode : Mode} {b : UInt8} (goesOn : ¬ (mode.isCode ∧ b = Ascii.semicolon))
    (rest : Bytes) : terminator? mode (b :: rest) = (terminator? (mode.step b) rest).map (· + 1) :=
  if_neg goesOn

theorem terminator?_newline (mode : Mode) : terminator? mode [Ascii.newline] = none :=
  terminator?_cons_of_not (fun both => absurd both.2 (by decide)) []

theorem terminator?_append (mode : Mode) (first second : Bytes) :
    terminator? mode (first ++ second) =
      (terminator? mode first).or ((terminator? (after mode first) second).map (· + first.length)) := by
  induction first generalizing mode with
  | nil => simp
  | cons b first ih =>
    by_cases found : mode.isCode ∧ b = Ascii.semicolon
    · simp [terminator?, found]
    · rw [List.cons_append, terminator?_cons_of_not found, terminator?_cons_of_not found, ih, after_cons]
      cases terminator? (mode.step b) first with
      | some _ => rfl
      | none =>
        cases terminator? (after (mode.step b) first) second with
        | none => rfl
        | some _ => simp only [Option.none_or, Option.map_some, Option.map_none, List.length_cons, Nat.add_assoc]

theorem terminator?_append_of_none {mode : Mode} {text : Bytes} (goesOn : terminator? mode text = none)
    (line : Bytes) :
    terminator? mode (text ++ line) = (terminator? (after mode text) line).map (· + text.length) := by
  rw [terminator?_append, goesOn, Option.none_or]

theorem terminator?_append_ne_none {mode : Mode} {text : Bytes} (ended : terminator? mode text ≠ none)
    (line : Bytes) : terminator? mode (text ++ line) ≠ none := by
  obtain ⟨k, found⟩ := Option.ne_none_iff_exists'.mp ended
  rw [terminator?_append, found, Option.some_or]
  exact Option.some_ne_none k

theorem lineComment_rest {rest : Bytes} (inner : Ascii.newline ∉ rest.dropLast) :
    terminator? .lineComment rest = none ∧ (after .lineComment rest).inBlock = false := by
  induction rest with
  | nil => exact ⟨rfl, rfl⟩
  | cons b rest ih =>
    cases rest with
    | nil =>
      refine ⟨rfl, ?_⟩
      simp only [after_cons, after_nil, Mode.step]
      split <;> rfl
    | cons c rest =>
      rw [List.dropLast_cons_cons, List.mem_cons, not_or] at inner
      have stays : Mode.step .lineComment b = .lineComment := if_neg (Ne.symm inner.1)
      rw [terminator?_cons_of_not (by simp [Mode.isCode]), after_cons, stays]
      exact ⟨by rw [(ih inner.2).1, Option.map_none], (ih inner.2).2⟩

end Lexer

open Lexer (Mode terminator? after)

def Place.mode : Place → Mode
  | code => .code
  | comment => .blockComment
  | literal quote => .literal quote

/-- The mode in which the next line starts. -/
def Scanner.mode (scanner : Scanner) : Mode :=
  scanner.place.mode

theorem Scanner.mode_eq (scanner : Scanner) :
    scanner.mode = if scanner.inBlockComment then .blockComment else .code := by
  obtain ⟨_ | _⟩ := scanner <;> rfl

theorem Place.inBlockComment_eq (place : Place) :
    (Scanner.ofPlace place).inBlockComment = place.mode.inBlock := by
  cases place <;> rfl

/-- A comment needs two bytes to open or to close. -/
theorem Place.inBlock_step (place : Place) (b : UInt8) :
    (place.mode.step b).inBlock = place.mode.inBlock := by
  cases place with
  | code => exact Mode.ofCode_inBlock b
  | comment =>
    simp only [Place.mode, Mode.step]
    split <;> rfl
  | literal quote =>
    simp only [Place.mode, Mode.step]
    split
    · rfl
    · split
      · rfl
      · split <;> rfl

theorem Place.isCode_mode (place : Place) : place.mode.isCode = true ↔ place = .code := by
  cases place <;> simp [Place.mode, Mode.isCode]

/-- A scan that started at the offset stops where the lexer finds its semicolon. If there is none, the
two agree on whether a block comment is left open. -/
structure Scanner.Agrees (result : Option Nat × Scanner) (offset : Nat) (mode : Mode) (text : Bytes) :
    Prop where
  stop : result.1 = (terminator? mode text).map (· + offset)
  inBlock : terminator? mode text = none → result.2.inBlockComment = (after mode text).inBlock

namespace Scanner.Agrees

variable {result : Option Nat × Scanner} {offset : Nat} {mode : Mode} {b : UInt8} {rest : Bytes}

theorem cons (goesOn : ¬ (mode.isCode ∧ b = Ascii.semicolon))
    (agrees : Agrees result (offset + 1) (mode.step b) rest) : Agrees result offset mode (b :: rest) := by
  have first := Lexer.terminator?_cons_of_not goesOn rest
  refine ⟨?_, ?_⟩
  · rw [agrees.stop, first]
    cases terminator? (mode.step b) rest with
    | none => rfl
    | some k => simp only [Option.map_some, Option.some.injEq]; omega
  · intro none
    rw [first, Option.map_eq_none_iff] at none
    exact agrees.inBlock none

/-- Modes that treat the first byte alike cannot be told apart. -/
theorem of_step_eq {other : Mode} (same : mode.step b = other.step b) (code : mode.isCode = other.isCode)
    (agrees : Agrees result offset other (b :: rest)) : Agrees result offset mode (b :: rest) := by
  have stop : terminator? mode (b :: rest) = terminator? other (b :: rest) := by
    simp only [terminator?, code, same]
  refine ⟨by rw [stop]; exact agrees.stop, ?_⟩
  intro none
  rw [Lexer.after_cons, same]
  exact agrees.inBlock (stop.symm.trans none)

end Scanner.Agrees

/-- The scanner looks ahead by a byte where the lexer remembers one. A line can only hold a newline at
its end, so a newline never stands where the scanner skips two bytes at once and goes on. -/
theorem Scanner.scan_agrees (place : Place) (offset : Nat) (line : Bytes)
    (inner : Ascii.newline ∉ line.dropLast) : Agrees (scan place offset line) offset place.mode line := by
  fun_induction Scanner.scan place offset line with
  | case1 place => exact ⟨rfl, fun _ => place.inBlockComment_eq⟩
  | case2 place offset b ends =>
    obtain ⟨rfl, rfl⟩ := ends
    exact ⟨by simp [terminator?, Place.mode, Mode.isCode], by simp [terminator?, Place.mode, Mode.isCode]⟩
  | case3 place offset b goesOn =>
    rw [← place.isCode_mode] at goesOn
    refine ⟨by simp [terminator?, goesOn], ?_⟩
    intro _
    rw [place.inBlockComment_eq, Lexer.after_cons, Lexer.after_nil]
    exact (place.inBlock_step b).symm
  | case4 offset b c rest opens =>
    obtain ⟨rfl, rfl⟩ := opens
    have comment : terminator? .lineComment rest = none ∧ (after .lineComment rest).inBlock = false :=
      Lexer.lineComment_rest (Bytes.newline_notMem_drop inner 2)
    have opened : Agrees (none, ofPlace .code) (offset + 1 + 1) .lineComment rest :=
      ⟨by rw [comment.1]; rfl, fun _ => comment.2.symm⟩
    exact .cons (by decide) (.cons (by decide) opened)
  | case5 offset b c rest _ opens ih =>
    obtain ⟨rfl, rfl⟩ := opens
    exact .cons (by decide) (.cons (by decide)
      (ih (Bytes.newline_notMem_drop inner 2)))
  | case6 offset c rest =>
    exact ⟨by simp [terminator?, Place.mode, Mode.isCode], by simp [terminator?, Place.mode, Mode.isCode]⟩
  | case7 offset b c rest noLine noBlock goesOn ih =>
    have later := ih (Bytes.newline_notMem_drop inner 1)
    refine .cons (fun ends => goesOn ends.2) ?_
    by_cases slash : b = Ascii.slash
    · -- Behind a slash that opens nothing, the lexer is in code as far as the next byte can tell.
      subst slash
      have alike : Mode.step .slash c = Mode.step .code c :=
        Mode.step_slash_eq (fun same => noLine ⟨rfl, same⟩) (fun same => noBlock ⟨rfl, same⟩)
      exact .of_step_eq alike rfl later
    · have next : Place.code.mode.step b = (if Ascii.isQuote b then Place.literal b else .code).mode := by
        simp only [Place.mode, Mode.step, Mode.ofCode, if_neg slash]
        split <;> rfl
      rw [next]
      exact later
  | case8 offset b c rest closes ih =>
    obtain ⟨rfl, rfl⟩ := closes
    exact .cons (by decide) (.cons (by decide)
      (ih (Bytes.newline_notMem_drop inner 2)))
  | case9 offset b c rest notClosed ih =>
    have later := ih (Bytes.newline_notMem_drop inner 1)
    refine .cons (by simp [Place.mode, Mode.isCode]) ?_
    by_cases star : b = Ascii.star
    · subst star
      have alike : Mode.step .star c = Mode.step .blockComment c :=
        Mode.step_star_eq (fun same => notClosed ⟨rfl, same⟩)
      exact .of_step_eq alike rfl later
    · simpa only [Place.mode, Mode.step, if_neg star] using later
  | case10 quote offset c rest ih =>
    have later := ih (Bytes.newline_notMem_drop inner 2)
    have escape : (Place.literal quote).mode.step Ascii.backslash = .escape quote := rfl
    refine .cons (by simp [Place.mode, Mode.isCode]) ?_
    rw [escape]
    refine .cons (by simp [Mode.isCode]) ?_
    by_cases newline : c = Ascii.newline
    · -- An escaped newline is the last byte of the line.
      cases rest with
      | nil =>
        subst newline
        exact ⟨rfl, fun _ => rfl⟩
      | cons d rest =>
        have inner : Ascii.newline ∉ (c :: d :: rest).dropLast := Bytes.newline_notMem_drop inner 1
        rw [List.dropLast_cons_cons, List.mem_cons, not_or] at inner
        exact absurd newline.symm inner.1
    · have hidden : Mode.step (.escape quote) c = .literal quote := if_neg newline
      rw [hidden]
      exact later
  | case11 quote offset b c rest plain ih =>
    have later := ih (Bytes.newline_notMem_drop inner 1)
    refine .cons (by simp [Place.mode, Mode.isCode]) ?_
    rw [List.dropLast_cons_cons, List.mem_cons, not_or] at inner
    have next : (Place.literal quote).mode.step b = (if b = quote then Place.code else .literal quote).mode := by
      simp only [Place.mode, Mode.step, if_neg (Ne.symm inner.1), if_neg plain]
      split <;> rfl
    rw [next]
    exact later

/-- Behind a newline there is either code or a block comment. -/
theorem Lexer.after_of_ended {line : Bytes} (ended : line.getLast? = some Ascii.newline) (mode : Mode) :
    after mode line = if (after mode line).inBlock then .blockComment else .code := by
  obtain ⟨body, rfl⟩ := List.getLast?_eq_some_iff.mp ended
  rw [Lexer.after_append, Lexer.after_cons, Lexer.after_nil, Mode.step_newline]
  cases (after mode body).inBlock <;> rfl

namespace Scanner

theorem findTerminator_fst (scanner : Scanner) {line : Bytes} (inner : Ascii.newline ∉ line.dropLast) :
    (scanner.findTerminator line).1 = terminator? scanner.mode line := by
  rw [findTerminator, (scan_agrees _ 0 line inner).stop, ← mode]
  cases terminator? scanner.mode line <;> rfl

theorem findTerminator_inBlock (scanner : Scanner) {line : Bytes} (inner : Ascii.newline ∉ line.dropLast)
    (goesOn : terminator? scanner.mode line = none) :
    (scanner.findTerminator line).2.inBlockComment = (after scanner.mode line).inBlock :=
  (scan_agrees _ 0 line inner).inBlock goesOn

/-- A scan through a whole line leaves off where the lexer does. -/
theorem mode_findTerminator (scanner : Scanner) {line : Bytes} (whole : line.IsWhole)
    (goesOn : terminator? scanner.mode line = none) :
    (scanner.findTerminator line).2.mode = after scanner.mode line := by
  rw [mode_eq, findTerminator_inBlock scanner whole.1 goesOn]
  exact (Lexer.after_of_ended whole.2 scanner.mode).symm

/-- So does a scan through a text without newlines, if a newline follows the text. -/
theorem mode_findTerminator_newline (scanner : Scanner) {text : Bytes} (noNewline : Ascii.newline ∉ text)
    (goesOn : terminator? scanner.mode text = none) :
    (scanner.findTerminator text).2.mode = after scanner.mode (text ++ [Ascii.newline]) := by
  have inner : Ascii.newline ∉ text.dropLast :=
    fun member => noNewline ((List.dropLast_sublist text).subset member)
  rw [mode_eq, findTerminator_inBlock scanner inner goesOn, Lexer.after_append]
  exact (Mode.step_newline _).symm

end Scanner

end Amalgam
