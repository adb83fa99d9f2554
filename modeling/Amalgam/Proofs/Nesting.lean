import Amalgam.Proofs.ArgumentGrammar
import Amalgam.Proofs.LineScan

namespace Amalgam

namespace Lexer

variable {mode : Mode} {b : UInt8} {depth low : Nat} {first second text rest : Bytes}

/-- The number of open parentheses behind a byte. Only those in code count, and one that closes nothing is
passed over. -/
def Mode.nest (mode : Mode) (b : UInt8) (depth : Nat) : Nat :=
  if mode.isCode = false then depth
  else if b = Ascii.openParen then depth + 1
  else if b = Ascii.closeParen then depth - 1
  else depth

/-- The number of open parentheses behind a text, given those before it. -/
def nesting (mode : Mode) (depth : Nat) : Bytes → Nat
  | [] => depth
  | b :: rest => nesting (mode.step b) (mode.nest b depth) rest

/-- Somewhere in the text stands a semicolon outside literals, comments and parentheses. -/
def HasFreeSemicolon (mode : Mode) (depth : Nat) (text : Bytes) : Prop :=
  ∃ place, SemicolonAt mode text place ∧ nesting mode depth (text.take place) = 0

def Mode.inComment : Mode → Bool
  | lineComment | blockComment | star => true
  | _ => false

/-- Nowhere in the text does the lexer come into a comment. -/
def Uncommented (mode : Mode) (text : Bytes) : Prop :=
  ∀ front, front <+: text → (after mode front).inComment = false

instance (mode : Mode) (text : Bytes) : Decidable (Uncommented mode text) :=
  decidable_of_iff (∀ n ≤ text.length, (after mode (text.take n)).inComment = false) <| by
    constructor
    · intro clean front isFront
      rw [List.prefix_iff_eq_take.mp isFront]
      exact clean _ isFront.length_le
    · intro clean n _
      exact clean _ (List.take_prefix n text)

theorem Mode.nest_of_not_code (other : mode.isCode = false) : mode.nest b depth = depth :=
  if_pos other

theorem Mode.nest_of_ne (noOpen : b ≠ Ascii.openParen) (noClose : b ≠ Ascii.closeParen) :
    mode.nest b depth = depth := by
  simp only [Mode.nest, if_neg noOpen, if_neg noClose, ite_self]

theorem nesting_append : nesting mode depth (first ++ second) =
    nesting (after mode first) (nesting mode depth first) second := by
  induction first generalizing mode depth with
  | nil => rfl
  | cons b first ih => exact ih

theorem not_hasFreeSemicolon_nil : ¬ HasFreeSemicolon mode depth [] := by
  rintro ⟨place, stands, _⟩
  cases stands.1

theorem hasFreeSemicolon_cons : HasFreeSemicolon mode depth (b :: rest) ↔
    (mode.isCode = true ∧ b = Ascii.semicolon ∧ depth = 0) ∨
      HasFreeSemicolon (mode.step b) (mode.nest b depth) rest := by
  constructor
  · rintro ⟨place, stands, free⟩
    cases place with
    | zero =>
      obtain ⟨code, semicolon⟩ := semicolonAt_cons_zero.mp stands
      exact Or.inl ⟨code, semicolon, free⟩
    | succ place => exact Or.inr ⟨place, semicolonAt_cons_succ.mp stands, free⟩
  · rintro (⟨code, semicolon, free⟩ | ⟨place, stands, free⟩)
    · exact ⟨0, semicolonAt_cons_zero.mpr ⟨code, semicolon⟩, free⟩
    · exact ⟨place + 1, semicolonAt_cons_succ.mpr stands, free⟩

theorem hasFreeSemicolon_append : HasFreeSemicolon mode depth (first ++ second) ↔
    HasFreeSemicolon mode depth first ∨
      HasFreeSemicolon (after mode first) (nesting mode depth first) second := by
  induction first generalizing mode depth with
  | nil => simp only [List.nil_append, not_hasFreeSemicolon_nil, false_or, after_nil, nesting]
  | cons b first ih =>
    rw [List.cons_append, hasFreeSemicolon_cons, ih, hasFreeSemicolon_cons, after_cons, or_assoc, nesting]

theorem Uncommented.left (clean : Uncommented mode (first ++ second)) : Uncommented mode first :=
  fun front isFront => clean front (isFront.trans (List.prefix_append first second))

theorem Uncommented.right (clean : Uncommented mode (first ++ second)) : Uncommented (after mode first) second := by
  intro front isFront
  rw [← after_append]
  exact clean (first ++ front) ((List.prefix_append_right_inj first).mpr isFront)

theorem Uncommented.tail (clean : Uncommented mode (b :: rest)) : Uncommented (mode.step b) rest := by
  have parts : Uncommented mode ([b] ++ rest) := clean
  exact parts.right

/-- A byte of code that opens no comment is read as code, also behind a slash. -/
theorem Uncommented.step_eq (clean : Uncommented mode (b :: rest)) (code : mode.isCode = true) :
    mode.step b = Mode.ofCode b := by
  have opens := clean [b] (List.prefix_append [b] rest)
  cases mode with
  | code => rfl
  | slash =>
    simp only [after_cons, after_nil, Mode.step] at opens ⊢
    split at opens
    · cases opens
    · split at opens
      · cases opens
      · simp only [*, if_false]
  | _ => cases code

/-- With so many parentheses open at least, the text leaves as many open as there were, and none of its
semicolons is free. -/
structure Steady (low : Nat) (mode : Mode) (text : Bytes) : Prop where
  nesting_eq : ∀ depth, low ≤ depth → nesting mode depth text = depth
  closed : ∀ depth, low ≤ depth → ¬ HasFreeSemicolon mode depth text

theorem Steady.nil : Steady low mode [] :=
  ⟨fun _ _ => rfl, fun _ _ => not_hasFreeSemicolon_nil⟩

theorem Steady.mono {high : Nat} (steady : Steady low mode text) (more : low ≤ high) : Steady high mode text :=
  ⟨fun depth above => steady.nesting_eq depth (by omega), fun depth above => steady.closed depth (by omega)⟩

theorem Steady.cons (flat : ∀ depth, mode.nest b depth = depth)
    (bound : mode.isCode = true → b = Ascii.semicolon → 0 < low) (steady : Steady low (mode.step b) rest) :
    Steady low mode (b :: rest) := by
  refine ⟨?_, ?_⟩
  · intro depth above
    rw [nesting, flat, steady.nesting_eq depth above]
  · intro depth above
    rw [hasFreeSemicolon_cons, flat]
    rintro (⟨code, semicolon, outside⟩ | later)
    · have positive := bound code semicolon
      omega
    · exact steady.closed depth above later

theorem Steady.cons_of_not_code (other : mode.isCode = false) (steady : Steady low (mode.step b) rest) :
    Steady low mode (b :: rest) := by
  refine .cons (fun _ => Mode.nest_of_not_code other) ?_ steady
  intro code
  rw [other] at code
  cases code

theorem Steady.append (steady : Steady low mode first) (later : Steady low (after mode first) second) :
    Steady low mode (first ++ second) := by
  refine ⟨?_, ?_⟩
  · intro depth above
    rw [nesting_append, steady.nesting_eq depth above, later.nesting_eq depth above]
  · intro depth above
    rw [hasFreeSemicolon_append, steady.nesting_eq depth above]
    rintro (within | behind)
    · exact steady.closed depth above within
    · exact later.closed depth above behind

/-- The inside of a literal is read in the literal, and so is not code. -/
theorem quoted_lexed {quote : UInt8} {body : Bytes} (quoted : ArgumentList.IsQuoted quote body)
    (noNewline : Ascii.newline ∉ body) :
    after (.literal quote) body = .literal quote ∧ Steady 0 (.literal quote) body := by
  induction quoted with
  | nil => exact ⟨rfl, .nil⟩
  | @plain b body other shown _ ih =>
    rw [List.mem_cons, not_or] at noNewline
    obtain ⟨stays, steady⟩ := ih noNewline.2
    have step : Mode.step (.literal quote) b = .literal quote := by
      simp only [Mode.step, if_neg (Ne.symm noNewline.1), if_neg shown, if_neg other]
    refine ⟨by rw [after_cons, step, stays], .cons_of_not_code rfl ?_⟩
    rwa [step]
  | @hidden b body _ ih =>
    simp only [List.mem_cons, not_or] at noNewline
    obtain ⟨stays, steady⟩ := ih noNewline.2.2
    have escape : Mode.step (.literal quote) Ascii.backslash = .escape quote := rfl
    have step : Mode.step (.escape quote) b = .literal quote := if_neg (Ne.symm noNewline.2.1)
    refine ⟨by rw [after_cons, escape, after_cons, step, stays], .cons_of_not_code rfl ?_⟩
    rw [escape]
    refine .cons_of_not_code rfl ?_
    rwa [step]

theorem literal_lexed (code : mode.isCode = true) (isLiteral : ArgumentList.IsLiteral text)
    (noNewline : Ascii.newline ∉ text) (clean : Uncommented mode text) :
    after mode text = .code ∧ Steady 0 mode text := by
  obtain ⟨quote, body, isQuote, quoted, rfl⟩ := isLiteral
  obtain ⟨noBackslash, noOpen, noClose⟩ := ArgumentList.quote_cases isQuote
  have others : quote ≠ Ascii.slash ∧ quote ≠ Ascii.semicolon := by
    constructor <;> rintro rfl <;> cases isQuote
  simp only [List.cons_append, List.mem_cons, List.mem_append, not_or] at noNewline
  obtain ⟨stays, steady⟩ := quoted_lexed quoted noNewline.2.1
  have opens : mode.step quote = .literal quote := by
    rw [clean.step_eq code, Mode.ofCode, if_neg others.1, if_pos isQuote]
  have closes : Mode.step (.literal quote) quote = .code := by
    simp only [Mode.step, if_neg (Ne.symm noNewline.1), if_neg noBackslash, if_true]
  rw [List.cons_append]
  refine ⟨by rw [after_cons, opens, after_append, stays, after_cons, closes, after_nil], ?_⟩
  refine .cons (fun _ => Mode.nest_of_ne noOpen noClose) (fun _ semicolon => absurd semicolon others.2) ?_
  rw [opens]
  refine steady.append ?_
  rw [stays]
  exact .cons_of_not_code rfl .nil

/-- What stands between parentheses is read with one more of them open. -/
theorem parenthesised_lexed (code : mode.isCode = true)
    (clean : Uncommented mode (Ascii.openParen :: text ++ [Ascii.closeParen]))
    (inner : Uncommented .code text → (after .code text).isCode = true ∧ Steady 1 .code text) :
    after mode (Ascii.openParen :: text ++ [Ascii.closeParen]) = .code ∧
      Steady 0 mode (Ascii.openParen :: text ++ [Ascii.closeParen]) := by
  rw [List.cons_append] at clean ⊢
  have opens : mode.step Ascii.openParen = .code := clean.step_eq code
  have behind := clean.tail
  rw [opens] at behind
  obtain ⟨innerCode, steady⟩ := inner behind.left
  have closes : (after .code text).step Ascii.closeParen = .code := behind.right.step_eq innerCode
  have deeper : ∀ depth, mode.nest Ascii.openParen depth = depth + 1 := by
    intro depth
    rw [Mode.nest, code]
    rfl
  refine ⟨by rw [after_cons, opens, after_append, after_cons, closes, after_nil], ?_, ?_⟩
  · intro depth _
    rw [nesting, opens, deeper, nesting_append, steady.nesting_eq _ (Nat.le_add_left 1 depth), nesting, nesting,
      Mode.nest, innerCode]
    rfl
  · intro depth _
    rw [hasFreeSemicolon_cons, opens, deeper, hasFreeSemicolon_append, hasFreeSemicolon_cons]
    rintro (⟨_, semicolon, _⟩ | within | ⟨_, semicolon, _⟩ | nothing)
    · cases semicolon
    · exact steady.closed _ (Nat.le_add_left 1 depth) within
    · cases semicolon
    · exact not_hasFreeSemicolon_nil nothing

theorem byte_lexed (code : mode.isCode = true) (noOpen : b ≠ Ascii.openParen) (noClose : b ≠ Ascii.closeParen)
    (noQuote : Ascii.isQuote b = false) (clean : Uncommented mode [b]) :
    (after mode [b]).isCode = true ∧ Steady 1 mode [b] := by
  refine ⟨?_, .cons (fun _ => Mode.nest_of_ne noOpen noClose) (fun _ _ => Nat.one_pos) .nil⟩
  rw [after_cons, after_nil, clean.step_eq code, Mode.ofCode, noQuote]
  split <;> rfl

theorem flatten_lexed {items : List Bytes} (code : mode.isCode = true) (noNewline : Ascii.newline ∉ items.flatten)
    (clean : Uncommented mode items.flatten)
    (each : ∀ item ∈ items, ∀ mode : Mode, mode.isCode = true → Ascii.newline ∉ item → Uncommented mode item →
      (after mode item).isCode = true ∧ Steady 1 mode item) :
    (after mode items.flatten).isCode = true ∧ Steady 1 mode items.flatten := by
  induction items generalizing mode with
  | nil => exact ⟨code, .nil⟩
  | cons item items ih =>
    rw [List.forall_mem_cons] at each
    rw [List.flatten_cons, List.mem_append, not_or] at noNewline
    rw [List.flatten_cons] at clean ⊢
    obtain ⟨firstCode, first⟩ := each.1 mode code noNewline.1 clean.left
    obtain ⟨laterCode, later⟩ := ih firstCode noNewline.2 clean.right each.2
    rw [after_append]
    exact ⟨laterCode, first.append later⟩

theorem newline_notMem_inner {inner : Bytes}
    (noNewline : Ascii.newline ∉ Ascii.openParen :: inner ++ [Ascii.closeParen]) : Ascii.newline ∉ inner :=
  fun member => noNewline (List.mem_append_left _ (List.mem_cons_of_mem _ member))

/-- An item without comments begins and ends in code, within its parentheses. -/
theorem item_lexed {item : Bytes} (isItem : ArgumentList.IsItem item) :
    ∀ mode : Mode, mode.isCode = true → Ascii.newline ∉ item → Uncommented mode item →
      (after mode item).isCode = true ∧ Steady 1 mode item := by
  induction isItem with
  | byte noOpen noClose noQuote =>
    intro mode code _ clean
    exact byte_lexed code noOpen noClose noQuote clean
  | literal isLiteral =>
    intro mode code noNewline clean
    obtain ⟨behind, steady⟩ := literal_lexed code isLiteral noNewline clean
    exact ⟨by rw [behind]; rfl, steady.mono (Nat.zero_le 1)⟩
  | list _ ih =>
    intro mode code noNewline clean
    obtain ⟨behind, steady⟩ := parenthesised_lexed code clean fun inner =>
      flatten_lexed rfl (newline_notMem_inner noNewline) inner ih
    exact ⟨by rw [behind]; rfl, steady.mono (Nat.zero_le 1)⟩

/-- A list without comments begins and ends in code, and none of its semicolons is free. -/
theorem list_lexed {list : Bytes} (isList : ArgumentList.IsList list) (noNewline : Ascii.newline ∉ list)
    (clean : Uncommented .code list) : after .code list = .code ∧ Steady 0 .code list := by
  obtain ⟨items, each, rfl⟩ := isList
  exact parenthesised_lexed rfl clean fun inner =>
    flatten_lexed rfl (newline_notMem_inner noNewline) inner fun item member => item_lexed (each item member)

theorem blanks_lexed {blanks : Bytes} (blank : ∀ b ∈ blanks, Ascii.isBlank b = true) :
    after .code blanks = .code ∧ Steady 0 .code blanks := by
  induction blanks with
  | nil => exact ⟨rfl, .nil⟩
  | cons b blanks ih =>
    rw [List.forall_mem_cons] at blank
    obtain ⟨stays, steady⟩ := ih blank.2
    have read : Mode.step .code b = .code ∧ b ≠ Ascii.openParen ∧ b ≠ Ascii.closeParen ∧ b ≠ Ascii.semicolon := by
      have isBlank := blank.1
      simp only [Ascii.isBlank, Bool.or_eq_true, beq_iff_eq] at isBlank
      rcases isBlank with (((rfl | rfl) | rfl) | rfl) | rfl <;> decide
    obtain ⟨step, noOpen, noClose, noSemicolon⟩ := read
    refine ⟨by rw [after_cons, step, stays], ?_⟩
    refine .cons (fun _ => Mode.nest_of_ne noOpen noClose) (fun _ semicolon => absurd semicolon noSemicolon) ?_
    rwa [step]

/-- A free semicolon behind a call without comments stands behind its list. -/
theorem semicolonAt_of_call {blanks list : Bytes} (blank : ∀ b ∈ blanks, Ascii.isBlank b = true)
    (isList : ArgumentList.IsList list) (noNewline : Ascii.newline ∉ list) (clean : Uncommented .code list)
    (free : HasFreeSemicolon .code 0 (blanks ++ (list ++ rest))) : ∃ place, SemicolonAt .code rest place := by
  obtain ⟨behindBlanks, steadyBlanks⟩ := blanks_lexed blank
  obtain ⟨behindList, steadyList⟩ := list_lexed isList noNewline clean
  have none := Nat.le_refl 0
  rw [hasFreeSemicolon_append, behindBlanks, steadyBlanks.nesting_eq 0 none, hasFreeSemicolon_append, behindList,
    steadyList.nesting_eq 0 none] at free
  rcases free with inBlanks | inList | ⟨place, stands, _⟩
  · exact absurd inBlanks (steadyBlanks.closed 0 none)
  · exact absurd inList (steadyList.closed 0 none)
  · exact ⟨place, stands⟩

end Lexer

end Amalgam
