import Amalgam.Proofs.ArgumentGrammar
import Amalgam.Proofs.Search
import Amalgam.Statement.Scanner

namespace Amalgam

/-- What can go wrong where a line is read by offsets and every count is kept by itself. -/
inductive Offsets.Fault where
  /-- there is no byte at the offset -/
  | noByte
  /-- the part does not lie within the line -/
  | noSlice
  /-- a search goes through windows of no bytes -/
  | noWindow
  /-- a count falls below zero -/
  | belowZero
  /-- a number is beyond the limit -/
  | tooLarge
  deriving Repr, DecidableEq

namespace Offsets

def require (holds : Prop) [Decidable holds] (fault : Fault) : Except Fault Unit :=
  if holds then .ok () else .error fault

theorem bind_eq_ok {α β : Type} {x : Except Fault α} {f : α → Except Fault β} {c : β} :
    (x >>= f) = .ok c ↔ ∃ a, x = .ok a ∧ f a = .ok c := by
  cases x with
  | error fault => exact ⟨nofun, nofun⟩
  | ok a =>
    constructor
    · intro found
      exact ⟨a, rfl, found⟩
    · rintro ⟨_, same, found⟩
      cases same
      exact found

/-- The byte at an offset from which a reader may go on by up to two bytes. -/
def byteAt (limit : Nat) (text : Bytes) (i : Nat) : Except Fault UInt8 :=
  if i + 2 ≤ limit then
    match text[i]? with
    | some b => .ok b
    | none => .error .noByte
  else .error .tooLarge

/-- The part of a line between two offsets. -/
def slice (text : Bytes) (start stop : Nat) : Except Fault Bytes :=
  if start ≤ stop ∧ stop ≤ text.length then .ok ((text.take stop).drop start) else .error .noSlice

/-- Searches the windows of a line from an offset on. -/
def findFrom (text needle : Bytes) (i : Nat) : Except Fault (Option Nat) :=
  if i + needle.length ≤ text.length then do
    let window ← slice text i (i + needle.length)
    if window = needle then return some i
    findFrom text needle (i + 1)
  else return none
termination_by text.length + 1 - i

/-- Offset of the first occurrence of `needle`. -/
def find (text needle : Bytes) : Except Fault (Option Nat) :=
  if needle.isEmpty then return some 0
  else do
    require (0 < needle.length) .noWindow
    findFrom text needle 0

/-- Offset just past a literal that is open at an offset, or the end of the line. -/
def skipLiteral (limit : Nat) (text : Bytes) (quote : UInt8) (i : Nat) : Except Fault Nat :=
  if i < text.length then do
    let b ← byteAt limit text i
    if b = Ascii.backslash then skipLiteral limit text quote (i + 2)
    else if b = quote then return i + 1
    else skipLiteral limit text quote (i + 1)
  else return text.length
termination_by text.length - i

/-- Reading on does not lead back. -/
theorem skipLiteral_bounds {limit i j : Nat} {text : Bytes} {quote : UInt8}
    (found : skipLiteral limit text quote i = .ok j) : min i text.length ≤ j ∧ j ≤ text.length := by
  rw [skipLiteral] at found
  split at found
  next inside =>
    obtain ⟨b, _, found⟩ := bind_eq_ok.mp found
    split at found
    · have later := skipLiteral_bounds found
      omega
    · split at found
      · cases found
        omega
      · have later := skipLiteral_bounds found
        omega
  next beyond =>
    cases found
    omega
termination_by text.length - i

def skipBlanks (limit : Nat) (text : Bytes) (i : Nat) : Except Fault Nat :=
  if i < text.length then do
    let b ← byteAt limit text i
    if Ascii.isBlank b then skipBlanks limit text (i + 1) else return i
  else return i
termination_by text.length - i

/-- Offset just past the parenthesis that closes the outermost of so many lists. -/
def closeFrom (limit : Nat) (text : Bytes) (depth i : Nat) : Except Fault (Option Nat) :=
  if i < text.length then do
    let b ← byteAt limit text i
    if b = Ascii.openParen then do
      require (depth + 1 ≤ limit) .tooLarge
      closeFrom limit text (depth + 1) (i + 1)
    else if b = Ascii.closeParen then do
      require (1 ≤ depth) .belowZero
      if depth - 1 = 0 then return some (i + 1)
      else closeFrom limit text (depth - 1) (i + 1)
    else if Ascii.isQuote b then
      match _found : skipLiteral limit text b (i + 1) with
      | .ok j => closeFrom limit text depth j
      | .error fault => .error fault
    else closeFrom limit text depth (i + 1)
  else return none
termination_by text.length - i
decreasing_by
  · omega
  · omega
  · have bounds := skipLiteral_bounds _found
    omega
  · omega

/-- Offset just past the argument list that opens at or after `start`. -/
def argumentsEnd (limit : Nat) (text : Bytes) (start : Nat) : Except Fault (Option Nat) := do
  let i ← skipBlanks limit text start
  if text[i]? = some Ascii.openParen then closeFrom limit text 0 i else return none

/-- Scans on from an offset, in a block comment or in code. -/
def scanFrom (limit : Nat) (text : Bytes) (inComment : Bool) (i : Nat) : Except Fault (Option Nat × Scanner) :=
  if i < text.length then do
    let b ← byteAt limit text i
    let next := text[i + 1]?
    if inComment then
      if b = Ascii.star ∧ next = some Ascii.slash then scanFrom limit text false (i + 2)
      else scanFrom limit text true (i + 1)
    else if b = Ascii.slash ∧ next = some Ascii.slash then return (none, ⟨false⟩)
    else if b = Ascii.slash ∧ next = some Ascii.star then scanFrom limit text true (i + 2)
    else if Ascii.isQuote b then
      match _found : skipLiteral limit text b (i + 1) with
      | .ok j => scanFrom limit text false j
      | .error fault => .error fault
    else if b = Ascii.semicolon then return (some i, ⟨false⟩)
    else scanFrom limit text false (i + 1)
  else return (none, ⟨inComment⟩)
termination_by text.length - i
decreasing_by
  · omega
  · omega
  · omega
  · have bounds := skipLiteral_bounds _found
    omega
  · omega

end Offsets

theorem ArgumentList.close_backslash {quote : UInt8} {depth offset : Nat} (rest : Bytes) :
    close (some quote) depth offset (Ascii.backslash :: rest) =
      close (some quote) depth (offset + 2) rest.tail := by
  cases rest with
  | nil => simp only [close, if_true, List.tail_nil]
  | cons b rest => exact close_hidden

namespace Scanner

theorem scan_code_cons (offset : Nat) (b : UInt8) (rest : Bytes) :
    scan .code offset (b :: rest) =
      if b = Ascii.slash ∧ rest.head? = some Ascii.slash then (none, ⟨false⟩)
      else if b = Ascii.slash ∧ rest.head? = some Ascii.star then scan .comment (offset + 2) rest.tail
      else if b = Ascii.semicolon then (some offset, ⟨false⟩)
      else scan (if Ascii.isQuote b then .literal b else .code) (offset + 1) rest := by
  cases rest with
  | nil =>
    have ended : ofPlace (if Ascii.isQuote b then .literal b else .code) = ⟨false⟩ := by split <;> rfl
    simp only [scan, ended, List.head?_nil, reduceCtorEq, and_false, if_false, true_and]
    rfl
  | cons c rest =>
    simp only [scan, List.head?_cons, List.tail_cons, Option.some.injEq]
    rfl

theorem scan_comment_cons (offset : Nat) (b : UInt8) (rest : Bytes) :
    scan .comment offset (b :: rest) =
      if b = Ascii.star ∧ rest.head? = some Ascii.slash then scan .code (offset + 2) rest.tail
      else scan .comment (offset + 1) rest := by
  cases rest with
  | nil => simp [scan]
  | cons c rest => simp only [scan, List.head?_cons, List.tail_cons, Option.some.injEq]

theorem scan_literal_cons (quote : UInt8) (offset : Nat) (b : UInt8) (rest : Bytes) :
    scan (.literal quote) offset (b :: rest) =
      if b = Ascii.backslash then scan (.literal quote) (offset + 2) rest.tail
      else scan (if b = quote then .code else .literal quote) (offset + 1) rest := by
  cases rest with
  | nil =>
    have ended : ofPlace (if b = quote then .code else .literal quote) = ⟨false⟩ := by split <;> rfl
    have open' : ofPlace (.literal quote) = ⟨false⟩ := rfl
    simp only [scan, ended, open', List.tail_nil, reduceCtorEq, false_and, if_false, ite_self]
  | cons c rest => simp only [scan, List.tail_cons]

end Scanner

namespace Offsets

variable {limit i : Nat} {text needle : Bytes}

theorem byteAt_eq (room : text.length < limit) (inside : i < text.length) : byteAt limit text i = .ok text[i] := by
  have small : i + 2 ≤ limit := by omega
  rw [byteAt, if_pos small, List.getElem?_eq_getElem inside]

theorem slice_eq {start stop : Nat} (ordered : start ≤ stop) (within : stop ≤ text.length) :
    slice text start stop = .ok ((text.take stop).drop start) :=
  if_pos ⟨ordered, within⟩

theorem slice_length {start size : Nat} (within : start + size ≤ text.length) :
    slice text start (start + size) = .ok ((text.drop start).take size) := by
  rw [slice_eq (Nat.le_add_right start size) within, List.drop_take, Nat.add_sub_cancel_left]

/-- Where no window is left, the needle does not fit either. -/
theorem indexFrom_eq_none_of_short {offset : Nat} (short : text.length < needle.length) :
    Bytes.indexFrom needle offset text = none := by
  cases found : Bytes.indexFrom needle offset text with
  | none => rfl
  | some k =>
    obtain ⟨i, _, stands, _⟩ := Bytes.indexFrom_eq_some found
    have length := stands.length_le
    rw [List.length_drop] at length
    omega

theorem findFrom_eq (needed : needle ≠ []) (i : Nat) :
    findFrom text needle i = .ok (Bytes.indexFrom needle i (text.drop i)) := by
  have positive := List.length_pos_iff.mpr needed
  by_cases within : i + needle.length ≤ text.length
  · have inside : i < text.length := by omega
    have window : needle.isPrefixOf (text.drop i) = true ↔ (text.drop i).take needle.length = needle := by
      rw [List.isPrefixOf_iff_prefix, List.prefix_iff_eq_take, eq_comm]
    rw [findFrom, if_pos within, slice_length within]
    change (if (text.drop i).take needle.length = needle then _ else _) = _
    rw [List.drop_eq_getElem_cons inside] at window ⊢
    rw [Bytes.indexFrom]
    by_cases here : (text[i] :: text.drop (i + 1)).take needle.length = needle
    · rw [if_pos here, if_pos (window.mpr here)]
      rfl
    · rw [if_neg here, if_neg fun starts => here (window.mp starts)]
      exact findFrom_eq needed (i + 1)
  · have short : (text.drop i).length < needle.length := by
      rw [List.length_drop]
      omega
    rw [findFrom, if_neg within, indexFrom_eq_none_of_short short]
    rfl
termination_by text.length - i

theorem find_eq (text needle : Bytes) : find text needle = .ok (text.indexOf? needle) := by
  rw [find, Bytes.indexOf?]
  split
  next empty =>
    rw [List.isEmpty_iff.mp empty]
    cases text <;> rfl
  next present =>
    have needed : needle ≠ [] := fun none => present (List.isEmpty_iff.mpr none)
    rw [require, if_pos (List.length_pos_iff.mpr needed)]
    exact findFrom_eq needed 0

/-- Behind a literal, both readers go on in the same place. -/
theorem skipLiteral_eq (room : text.length < limit) (quote : UInt8) (i : Nat) :
    ∃ j, skipLiteral limit text quote i = .ok j ∧
      (∀ depth, ArgumentList.close (some quote) depth i (text.drop i) =
        ArgumentList.close none depth j (text.drop j)) ∧
      Scanner.scan (.literal quote) i (text.drop i) = Scanner.scan .code j (text.drop j) := by
  by_cases inside : i < text.length
  · rw [List.drop_eq_getElem_cons inside, skipLiteral, if_pos inside, byteAt_eq room inside]
    change ∃ j, (if text[i] = Ascii.backslash then _ else _) = _ ∧ _
    rw [Scanner.scan_literal_cons, List.tail_drop]
    split
    next hidden =>
      obtain ⟨j, found, closes, scans⟩ := skipLiteral_eq room quote (i + 2)
      refine ⟨j, found, fun depth => ?_, scans⟩
      rw [hidden, ArgumentList.close_backslash, List.tail_drop]
      exact closes depth
    next shown =>
      simp only [ArgumentList.close_shown shown]
      split
      next ends => exact ⟨i + 1, rfl, fun depth => rfl, rfl⟩
      next goesOn => exact skipLiteral_eq room quote (i + 1)
  · have none : text.drop i = [] := List.drop_eq_nil_of_le (by omega)
    refine ⟨text.length, by rw [skipLiteral, if_neg inside]; rfl, fun depth => ?_, ?_⟩
    · rw [none, List.drop_length]
      rfl
    · rw [none, List.drop_length]
      rfl
termination_by text.length - i

theorem skipBlanks_eq (room : text.length < limit) (i : Nat) :
    skipBlanks limit text i = .ok (i + ((text.drop i).takeWhile Ascii.isBlank).length) := by
  by_cases inside : i < text.length
  · rw [List.drop_eq_getElem_cons inside, skipBlanks, if_pos inside, byteAt_eq room inside]
    change (if Ascii.isBlank text[i] = true then _ else _) = _
    split
    next blank =>
      rw [skipBlanks_eq room (i + 1), List.takeWhile_cons_of_pos blank, List.length_cons]
      congr 1
      omega
    next stops =>
      rw [List.takeWhile_cons_of_neg stops]
      rfl
  · rw [skipBlanks, if_neg inside, List.drop_eq_nil_of_le (by omega)]
    rfl
termination_by text.length - i

/-- The count of open lists is never taken below zero, since the search starts at a parenthesis that opens one and ends
where that is closed. -/
theorem closeFrom_eq (room : text.length < limit) {depth i : Nat} (counted : depth ≤ i)
    (opened : depth = 0 → text[i]? = some Ascii.openParen) :
    closeFrom limit text depth i = .ok (ArgumentList.close none depth i (text.drop i)) := by
  by_cases inside : i < text.length
  · rw [List.getElem?_eq_getElem inside, Option.some.injEq] at opened
    rw [List.drop_eq_getElem_cons inside, closeFrom, if_pos inside, byteAt_eq room inside, ArgumentList.close]
    change (if text[i] = Ascii.openParen then _ else _) = _
    split
    next =>
      have small : depth + 1 ≤ limit := by omega
      rw [require, if_pos small]
      have counted' : depth + 1 ≤ i + 1 := by omega
      exact closeFrom_eq room counted' (by omega)
    next other =>
      have positive : 1 ≤ depth := Nat.one_le_iff_ne_zero.mpr fun none => other (opened none)
      split
      next =>
        rw [require, if_pos positive]
        change (if depth - 1 = 0 then _ else _) = _
        by_cases outermost : depth ≤ 1
        · rw [if_pos outermost, if_pos (by omega)]
          rfl
        · rw [if_neg outermost, if_neg (by omega)]
          have counted' : depth - 1 ≤ i + 1 := by omega
          exact closeFrom_eq room counted' (by omega)
      next =>
        split
        next isQuote =>
          obtain ⟨j, found, closes, _⟩ := skipLiteral_eq room text[i] (i + 1)
          have bounds := skipLiteral_bounds found
          split
          next j' found' =>
            obtain rfl : j = j' := Except.ok.inj (found.symm.trans found')
            rw [closes]
            exact closeFrom_eq (i := j) room (by omega) (by omega)
          next fault failed => cases found.symm.trans failed
        next => exact closeFrom_eq (i := i + 1) room (by omega) (by omega)
  · rw [closeFrom, if_neg inside, List.drop_eq_nil_of_le (by omega)]
    rfl
termination_by text.length - i

theorem argumentsEnd_eq (room : text.length < limit) (start : Nat) :
    argumentsEnd limit text start = .ok (ArgumentList.end? text start) := by
  rw [argumentsEnd, skipBlanks_eq room, ArgumentList.end?, List.head?_drop, List.getElem?_drop, List.drop_drop]
  change (if _ then _ else _) = _
  split
  next opens => exact closeFrom_eq room (Nat.zero_le _) fun _ => opens
  next => rfl

theorem scanFrom_eq (room : text.length < limit) (inComment : Bool) (i : Nat) :
    scanFrom limit text inComment i =
      .ok (Scanner.scan (if inComment then .comment else .code) i (text.drop i)) := by
  by_cases inside : i < text.length
  · rw [List.drop_eq_getElem_cons inside, scanFrom, if_pos inside, byteAt_eq room inside]
    change (if inComment = true then _ else _) = _
    cases inComment with
    | true =>
      rw [if_pos rfl, if_pos rfl, Scanner.scan_comment_cons, List.head?_drop, List.tail_drop]
      split
      · exact scanFrom_eq room false (i + 2)
      · exact scanFrom_eq room true (i + 1)
    | false =>
      simp only [Bool.false_eq_true, if_false, Scanner.scan_code_cons, List.head?_drop, List.tail_drop]
      split
      · rfl
      split
      · exact scanFrom_eq room true (i + 2)
      split
      next isQuote =>
        have noEnd : text[i] ≠ Ascii.semicolon := by
          intro same
          rw [same] at isQuote
          cases isQuote
        obtain ⟨j, found, _, scans⟩ := skipLiteral_eq room text[i] (i + 1)
        have bounds := skipLiteral_bounds found
        rw [if_neg noEnd, scans]
        split
        next j' found' =>
          obtain rfl : j = j' := Except.ok.inj (found.symm.trans found')
          exact scanFrom_eq room false j
        next fault failed => cases found.symm.trans failed
      next =>
        split
        · rfl
        · exact scanFrom_eq room false (i + 1)
  · rw [scanFrom, if_neg inside, List.drop_eq_nil_of_le (by omega)]
    cases inComment <;> rfl
termination_by text.length - i

end Offsets

end Amalgam
