import Amalgam.Statement.ArgumentList

namespace Amalgam.ArgumentList

/-- What stands between the quotes of a literal: a backslash hides the byte behind it. -/
inductive IsQuoted (quote : UInt8) : Bytes → Prop
  | nil : IsQuoted quote []
  | plain {b rest} : b ≠ quote → b ≠ Ascii.backslash → IsQuoted quote rest → IsQuoted quote (b :: rest)
  | hidden {b rest} : IsQuoted quote rest → IsQuoted quote (Ascii.backslash :: b :: rest)

def IsLiteral (text : Bytes) : Prop :=
  ∃ quote body, Ascii.isQuote quote = true ∧ IsQuoted quote body ∧ text = quote :: body ++ [quote]

/-- An item of a list: any byte but a parenthesis or a quote, a literal, or a list of its own. -/
inductive IsItem : Bytes → Prop
  | byte {b} : b ≠ Ascii.openParen → b ≠ Ascii.closeParen → Ascii.isQuote b = false → IsItem [b]
  | literal {text} : IsLiteral text → IsItem text
  | list {items : List Bytes} : (∀ item ∈ items, IsItem item) →
      IsItem (Ascii.openParen :: items.flatten ++ [Ascii.closeParen])

def IsList (text : Bytes) : Prop :=
  ∃ items : List Bytes, (∀ item ∈ items, IsItem item) ∧
    text = Ascii.openParen :: items.flatten ++ [Ascii.closeParen]

/-- An argument list with blanks before it. -/
def IsCall (text : Bytes) : Prop :=
  ∃ blanks list, (∀ b ∈ blanks, Ascii.isBlank b = true) ∧ IsList list ∧ text = blanks ++ list

variable {quote b : UInt8} {depth offset stop start : Nat} {rest text item more : Bytes} {items : List Bytes}

theorem quote_cases (isQuote : Ascii.isQuote quote = true) :
    quote ≠ Ascii.backslash ∧ quote ≠ Ascii.openParen ∧ quote ≠ Ascii.closeParen := by
  simp only [Ascii.isQuote, Bool.or_eq_true, beq_iff_eq] at isQuote
  rcases isQuote with rfl | rfl <;> decide

theorem close_hidden : close (some quote) depth offset (Ascii.backslash :: b :: rest) =
    close (some quote) depth (offset + 2) rest := by
  simp only [close, if_true]

theorem close_shown (shown : b ≠ Ascii.backslash) : close (some quote) depth offset (b :: rest) =
    close (if b = quote then none else some quote) depth (offset + 1) rest := by
  cases rest <;> simp only [close, if_neg shown]

theorem close_quoted (isQuote : Ascii.isQuote quote = true) {body : Bytes} (quoted : IsQuoted quote body) :
    close (some quote) depth offset (body ++ quote :: rest) = close none depth (offset + body.length + 1) rest := by
  induction quoted generalizing offset with
  | nil => rw [List.nil_append, close_shown (quote_cases isQuote).1, if_pos rfl, List.length_nil, Nat.add_zero]
  | plain other shown _ ih =>
    rw [List.cons_append, close_shown shown, if_neg other, ih, List.length_cons]
    congr 1
    omega
  | hidden _ ih =>
    rw [List.cons_append, List.cons_append, close_hidden, ih, List.length_cons, List.length_cons]
    congr 1
    omega

/-- Inside a list, a text of this kind is read without a change to the number of open parentheses. -/
def Passes (text : Bytes) : Prop :=
  ∀ depth offset rest, close none (depth + 1) offset (text ++ rest) =
    close none (depth + 1) (offset + text.length) rest

theorem passes_flatten (each : ∀ item ∈ items, Passes item) : Passes items.flatten := by
  induction items with
  | nil =>
    intro depth offset rest
    rfl
  | cons item items ih =>
    rw [List.forall_mem_cons] at each
    intro depth offset rest
    rw [List.flatten_cons, List.append_assoc, each.1, ih each.2, List.length_append, Nat.add_assoc]

theorem IsItem.passes (isItem : IsItem item) : Passes item := by
  induction isItem with
  | byte noOpen noClose noQuote =>
    intro depth offset rest
    rw [List.singleton_append, close, if_neg noOpen, if_neg noClose, noQuote]
    rfl
  | literal isLiteral =>
    obtain ⟨quote, body, isQuote, quoted, rfl⟩ := isLiteral
    obtain ⟨_, noOpen, noClose⟩ := quote_cases isQuote
    intro depth offset rest
    rw [List.append_assoc, List.singleton_append, List.cons_append, close, if_neg noOpen, if_neg noClose, isQuote,
      if_pos rfl, close_quoted isQuote quoted]
    congr 1
    simp only [List.length_append, List.length_cons, List.length_nil]
    omega
  | @list items _ ih =>
    intro depth offset rest
    have inner := passes_flatten ih (depth + 1) (offset + 1) (Ascii.closeParen :: rest)
    have deeper : ¬ depth + 1 + 1 ≤ 1 := by omega
    have noOpen : Ascii.closeParen ≠ Ascii.openParen := by decide
    rw [List.append_assoc, List.singleton_append, List.cons_append, close, if_pos rfl, inner, close, if_neg noOpen,
      if_pos rfl, if_neg deeper]
    congr 1
    simp only [List.length_append, List.length_cons, List.length_nil]
    omega

theorem close_of_isList {list : Bytes} (isList : IsList list) :
    close none 0 offset (list ++ rest) = some (offset + list.length) := by
  obtain ⟨items, each, rfl⟩ := isList
  have inner := passes_flatten (fun item member => (each item member).passes) 0 (offset + 1)
    (Ascii.closeParen :: rest)
  have noOpen : Ascii.closeParen ≠ Ascii.openParen := by decide
  rw [List.append_assoc, List.singleton_append, List.cons_append, close, if_pos rfl, inner, close, if_neg noOpen,
    if_pos rfl, if_pos (by omega)]
  simp only [List.length_append, List.length_cons, List.length_nil, Option.some.injEq]
  omega

/-- A text that closes so many lists, each behind the items that are left of it. -/
def Closes : Nat → Bytes → Prop
  | 0, text => text = []
  | depth + 1, text => ∃ (items : List Bytes) (more : Bytes), (∀ item ∈ items, IsItem item) ∧
      Closes depth more ∧ text = items.flatten ++ Ascii.closeParen :: more

theorem Closes.append_item (isItem : IsItem item) (closes : Closes (depth + 1) text) : Closes (depth + 1) (item ++ text) := by
  obtain ⟨items, more, each, closes, rfl⟩ := closes
  refine ⟨item :: items, more, List.forall_mem_cons.mpr ⟨isItem, each⟩, closes, ?_⟩
  rw [List.flatten_cons, List.append_assoc]

theorem Closes.cons_close (closes : Closes depth text) : Closes (depth + 1) (Ascii.closeParen :: text) :=
  ⟨[], text, nofun, closes, rfl⟩

/-- A list that is opened is an item of the list around it once it is closed. -/
theorem Closes.cons_open (closes : Closes (depth + 2) text) : Closes (depth + 1) (Ascii.openParen :: text) := by
  obtain ⟨items, more, each, closes, rfl⟩ := closes
  have inner := Closes.append_item (.list each) closes
  rwa [List.append_assoc, List.singleton_append, List.cons_append] at inner

/-- What is left of a literal, if the search is in one, and of the lists around it. -/
def Ends : Option UInt8 → Nat → Bytes → Prop
  | none, depth, text => Closes depth text
  | some quote, depth, text =>
    ∃ body more, IsQuoted quote body ∧ Closes depth more ∧ text = body ++ quote :: more

/-- The search reads up to the end of the list and no further. -/
theorem ends_of_close {state : Option UInt8} {bytes : Bytes} (positive : 0 < depth)
    (found : close state depth offset bytes = some stop) :
    ∃ taken rest, bytes = taken ++ rest ∧ stop = offset + taken.length ∧ Ends state depth taken := by
  fun_induction close state depth offset bytes with
  | case1 => cases found
  | case2 => cases found
  | case3 quote depth offset b rest ih =>
    obtain ⟨taken, left, rfl, rfl, body, more, quoted, closes, rfl⟩ := ih positive found
    refine ⟨Ascii.backslash :: b :: (body ++ quote :: more), left, rfl, ?_, ?_⟩
    · simp only [List.length_cons, List.length_append]
      omega
    · exact ⟨Ascii.backslash :: b :: body, more, .hidden quoted, closes, rfl⟩
  | case4 quote depth offset b rest shown ih =>
    obtain ⟨taken, left, rfl, rfl, ends⟩ := ih positive found
    refine ⟨b :: taken, left, rfl, by simp only [List.length_cons]; omega, ?_⟩
    split at ends
    next same =>
      subst same
      exact ⟨[], taken, .nil, ends, rfl⟩
    next other =>
      obtain ⟨body, more, quoted, closes, rfl⟩ := ends
      exact ⟨b :: body, more, .plain other shown quoted, closes, rfl⟩
  | case5 depth offset rest ih =>
    obtain ⟨taken, left, rfl, rfl, ends⟩ := ih (Nat.succ_pos depth) found
    refine ⟨Ascii.openParen :: taken, left, rfl, by simp only [List.length_cons]; omega, ?_⟩
    obtain ⟨outer, rfl⟩ := Nat.exists_eq_succ_of_ne_zero (Nat.ne_of_gt positive)
    exact Closes.cons_open ends
  | case6 depth offset rest last _ =>
    cases found
    obtain rfl : depth = 1 := by omega
    exact ⟨[Ascii.closeParen], rest, rfl, rfl, Closes.cons_close rfl⟩
  | case7 depth offset rest inner _ ih =>
    obtain ⟨taken, left, rfl, rfl, ends⟩ := ih (by omega) found
    refine ⟨Ascii.closeParen :: taken, left, rfl, by simp only [List.length_cons]; omega, ?_⟩
    obtain ⟨outer, rfl⟩ := Nat.exists_eq_succ_of_ne_zero (Nat.ne_of_gt positive)
    exact Closes.cons_close ends
  | case8 depth offset b rest noOpen noClose ih =>
    obtain ⟨taken, left, rfl, rfl, ends⟩ := ih positive found
    refine ⟨b :: taken, left, rfl, by simp only [List.length_cons]; omega, ?_⟩
    obtain ⟨outer, rfl⟩ := Nat.exists_eq_succ_of_ne_zero (Nat.ne_of_gt positive)
    split at ends
    next isQuote =>
      obtain ⟨body, more, quoted, closes, rfl⟩ := ends
      have literal : IsItem (b :: body ++ [b]) := .literal ⟨b, body, isQuote, quoted, rfl⟩
      have longer := Closes.append_item literal closes
      rwa [List.append_assoc, List.singleton_append, List.cons_append] at longer
    next noQuote =>
      exact Closes.append_item (.byte noOpen noClose (Bool.eq_false_iff.mpr noQuote)) ends

theorem IsList.cons_open {list : Bytes} (isList : IsList list) : ∃ inner, list = Ascii.openParen :: inner := by
  obtain ⟨items, _, rfl⟩ := isList
  exact ⟨items.flatten ++ [Ascii.closeParen], rfl⟩

theorem end?_eq (bytes : Bytes) (start : Nat) :
    ArgumentList.end? bytes start = if ((bytes.drop start).dropWhile Ascii.isBlank).head? = some Ascii.openParen then
      close none 0 (start + ((bytes.drop start).takeWhile Ascii.isBlank).length)
        ((bytes.drop start).dropWhile Ascii.isBlank) else none := by
  have parts := List.takeWhile_append_dropWhile (p := Ascii.isBlank) (l := bytes.drop start)
  have behind : (bytes.drop start).drop ((bytes.drop start).takeWhile Ascii.isBlank).length =
      (bytes.drop start).dropWhile Ascii.isBlank :=
    (congrArg (List.drop _) parts.symm).trans List.drop_left
  rw [end?, behind]

/-- A list is found exactly if one follows, blanks apart, and the search stops behind it. -/
theorem end?_eq_some_iff {bytes : Bytes} :
    ArgumentList.end? bytes start = some stop ↔ ∃ blanks list rest, bytes.drop start = blanks ++ (list ++ rest) ∧
      (∀ b ∈ blanks, Ascii.isBlank b = true) ∧ IsList list ∧ stop = start + (blanks.length + list.length) := by
  rw [end?_eq]
  constructor
  · intro found
    split at found
    next opens =>
      obtain ⟨inner, list⟩ := List.head?_eq_some_iff.mp opens
      have parts := List.takeWhile_append_dropWhile (p := Ascii.isBlank) (l := bytes.drop start)
      rw [list, close, if_pos rfl] at found
      rw [list] at parts
      obtain ⟨taken, rest, rfl, rfl, items, more, each, none, rfl⟩ := ends_of_close (Nat.succ_pos 0) found
      obtain rfl : more = [] := none
      refine ⟨_, Ascii.openParen :: items.flatten ++ [Ascii.closeParen], rest, parts.symm, ?_, ⟨items, each, rfl⟩, ?_⟩
      · exact List.all_eq_true.mp List.all_takeWhile
      · simp only [List.length_cons, List.length_append, List.length_nil]
        omega
    next => cases found
  · rintro ⟨blanks, list, rest, parts, blank, isList, rfl⟩
    obtain ⟨inner, opens⟩ := isList.cons_open
    have front : (bytes.drop start).takeWhile Ascii.isBlank = blanks := by
      rw [parts, List.takeWhile_append_of_pos blank, opens, List.cons_append, List.takeWhile_cons_of_neg (by decide),
        List.append_nil]
    have behind : (bytes.drop start).dropWhile Ascii.isBlank = list ++ rest := by
      rw [parts, List.dropWhile_append_of_pos blank, opens, List.cons_append, List.dropWhile_cons_of_neg (by decide)]
    rw [front, behind, if_pos (by rw [opens]; rfl), close_of_isList isList, Nat.add_assoc]

/-- The search stops exactly where the grammar has the end of a list that follows the start, blanks apart. No
two places can be such an end. -/
theorem end?_recognises_call (bytes : Bytes) (start : Nat) :
    (∀ stop, end? bytes start = some stop ↔
      start < stop ∧ stop ≤ bytes.length ∧ IsCall ((bytes.take stop).drop start)) ∧
    (end? bytes start = none ↔
      ∀ stop, ¬ (start < stop ∧ stop ≤ bytes.length ∧ IsCall ((bytes.take stop).drop start))) := by
  have found : ∀ stop, end? bytes start = some stop ↔
      start < stop ∧ stop ≤ bytes.length ∧ IsCall ((bytes.take stop).drop start) := by
    intro stop
    rw [end?_eq_some_iff]
    constructor
    · rintro ⟨blanks, list, rest, parts, blank, isList, rfl⟩
      obtain ⟨inner, opens⟩ := isList.cons_open
      have length := congrArg List.length parts
      simp only [List.length_drop, List.length_append] at length
      have positive : 0 < list.length := by simp only [opens, List.length_cons, Nat.succ_pos]
      refine ⟨by omega, by omega, blanks, list, blank, isList, ?_⟩
      rw [List.drop_take, parts, Nat.add_sub_cancel_left, ← List.append_assoc, ← List.length_append, List.take_left]
    · rintro ⟨before, within, blanks, list, blank, isList, parts⟩
      have length := congrArg List.length parts
      simp only [List.length_drop, List.length_take, List.length_append, Nat.min_eq_left within] at length
      refine ⟨blanks, list, bytes.drop stop, ?_, blank, isList, by omega⟩
      rw [← List.append_assoc, ← parts, ← List.drop_append_of_le_length, List.take_append_drop]
      rw [List.length_take]
      omega
  refine ⟨found, ?_⟩
  rw [Option.eq_none_iff_forall_ne_some]
  exact forall_congr' fun stop => not_congr (found stop)

/-- The first parenthesis that closes stands in a literal, and the second one closes an inner list. -/
example : end? (Bytes.ofString "X (\")\", f(1)) tail") 1 = some 13 := by decide

end Amalgam.ArgumentList
