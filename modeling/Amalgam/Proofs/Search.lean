import Amalgam.Text.Bytes

namespace Amalgam.Bytes

variable {needle haystack first second : Bytes}

/-- The search stops at the first place where the needle stands. -/
theorem indexFrom_eq_some {offset k : Nat} (found : indexFrom needle offset haystack = some k) :
    ∃ i, k = offset + i ∧ needle <+: haystack.drop i ∧ ∀ j < i, ¬ needle <+: haystack.drop j := by
  induction haystack generalizing offset with
  | nil =>
    simp only [indexFrom, List.isEmpty_iff, Option.ite_none_right_eq_some, Option.some.injEq] at found
    obtain ⟨rfl, rfl⟩ := found
    exact ⟨0, rfl, List.nil_prefix, fun j before => absurd before (Nat.not_lt_zero j)⟩
  | cons b rest ih =>
    rw [indexFrom] at found
    split at found
    next here =>
      cases found
      exact ⟨0, rfl, List.isPrefixOf_iff_prefix.mp here, fun j before => absurd before (Nat.not_lt_zero j)⟩
    next elsewhere =>
      obtain ⟨i, rfl, stands, earliest⟩ := ih found
      refine ⟨i + 1, by omega, stands, ?_⟩
      intro j before
      cases j with
      | zero => exact fun starts => elsewhere (List.isPrefixOf_iff_prefix.mpr starts)
      | succ j => exact earliest j (by omega)

theorem indexFrom_eq_none {offset : Nat} (absent : indexFrom needle offset haystack = none) :
    ¬ needle <:+: haystack := by
  induction haystack generalizing offset with
  | nil =>
    simp only [indexFrom, List.isEmpty_iff, ite_eq_right_iff, reduceCtorEq, imp_false] at absent
    rwa [List.infix_nil]
  | cons b rest ih =>
    rw [indexFrom] at absent
    split at absent
    next => cases absent
    next elsewhere =>
      rw [List.infix_cons_iff, not_or]
      exact ⟨fun starts => elsewhere (List.isPrefixOf_iff_prefix.mpr starts), ih absent⟩

theorem contains_iff : haystack.contains needle = true ↔ needle <:+: haystack := by
  rw [contains, indexOf?]
  cases found : indexFrom needle 0 haystack with
  | none => simpa only [Option.isSome_none, Bool.false_eq_true, false_iff] using indexFrom_eq_none found
  | some k =>
    obtain ⟨i, _, stands, _⟩ := indexFrom_eq_some found
    simpa only [Option.isSome_some, true_iff] using stands.isInfix.trans (List.drop_suffix i haystack).isInfix

theorem contains_eq_false_iff : haystack.contains needle = false ↔ ¬ needle <:+: haystack := by
  rw [← contains_iff, Bool.not_eq_true]

theorem contains_take_eq_false {k : Nat} (found : haystack.indexOf? needle = some k) (needed : needle ≠ []) :
    Bytes.contains (haystack.take k) needle = false := by
  obtain ⟨i, index, _, earliest⟩ := indexFrom_eq_some found
  rw [Nat.zero_add] at index
  subst index
  rw [contains_eq_false_iff]
  rintro ⟨before, behind, whole⟩
  have length := congrArg List.length whole
  have room := List.length_pos_iff.mpr needed
  simp only [List.length_append, List.length_take] at length
  refine earliest before.length (by omega) ?_
  have taken : haystack = before ++ (needle ++ (behind ++ haystack.drop k)) := by
    rw [← List.append_assoc, ← List.append_assoc, whole, List.take_append_drop]
  rw [taken, List.drop_left]
  exact List.prefix_append _ _

theorem prefix_of_prefix_append_cons {b : UInt8} (absent : b ∉ needle) (first : Bytes)
    (starts : needle <+: first ++ b :: second) : needle <+: first := by
  induction first generalizing needle with
  | nil =>
    rcases List.prefix_cons_iff.mp starts with rfl | ⟨rest, rfl, _⟩
    · exact List.prefix_rfl
    · exact absurd List.mem_cons_self absent
  | cons c first ih =>
    rcases List.prefix_cons_iff.mp starts with rfl | ⟨rest, rfl, later⟩
    · exact List.nil_prefix
    · exact List.cons_prefix_cons.mpr ⟨rfl, ih (fun member => absent (List.mem_cons_of_mem c member)) later⟩

/-- A needle that lacks the byte of a seam stands on one side of it. -/
theorem contains_seam {b : UInt8} (absent : b ∉ needle) :
    Bytes.contains (first ++ b :: second) needle = true ↔
      first.contains needle = true ∨ second.contains needle = true := by
  simp only [contains_iff]
  constructor
  · intro stands
    induction first with
    | nil =>
      rcases List.infix_cons_iff.mp stands with starts | later
      · exact Or.inl (prefix_of_prefix_append_cons absent [] starts).isInfix
      · exact Or.inr later
    | cons c first ih =>
      rcases List.infix_cons_iff.mp stands with starts | later
      · exact Or.inl (prefix_of_prefix_append_cons absent (c :: first) starts).isInfix
      · exact (ih later).imp_left List.infix_cons
  · rintro (stands | stands)
    · exact stands.trans (List.prefix_append _ _).isInfix
    · exact stands.trans ((List.suffix_cons b second).trans (List.suffix_append _ _)).isInfix

end Amalgam.Bytes
