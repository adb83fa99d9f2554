import Amalgam.Text.Line

namespace Amalgam

/-- A line that ends in a newline and has no other. -/
def Bytes.IsWhole (line : Bytes) : Prop :=
  Ascii.newline ∉ line.dropLast ∧ line.getLast? = some Ascii.newline

/-- Lines as a file has them: a newline stands only at the end of a line, and only the last line may
lack it. -/
structure Bytes.AreLines (lines : List Bytes) : Prop where
  inner : ∀ line ∈ lines, Ascii.newline ∉ line.dropLast
  ended : ∀ line ∈ lines.dropLast, line.getLast? = some Ascii.newline

instance (lines : List Bytes) : Decidable (Bytes.AreLines lines) :=
  decidable_of_iff ((∀ line ∈ lines, Ascii.newline ∉ line.dropLast) ∧
      ∀ line ∈ lines.dropLast, line.getLast? = some Ascii.newline)
    ⟨fun both => ⟨both.1, both.2⟩, fun split => ⟨split.inner, split.ended⟩⟩

theorem Bytes.AreLines.whole {lines : List Bytes} (split : Bytes.AreLines lines) {j : Nat}
    (inside : j < lines.length) : ∀ line ∈ lines.take j, line.IsWhole := by
  intro line member
  refine ⟨split.inner line (List.mem_of_mem_take member), split.ended line ?_⟩
  have earlier : lines.take j <+: lines.dropLast := by
    rw [List.dropLast_eq_take]
    exact List.take_prefix_take_left (by omega)
  exact earlier.subset member

theorem Bytes.AreLines.tail {line : Bytes} {lines : List Bytes} (split : Bytes.AreLines (line :: lines)) :
    Bytes.AreLines lines := by
  refine ⟨fun other member => split.inner other (List.mem_cons_of_mem _ member), ?_⟩
  intro other member
  cases lines with
  | nil => exact absurd member List.not_mem_nil
  | cons next lines => exact split.ended other (List.mem_cons_of_mem _ member)

theorem Bytes.AreLines.take {lines : List Bytes} (split : Bytes.AreLines lines) (n : Nat) :
    Bytes.AreLines (lines.take n) := by
  refine ⟨fun line member => split.inner line (List.mem_of_mem_take member), ?_⟩
  intro line member
  have earlier : (lines.take n).dropLast <+: lines.dropLast := by
    rw [List.dropLast_eq_take, List.dropLast_eq_take, List.take_take, List.length_take]
    exact List.take_prefix_take_left (by omega)
  exact split.ended line (earlier.subset member)

theorem Bytes.newline_notMem_drop {line : Bytes} (inner : Ascii.newline ∉ line.dropLast) (k : Nat) :
    Ascii.newline ∉ (line.drop k).dropLast := by
  have length : line.length - k - 1 = line.length - 1 - k := by omega
  rw [List.dropLast_eq_take, List.length_drop, length, ← List.drop_take, ← List.dropLast_eq_take]
  intro member
  exact inner (List.mem_of_mem_drop member)

theorem Bytes.newline_notMem_of_unended {line : Bytes} (inner : Ascii.newline ∉ line.dropLast)
    (unended : line.getLast? ≠ some Ascii.newline) : Ascii.newline ∉ line := by
  intro member
  rcases List.eq_nil_or_concat line with rfl | ⟨body, last, rfl⟩
  · exact List.not_mem_nil member
  · rw [List.concat_eq_append] at member inner unended
    rw [List.dropLast_concat] at inner
    rcases List.mem_append.mp member with within | ends
    · exact inner within
    · exact unended (by rw [List.getLast?_concat, List.mem_singleton.mp ends])

namespace Line

/-- What stands behind a line before something can follow on a line of its own. -/
def gap (line : Bytes) : Bytes :=
  if line.getLast? = some Ascii.newline then [] else [Ascii.newline]

/-- A line without a terminator is its own body, and otherwise the newline is the last byte. -/
theorem ofBytes_cases (line : Bytes) :
    (line.getLast? ≠ some Ascii.newline ∧ ofBytes line = ⟨line, []⟩) ∨
      ∃ body, line = body ++ [Ascii.newline] ∧
        (ofBytes line = ⟨body, [Ascii.newline]⟩ ∨
          ofBytes line = ⟨body.dropLast, [Ascii.carriageReturn, Ascii.newline]⟩) := by
  rcases List.eq_nil_or_concat line with rfl | ⟨body, last, rfl⟩
  · exact Or.inl ⟨by simp, rfl⟩
  rw [List.concat_eq_append]
  by_cases newline : last = Ascii.newline
  · subst newline
    refine Or.inr ⟨body, rfl, ?_⟩
    rcases List.eq_nil_or_concat body with rfl | ⟨before, c, rfl⟩
    · exact Or.inl rfl
    · by_cases carriage : c = Ascii.carriageReturn <;> simp [ofBytes, carriage]
  · refine Or.inl ⟨by simpa using newline, ?_⟩
    rcases List.eq_nil_or_concat body with rfl | ⟨before, c, rfl⟩ <;> simp [ofBytes, newline]

theorem gap_eq (line : Bytes) :
    (if (ofBytes line).terminator.isEmpty then [Ascii.newline] else []) = gap line := by
  rcases ofBytes_cases line with ⟨unended, parts⟩ | ⟨body, rfl, parts | parts⟩
  · simp [gap, parts, unended]
  · simp [gap, parts]
  · simp [gap, parts]

theorem newline_notMem_gap {line : Bytes} (inner : Ascii.newline ∉ line.dropLast) :
    Ascii.newline ∉ (line ++ gap line).dropLast := by
  by_cases ended : line.getLast? = some Ascii.newline
  · rwa [gap, if_pos ended, List.append_nil]
  · rw [gap, if_neg ended, List.dropLast_concat]
    exact Bytes.newline_notMem_of_unended inner ended

theorem newline_notMem_body {line : Bytes} (inner : Ascii.newline ∉ line.dropLast) :
    Ascii.newline ∉ (ofBytes line).body := by
  rcases ofBytes_cases line with ⟨unended, parts⟩ | ⟨body, rfl, parts | parts⟩
  · rw [parts]
    exact Bytes.newline_notMem_of_unended inner unended
  · simpa only [parts, List.dropLast_concat] using inner
  · rw [parts]
    intro member
    rw [List.dropLast_concat] at inner
    exact inner ((List.dropLast_sublist body).subset member)

theorem body_prefix (line : Bytes) : (ofBytes line).body <+: line := by
  rcases ofBytes_cases line with ⟨_, parts⟩ | ⟨body, rfl, parts | parts⟩
  · simp only [parts, List.prefix_refl]
  · rw [parts]
    exact List.prefix_append _ _
  · rw [parts]
    exact (List.dropLast_prefix body).trans (List.prefix_append _ _)

/-- A line is followed by a newline, be it its own or the gap behind it. -/
theorem append_gap (line : Bytes) : ∃ front, front <+: line ∧ line ++ gap line = front ++ [Ascii.newline] := by
  by_cases ended : line.getLast? = some Ascii.newline
  · obtain ⟨front, rfl⟩ := List.getLast?_eq_some_iff.mp ended
    exact ⟨front, List.prefix_append _ _, by rw [gap, if_pos ended, List.append_nil]⟩
  · exact ⟨line, List.prefix_rfl, by rw [gap, if_neg ended]⟩

end Line

end Amalgam
