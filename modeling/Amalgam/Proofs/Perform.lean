import Amalgam.Assembly

namespace Amalgam

namespace Step

/-- What a step adds to the artifact. -/
def text : Step → Bytes
  | write chunk => chunk
  | log _ | unreadable .. | overflow | finish _ => []

/-- What a step adds to the log. -/
def events : Step → List Event
  | log event => [event]
  | write _ | unreadable .. | overflow | finish _ => []

/-- The assembly is not at its end with this step. -/
def GoesOn : Step → Prop
  | write _ | log _ => True
  | unreadable .. | overflow | finish _ => False

end Step

/-- A transcript with what has come before it. -/
def Transcript.behind (written : Bytes) (events : List Event) (rest : Transcript) : Transcript :=
  { rest with written := written ++ rest.written, events := events ++ rest.events }

namespace Assembly

variable {artifact : Path} {room : Option Nat} {steps rest : List Step}

/-- The writer has room for the text. -/
def HasRoom (room : Option Nat) (text : Bytes) : Prop :=
  ∀ n ∈ room, text.length ≤ n

/-- What is left of the room behind the text. -/
def roomBehind (room : Option Nat) (text : Bytes) : Option Nat :=
  room.map (· - text.length)

theorem hasRoom_none (text : Bytes) : HasRoom none text :=
  fun _ member => nomatch member

theorem hasRoom_some {n : Nat} {text : Bytes} : HasRoom (some n) text ↔ text.length ≤ n := by
  simp only [HasRoom, Option.mem_def, Option.some.injEq, forall_eq']

theorem hasRoom_append {first second : Bytes} :
    HasRoom room (first ++ second) ↔ HasRoom room first ∧ HasRoom (roomBehind room first) second := by
  cases room with
  | none => exact ⟨fun _ => ⟨hasRoom_none _, hasRoom_none _⟩, fun _ => hasRoom_none _⟩
  | some n =>
    simp only [roomBehind, Option.map_some, hasRoom_some, List.length_append]
    omega

theorem roomBehind_append (first second : Bytes) :
    roomBehind room (first ++ second) = roomBehind (roomBehind room first) second := by
  cases room with
  | none => rfl
  | some n => simp only [roomBehind, Option.map_some, List.length_append, Nat.sub_sub]

theorem behind_behind (first second : Bytes) (earlier later : List Event) (transcript : Transcript) :
    (transcript.behind second later).behind first earlier =
      transcript.behind (first ++ second) (earlier ++ later) := by
  simp only [Transcript.behind, List.append_assoc]

theorem perform_cons {step : Step} (goesOn : step.GoesOn) (fits : HasRoom room step.text) :
    perform artifact room (step :: rest) =
      (perform artifact (roomBehind room step.text) rest).behind step.text step.events := by
  cases step with
  | write chunk =>
    cases room with
    | none => rfl
    | some n => exact if_pos (fits n rfl)
  | log event => cases room <;> rfl
  | unreadable _ _ | overflow | finish _ => exact goesOn.elim

/-- The writer fills its room before it fails. -/
theorem perform_cons_full {step : Step} {n : Nat} (full : n < step.text.length) :
    perform artifact (some n) (step :: rest) =
      ⟨step.text.take n, [], .error (.writeArtifact artifact .storageFull)⟩ := by
  cases step with
  | write chunk => exact if_neg (Nat.not_le_of_gt full)
  | log _ | unreadable _ _ | overflow | finish _ => exact absurd full (Nat.not_lt_zero n)

/-- Steps that the writer has room for leave all that they write, and the rest goes on from there. -/
theorem perform_append (inner : ∀ step ∈ steps, step.GoesOn) (fits : HasRoom room (steps.flatMap Step.text)) :
    perform artifact room (steps ++ rest) =
      (perform artifact (roomBehind room (steps.flatMap Step.text)) rest).behind
        (steps.flatMap Step.text) (steps.flatMap Step.events) := by
  induction steps generalizing room with
  | nil => cases room <;> rfl
  | cons step steps ih =>
    rw [List.forall_mem_cons] at inner
    rw [List.flatMap_cons, hasRoom_append] at fits
    rw [List.cons_append, perform_cons inner.1 fits.1, ih inner.2 fits.2, behind_behind, List.flatMap_cons,
      List.flatMap_cons, roomBehind_append]

/-- Steps that the writer has no room for are cut at the end of its room, and nothing after them
matters. -/
theorem perform_append_full {n : Nat} (inner : ∀ step ∈ steps, step.GoesOn)
    (full : n < (steps.flatMap Step.text).length) :
    (perform artifact (some n) (steps ++ rest)).written = (steps.flatMap Step.text).take n ∧
      (perform artifact (some n) (steps ++ rest)).result = .error (.writeArtifact artifact .storageFull) := by
  induction steps generalizing n with
  | nil => exact absurd full (Nat.not_lt_zero n)
  | cons step steps ih =>
    rw [List.forall_mem_cons] at inner
    rw [List.flatMap_cons, List.length_append] at full
    rw [List.cons_append, List.flatMap_cons]
    -- The room ends either behind this step or within it.
    by_cases fits : step.text.length ≤ n
    · have later := ih (n := n - step.text.length) inner.2 (by omega)
      rw [perform_cons inner.1 (hasRoom_some.mpr fits), List.take_append, List.take_of_length_le fits]
      exact ⟨congrArg (step.text ++ ·) later.1, later.2⟩
    · have beyond := Nat.lt_of_not_le fits
      rw [perform_cons_full beyond, List.take_append_of_le_length (Nat.le_of_lt beyond)]
      exact ⟨rfl, rfl⟩

end Assembly

end Amalgam
