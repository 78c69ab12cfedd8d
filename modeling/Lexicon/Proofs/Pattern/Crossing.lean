import Lexicon.Pattern.Thread

/-! The steps and the passage of crossings that are put together.

The order of the steps is left out here: what a crossing can do does not depend on it.
-/

set_option autoImplicit false

namespace Lexicon.Pattern.Crossing

variable {crossing preferred other : Crossing} {next : Route → Crossing} {step : Step}
  {route : Route}

theorem mem_reads_andThen :
    step ∈ (crossing.andThen next).reads ↔
      step ∈ crossing.reads ∨
        ∃ route, crossing.passage = some route ∧ step ∈ (next route).reads := by
  unfold andThen
  cases passage : crossing.passage with
  | none => simp
  | some route =>
    cases through : (next route).passage <;>
      simp [through, reads, or_assoc, or_left_comm, or_comm]

theorem passage_andThen :
    (crossing.andThen next).passage = crossing.passage.bind fun route => (next route).passage := by
  unfold andThen
  cases passage : crossing.passage with
  | none => exact passage
  | some route => cases through : (next route).passage <;> simp [through]

theorem andThen_through (crossing : Crossing) : crossing.andThen through = crossing := by
  obtain ⟨before, passage, after⟩ := crossing
  cases passage with
  | none => rfl
  | some route => simp [andThen, through]

theorem mem_reads_orElse :
    step ∈ (preferred.orElse other).reads ↔ step ∈ preferred.reads ∨ step ∈ other.reads := by
  unfold orElse
  cases passage : preferred.passage <;> simp [reads, or_assoc]

theorem passage_orElse :
    (preferred.orElse other).passage = preferred.passage.or other.passage := by
  unfold orElse
  cases passage : preferred.passage <;> simp

@[simp] theorem reads_through : (through route).reads = [] := rfl

@[simp] theorem reads_blocked : blocked.reads = [] := rfl

@[simp] theorem reads_closed : crossing.closed.reads = crossing.reads := by
  simp [closed, reads]

end Lexicon.Pattern.Crossing
