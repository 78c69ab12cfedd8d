import Lexicon.Proofs.Pattern.Preference

/-! Single characters, sequences, and greedy repetitions of a character.

Main statement: a greedy repetition takes all it can if the work behind it never fails.
-/

set_option autoImplicit false

namespace Lexicon.Pattern

variable {rest : List Frame} {groups : List String} {before : Option Char}

theorem steps_set (place : Surroundings) (members : CharSet) (rest : List Frame)
    (route : Route) :
    framesSteps place (.goal (set members) :: rest) route =
      [.read members ⟨rest, route.groups⟩] := rfl

theorem steps_cat (place : Surroundings) (first second : Pattern) (rest : List Frame)
    (route : Route) :
    framesSteps place (.goal (cat first second) :: rest) route =
      framesSteps place (.goal first :: .goal second :: rest) route := by
  simp only [framesSteps, cross, Crossing.andThen]
  cases passage : (first.cross place (.goal second :: rest) route).passage with
  | none => simp only [Crossing.steps, passage]
  | some middle =>
    cases last : (second.cross place rest middle).passage with
    | none => simp [Crossing.steps, Crossing.reads, passage, last]
    | some route => simp [Crossing.steps, passage, last]

@[simp] theorem preferred?_done (groups : List String) (before : Option Char)
    (text : List Char) : Thread.preferred? ⟨[], groups⟩ before text = some ⟨0, groups⟩ := by
  cases text <;> rfl

@[simp] theorem preferred?_set_nil (members : CharSet) :
    Thread.preferred? ⟨.goal (set members) :: rest, groups⟩ before [] = none := rfl

@[simp] theorem preferred?_set_cons (members : CharSet) (c : Char) (text : List Char) :
    Thread.preferred? ⟨.goal (set members) :: rest, groups⟩ before (c :: text) =
      if c ∈ members then
        (Thread.preferred? ⟨rest, groups⟩ (some c) text).map (·.later 1)
      else none := by
  simp only [Thread.preferred?, Thread.steps, steps_set, List.findSome?_singleton, Step.hit?,
    Route.ofGroups]

@[simp] theorem preferred?_cat (first second : Pattern) (text : List Char) :
    Thread.preferred? ⟨.goal (cat first second) :: rest, groups⟩ before text =
      Thread.preferred? ⟨.goal first :: .goal second :: rest, groups⟩ before text := by
  cases text <;> simp only [Thread.preferred?, Thread.steps, steps_cat]

/-! ### Greedy repetitions -/

/-- At every place, the thread prefers to read another member to going on with what follows. -/
def ReadsOn (members : CharSet) (frame : Frame) (rest : List Frame) : Prop :=
  ∀ place, framesSteps place (frame :: rest) (.ofGroups []) =
    .read members ⟨frame :: rest, []⟩ :: framesSteps place rest (.ofGroups [])

theorem preferred?_greedy {members : CharSet} {frame : Frame} {ending : List Char → Hit}
    (reads : ReadsOn members frame rest)
    (finish : ∀ before text, Thread.preferred? ⟨rest, []⟩ before text = some (ending text))
    (before : Option Char) (text : List Char) :
    Thread.preferred? ⟨frame :: rest, []⟩ before text =
      some ((ending (text.dropWhile members.contains)).later
        (text.takeWhile members.contains).length) := by
  induction text generalizing before with
  | nil =>
    have last := finish before []
    simp only [Thread.preferred?, Thread.steps] at last ⊢
    rw [reads]
    exact last
  | cons c text ih =>
    have last := finish before (c :: text)
    simp only [Thread.preferred?, Thread.steps] at last ⊢
    rw [reads, List.findSome?_cons]
    -- Past the first character outside, nothing but the work behind the repetition is left.
    by_cases member : c ∈ members
    · simp [Step.hit?, member, ih, CharSet.mem_iff.mp member]
    · have outside : members.contains c = false := by
        simpa [CharSet.mem_iff] using member
      simp [Step.hit?, member, last, outside]

theorem readsOn_star (members : CharSet) :
    ReadsOn members (.goal (star true (set members))) [] := fun _ => rfl

theorem readsOn_again (members : CharSet) : ReadsOn members (.again true (set members)) [] :=
  fun _ => rfl

def runExtent (head tail : CharSet) : List Char → Option Nat
  | [] => none
  | c :: text =>
      if c ∈ head then some ((text.takeWhile tail.contains).length + 1) else none

theorem preferred?_run (head tail : CharSet) (text : List Char) :
    Thread.preferred? ⟨[.goal (set head), .goal (star true (set tail))], []⟩ before text =
      (runExtent head tail text).map (⟨·, []⟩) := by
  cases text with
  | nil => rfl
  | cons c text =>
    have tail := preferred?_greedy (readsOn_star tail)
      (fun before text => preferred?_done [] before text) (some c) text
    simp only [preferred?_set_cons, tail, runExtent]
    split <;> simp [Hit.later]

theorem preferred?_many_set (members : CharSet) (rest : List Frame) (text : List Char) :
    Thread.preferred? ⟨.goal (many true (set members)) :: rest, []⟩ before text =
      Thread.preferred? ⟨.goal (set members) :: .again true (set members) :: rest, []⟩ before
        text := by
  cases text <;> rfl

theorem preferred?_block (members : CharSet) (text : List Char) :
    Thread.preferred? ⟨[.goal (many true (set members))], []⟩ before text =
      (runExtent members members text).map (⟨·, []⟩) := by
  rw [preferred?_many_set]
  cases text with
  | nil => rfl
  | cons c text =>
    have others := preferred?_greedy (readsOn_again members)
      (fun before text => preferred?_done [] before text) (some c) text
    simp only [preferred?_set_cons, others, runExtent]
    split <;> simp [Hit.later]

end Lexicon.Pattern
