import Lexicon.Proofs.Pattern.Preference

/-! Alternatives and groups that stand outside of everything else.

Main statement: a pattern made of several alternatives matches what the first alternative with
a match prefers when it is matched alone, whatever is inside the alternatives.
-/

set_option autoImplicit false

namespace Lexicon.Pattern

@[simp] theorem matchHere?_never (before : Option Char) (text : List Char) :
    never.matchHere? before text = none := by
  rw [matchHere?_eq]
  cases text with
  | nil => rfl
  | cons c rest =>
    simp [Thread.preferred?, Thread.steps, framesSteps, never, cross, Crossing.steps,
      Crossing.reads, Step.hit?]

/-! ### Alternatives -/

/-- The steps of the first alternative come first; those of the second one follow, unless the first
can finish without reading anything. -/
theorem steps_alt (place : Surroundings) (preferred other : Pattern) :
    ∃ rest, framesSteps place [.goal (alt preferred other)] (.ofGroups []) =
        framesSteps place [.goal preferred] (.ofGroups []) ++ rest ∧
      (rest = framesSteps place [.goal other] (.ofGroups []) ∨
        ∃ groups, .done groups ∈ framesSteps place [.goal preferred] (.ofGroups [])) := by
  have explored : (Route.ofGroups []).explore? [.goal (alt preferred other)] =
      some (.ofGroups []) := by
    simp [Route.explore?, Route.ofGroups, Frame.repeats]
  simp only [framesSteps, cross, Route.crossing, explored]
  generalize other.cross place [] (.ofGroups []) = second
  -- If the first alternative can pass without reading, the match ends there and the passage of
  -- the second one is lost.
  cases passage : (preferred.cross place [] (.ofGroups [])).passage with
  | none =>
    refine ⟨second.steps (framesSteps place []), ?_, .inl rfl⟩
    unfold Crossing.orElse
    cases through : second.passage with
    | none => simp [Crossing.steps, Crossing.reads, passage, through]
    | some route => simp [Crossing.steps, Crossing.reads, passage, through, framesSteps]
  | some route =>
    refine ⟨second.reads, ?_, .inr ⟨route.groups, ?_⟩⟩
    · simp [Crossing.orElse, Crossing.steps, passage]
    · simp [Crossing.steps, passage]

theorem finished?_isSome {steps : List Step} {groups : List String}
    (finishes : .done groups ∈ steps) : (finished? steps).isSome := by
  induction steps with
  | nil => cases finishes
  | cons step rest ih =>
    cases step with
    | done first => rfl
    | read members next =>
      rcases List.mem_cons.mp finishes with impossible | later
      · cases impossible
      · exact ih later

theorem findSome?_hit?_isSome {steps : List Step} {groups : List String} (c : Char)
    (goOn : Thread → Option Hit) (finishes : .done groups ∈ steps) :
    (steps.findSome? (Step.hit? c goOn)).isSome := by
  rw [List.findSome?_isSome_iff]
  exact ⟨.done groups, finishes, rfl⟩

theorem matchHere?_alt (preferred other : Pattern) (before : Option Char) (text : List Char) :
    (alt preferred other).matchHere? before text =
      (preferred.matchHere? before text).or (other.matchHere? before text) := by
  simp only [matchHere?_eq]
  cases text with
  | nil =>
    obtain ⟨rest, steps, split⟩ := steps_alt ⟨before, none⟩ preferred other
    simp only [Thread.preferred?, Thread.steps]
    rw [steps, finished?_append]
    rcases split with rfl | ⟨groups, finishes⟩
    · exact Option.map_or
    -- Both sides are the match of the first alternative then.
    · obtain ⟨first, found⟩ := Option.isSome_iff_exists.mp (finished?_isSome finishes)
      simp [found]
  | cons c text =>
    obtain ⟨rest, steps, split⟩ := steps_alt ⟨before, some c⟩ preferred other
    simp only [Thread.preferred?, Thread.steps]
    rw [steps, List.findSome?_append]
    rcases split with rfl | ⟨groups, finishes⟩
    · rfl
    · obtain ⟨first, found⟩ := Option.isSome_iff_exists.mp (findSome?_hit?_isSome c
        (fun next => next.preferred? (some c) text) finishes)
      simp [found]

theorem matchHere?_oneOf (patterns : List Pattern) (before : Option Char) (text : List Char) :
    (oneOf patterns).matchHere? before text =
      patterns.findSome? fun pattern => pattern.matchHere? before text := by
  induction patterns with
  | nil => exact matchHere?_never before text
  | cons first rest ih =>
    cases rest with
    | nil => cases found : first.matchHere? before text <;> simp [oneOf, found]
    | cons second rest =>
      simp only [oneOf] at ih ⊢
      rw [matchHere?_alt, ih]
      cases found : first.matchHere? before text <;> simp [found]

/-! ### Groups -/

theorem steps_group (place : Surroundings) (name : String) (body : Pattern) :
    framesSteps place [.goal (group name body)] (.ofGroups []) =
      framesSteps place [.goal body, .leave name] (.ofGroups []) := by
  simp only [framesSteps, cross]
  cases passage : (body.cross place [.leave name] (.ofGroups [])).passage with
  | none => simp [Crossing.andThen, Crossing.steps, passage, Crossing.reads]
  | some route => simp [Crossing.andThen, Crossing.steps, passage, Crossing.through]

theorem matchHere?_group (name : String) (body : Pattern) (before : Option Char)
    (text : List Char) :
    (group name body).matchHere? before text =
      (body.matchHere? before text).map fun hit => ⟨hit.taken, name :: hit.groups⟩ := by
  have around : Thread.preferred? ⟨[.goal (group name body)], []⟩ before text =
      Thread.preferred? ⟨[.goal body, .leave name], []⟩ before text := by
    cases text <;> simp only [Thread.preferred?, Thread.steps, steps_group]
  have alone := Thread.preferred?_inside [name] [] ⟨[.goal body], []⟩ before text
  have joined : Hit.inside [name] [] = fun hit => ⟨hit.taken, name :: hit.groups⟩ := by
    funext hit
    simp [Hit.inside]
  rw [matchHere?_eq, matchHere?_eq, around, ← joined]
  exact alone

end Lexicon.Pattern
