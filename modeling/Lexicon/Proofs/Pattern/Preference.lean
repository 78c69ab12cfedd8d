import Lexicon.Pattern.Match

/-! The match that one thread finds by itself.

The threads of a match move over the text together, and of two threads with the same work left
one is dropped. None of this shows in the result: it is the match of the first thread that finds
one when each is followed alone, step by step, to its end.
-/

set_option autoImplicit false

namespace Lexicon.Pattern

def Hit.later (hit : Hit) (count : Nat) : Hit := { hit with taken := hit.taken + count }

@[simp] theorem Hit.later_zero (hit : Hit) : hit.later 0 = hit := rfl

@[simp] theorem Hit.later_later (hit : Hit) (first second : Nat) :
    (hit.later first).later second = hit.later (first + second) := by
  simp only [later, Nat.add_assoc]

def Step.hit? (c : Char) (goOn : Thread → Option Hit) : Step → Option Hit
  | .done groups => some ⟨0, groups⟩
  | .read members next => if c ∈ members then (goOn next).map (·.later 1) else none

/-- The preferred match of a thread that is alone: every way to go on is followed to its end before
the next one is tried. -/
def Thread.preferred? (thread : Thread) (before : Option Char) : List Char → Option Hit
  | [] => (finished? (thread.steps ⟨before, none⟩)).map (⟨0, ·⟩)
  | c :: rest =>
      (thread.steps ⟨before, some c⟩).findSome?
        (Step.hit? c fun next => next.preferred? (some c) rest)

/-! ### Work inside open groups -/

def closing (names : List String) : List Frame := names.map Frame.leave

section Inside

/-- Work that stands in the groups `names` and comes behind the groups `below`. -/
def Thread.inside (names below : List String) (thread : Thread) : Thread :=
  ⟨thread.frames ++ closing names, thread.groups ++ below⟩

def Route.inside (names below : List String) (route : Route) : Route :=
  ⟨route.groups ++ below, route.explored.map (· ++ closing names)⟩

def Step.inside (names below : List String) : Step → Step
  | .done groups => .done (names.reverse ++ (groups ++ below))
  | .read members next => .read members (next.inside names below)

def Crossing.inside (names below : List String) (crossing : Crossing) : Crossing :=
  ⟨crossing.before.map (Step.inside names below), crossing.passage.map (Route.inside names below),
    crossing.after.map (Step.inside names below)⟩

variable (names below : List String)

theorem repeats_closing (frames : List Frame) :
    (frames ++ closing names).any Frame.repeats = frames.any Frame.repeats := by
  have quiet : (closing names).any Frame.repeats = false := by
    simp [closing, Frame.repeats]
  rw [List.any_append, quiet, Bool.or_false]

theorem Route.explore?_inside (route : Route) (frames : List Frame) :
    (route.inside names below).explore? (frames ++ closing names) =
      (route.explore? frames).map (Route.inside names below) := by
  have known : frames ++ closing names ∈ route.explored.map (· ++ closing names) ↔
      frames ∈ route.explored := by
    simp
  unfold explore?
  rw [repeats_closing]
  by_cases loops : frames.any Frame.repeats = true
  · by_cases seen : frames ∈ route.explored
    · simp [loops, seen, inside]
    · simp [loops, seen, inside]
  · simp [loops, inside]

@[simp] theorem Crossing.inside_through (route : Route) :
    (through route).inside names below = through (route.inside names below) := rfl

theorem Crossing.inside_reads (crossing : Crossing) :
    (crossing.inside names below).reads = crossing.reads.map (Step.inside names below) := by
  simp only [Crossing.reads, Crossing.inside, List.map_append]

@[simp] theorem Crossing.inside_closed (crossing : Crossing) :
    (crossing.inside names below).closed = crossing.closed.inside names below := by
  unfold closed
  rw [inside_reads]
  rfl

theorem Crossing.inside_andThen (crossing : Crossing) {next inner : Route → Crossing}
    (same : ∀ route : Route, inner (route.inside names below) = (next route).inside names below) :
    (crossing.inside names below).andThen inner = (crossing.andThen next).inside names below := by
  obtain ⟨before, passage, after⟩ := crossing
  -- Without a passage the second crossing is never entered.
  cases passage with
  | none => rfl
  | some route =>
    simp only [andThen, inside, Option.map_some, same]
    cases (next route).passage with
    | none => simp [reads]
    | some last => simp

theorem Crossing.inside_orElse (preferred other : Crossing) :
    (preferred.inside names below).orElse (other.inside names below) =
      (preferred.orElse other).inside names below := by
  obtain ⟨before, passage, after⟩ := preferred
  cases passage with
  | none => simp [orElse, inside, reads]
  | some route => simp [orElse, inside, reads]

theorem Crossing.inside_orNone (greedy : Bool) (round : Crossing) (route : Route) :
    (round.inside names below).orNone greedy (route.inside names below) =
      (round.orNone greedy route).inside names below := by
  unfold orNone
  rw [← inside_through]
  split
  · exact inside_orElse names below round (through route)
  · exact inside_orElse names below (through route) round

theorem Crossing.inside_steps (crossing : Crossing) {next inner : Route → List Step}
    (same : ∀ route : Route,
      inner (route.inside names below) = (next route).map (Step.inside names below)) :
    (crossing.inside names below).steps inner =
      (crossing.steps next).map (Step.inside names below) := by
  obtain ⟨before, passage, after⟩ := crossing
  cases passage with
  | none => simp [steps, inside, reads]
  | some route => simp [steps, inside, same]

theorem Route.crossing_inside (route : Route) (frames : List Frame) {next inner : Route → Crossing}
    (same : ∀ route : Route, inner (route.inside names below) = (next route).inside names below) :
    (route.inside names below).crossing (frames ++ closing names) inner =
      (route.crossing frames next).inside names below := by
  unfold crossing
  rw [Route.explore?_inside]
  cases route.explore? frames with
  | none => rfl
  | some explored => exact same explored

theorem roundsLeft_closing (rounds : Nat → Pattern) (count : Nat) (rest : List Frame) :
    roundsLeft rounds count (rest ++ closing names) =
      roundsLeft rounds count rest ++ closing names := by
  unfold roundsLeft
  split
  · rfl
  · exact (List.cons_append).symm

section Rounds

variable {crossBody : List Frame → Route → Crossing}
  (body : ∀ (rest : List Frame) (route : Route),
    crossBody (rest ++ closing names) (route.inside names below) =
      (crossBody rest route).inside names below)
include body

theorem crossTimes_inside (rounds : Nat → Pattern) (rest : List Frame) (count : Nat)
    (route : Route) :
    crossTimes crossBody rounds (rest ++ closing names) count (route.inside names below) =
      (crossTimes crossBody rounds rest count route).inside names below := by
  -- The route is general because a round hands on what it has explored to the next one.
  induction count generalizing route with
  | zero => rfl
  | succ more ih =>
    simp only [crossTimes]
    rw [roundsLeft_closing, body]
    exact Crossing.inside_andThen names below _ fun route => ih route

theorem crossUpTo_inside (rounds : Nat → Pattern) (rest : List Frame) (greedy : Bool)
    (count : Nat) (route : Route) :
    crossUpTo crossBody rounds (rest ++ closing names) greedy count (route.inside names below) =
      (crossUpTo crossBody rounds rest greedy count route).inside names below := by
  induction count generalizing route with
  | zero => rfl
  | succ more ih =>
    simp only [crossUpTo, ← List.cons_append]
    apply Route.crossing_inside
    intro route
    rw [roundsLeft_closing, body,
      Crossing.inside_andThen names below _ fun route => ih route]
    exact Crossing.inside_orNone names below greedy _ route

end Rounds

theorem cross_inside (place : Surroundings) (pattern : Pattern) (rest : List Frame)
    (route : Route) :
    pattern.cross place (rest ++ closing names) (route.inside names below) =
      (pattern.cross place rest route).inside names below := by
  -- By the structure of the pattern, for all work behind it: a part of a pattern has the other
  -- parts as work behind it.
  induction pattern generalizing rest route with
  | empty => rfl
  | set members => rfl
  | look assertion =>
    simp only [cross]
    split <;> rfl
  | cat first second ihFirst ihSecond =>
    simp only [cross, ← List.cons_append]
    rw [ihFirst]
    exact Crossing.inside_andThen names below _ fun route => ihSecond rest route
  | alt preferred other ihPreferred ihOther =>
    simp only [cross, ← List.cons_append]
    apply Route.crossing_inside
    intro route
    rw [ihPreferred, ihOther]
    exact Crossing.inside_orElse names below _ _
  | times count body ih =>
    exact crossTimes_inside names below ih _ rest count route
  | upTo greedy count body ih =>
    exact crossUpTo_inside names below ih _ rest greedy count route
  | many greedy body ih =>
    simp only [cross, ← List.cons_append]
    rw [ih]
    apply Crossing.inside_andThen
    intro route
    apply Route.crossing_inside
    intro route
    rfl
  | star greedy body ih =>
    simp only [cross, ← List.cons_append]
    apply Route.crossing_inside
    intro route
    rw [ih, Crossing.inside_closed]
    exact Crossing.inside_orNone names below greedy _ route
  | group name body ih =>
    simp only [cross, ← List.cons_append]
    rw [ih]
    exact Crossing.inside_andThen names below _ fun route => rfl

theorem framesSteps_closing (place : Surroundings) (route : Route) :
    framesSteps place (closing names) route = [.done (names.reverse ++ route.groups)] := by
  induction names generalizing route with
  | nil => rfl
  | cons name names ih =>
    have inner := ih (route.join name)
    simp only [closing, List.map_cons, framesSteps] at inner ⊢
    rw [inner]
    simp [Route.join]

theorem framesSteps_inside (place : Surroundings) (frames : List Frame) (route : Route) :
    framesSteps place (frames ++ closing names) (route.inside names below) =
      (framesSteps place frames route).map (Step.inside names below) := by
  -- What is behind all frames is the end of the open groups, and nothing there can fail.
  induction frames generalizing route with
  | nil => exact framesSteps_closing names place _
  | cons frame rest ih =>
    cases frame with
    | goal pattern =>
      simp only [List.cons_append, framesSteps]
      rw [cross_inside]
      exact Crossing.inside_steps names below _ ih
    | leave name => exact ih (route.join name)
    | again greedy body =>
      simp only [List.cons_append, framesSteps]
      rw [← List.cons_append, Route.explore?_inside]
      cases route.explore? (.again greedy body :: rest) with
      | none => rfl
      | some route =>
        simp only [Option.map_some]
        rw [cross_inside, Crossing.inside_closed, Crossing.inside_orNone]
        exact Crossing.inside_steps names below _ ih

theorem Thread.steps_inside (place : Surroundings) (thread : Thread) :
    (thread.inside names below).steps place =
      (thread.steps place).map (Step.inside names below) :=
  framesSteps_inside names below place thread.frames (.ofGroups thread.groups)

end Inside

def Hit.inside (names below : List String) (hit : Hit) : Hit :=
  ⟨hit.taken, names.reverse ++ (hit.groups ++ below)⟩

theorem finished?_inside (names below : List String) (steps : List Step) :
    finished? (steps.map (Step.inside names below)) =
      (finished? steps).map fun groups => names.reverse ++ (groups ++ below) := by
  induction steps with
  | nil => rfl
  | cons step rest ih =>
    cases step with
    | done groups => rfl
    | read members next => exact ih

theorem Thread.preferred?_inside (names below : List String) (thread : Thread)
    (before : Option Char) (text : List Char) :
    (thread.inside names below).preferred? before text =
      (thread.preferred? before text).map (Hit.inside names below) := by
  induction text generalizing thread before with
  | nil =>
    simp only [preferred?, steps_inside, finished?_inside, Option.map_map]
    rfl
  | cons c rest ih =>
    simp only [preferred?, steps_inside, List.findSome?_map]
    rw [List.map_findSome?]
    congr 1
    funext step
    cases step with
    | done groups => rfl
    | read members next =>
      simp only [Function.comp_apply, Step.inside, Step.hit?, ih]
      split
      · simp only [Option.map_map]
        rfl
      · rfl

theorem Thread.preferred?_groups (frames : List Frame) (groups : List String)
    (before : Option Char) (text : List Char) :
    preferred? ⟨frames, groups⟩ before text =
      (preferred? ⟨frames, []⟩ before text).map (Hit.inside [] groups) := by
  rw [← preferred?_inside]
  simp [inside, closing]

/-! ### All threads together -/

theorem finished?_append (first second : List Step) :
    finished? (first ++ second) = (finished? first).or (finished? second) := by
  induction first with
  | nil => rfl
  | cons step rest ih =>
    cases step with
    | done groups => rfl
    | read members next => exact ih

theorem finished?_flatMap (threads : List Thread) (steps : Thread → List Step) :
    finished? (threads.flatMap steps) = threads.findSome? fun thread => finished? (steps thread) := by
  induction threads with
  | nil => rfl
  | cons thread rest ih =>
    rw [List.flatMap_cons, finished?_append, ih, List.findSome?_cons]
    cases finished? (steps thread) <;> rfl

theorem findSome?_flatMap {Item Result : Type} (threads : List Thread) (items : Thread → List Item)
    (look : Item → Option Result) :
    (threads.flatMap items).findSome? look =
      threads.findSome? fun thread => (items thread).findSome? look := by
  induction threads with
  | nil => rfl
  | cons thread rest ih =>
    rw [List.flatMap_cons, List.findSome?_append, ih, List.findSome?_cons]
    cases (items thread).findSome? look <;> rfl

theorem findSome?_hit? (c : Char) (goOn : Thread → Option Hit) (steps : List Step) :
    steps.findSome? (Step.hit? c goOn) =
      (((readersOf c steps).findSome? goOn).map (·.later 1)).or
        ((finished? steps).map (⟨0, ·⟩)) := by
  induction steps with
  | nil => rfl
  | cons step rest ih =>
    cases step with
    | done groups => rfl
    | read members next =>
      simp only [List.findSome?_cons, Step.hit?, readersOf, finished?]
      by_cases reads : c ∈ members
      · simp only [reads, if_true, List.findSome?_cons]
        cases goOn next with
        | none => simpa using ih
        | some hit => rfl
      · simpa only [reads, if_false] using ih

/-- A thread that is dropped finds nothing that the thread kept in its place does not find. -/
theorem findSome?_distinctFrom (before : Option Char) (text : List Char)
    (seen : List (List Frame)) (threads : List Thread)
    (idle : ∀ frames ∈ seen, Thread.preferred? ⟨frames, []⟩ before text = none) :
    (distinctFrom seen threads).findSome? (·.preferred? before text) =
      threads.findSome? (·.preferred? before text) := by
  induction threads generalizing seen with
  | nil => rfl
  | cons thread rest ih =>
    have found := Thread.preferred?_groups thread.frames thread.groups before text
    simp only [distinctFrom]
    by_cases known : thread.frames ∈ seen
    -- Work that was seen before was followed before, and it found nothing.
    · rw [idle _ known, Option.map_none] at found
      simp only [known, if_true, List.findSome?_cons, found]
      exact ih seen idle
    · simp only [known, if_false, List.findSome?_cons]
      cases outcome : thread.preferred? before text with
      | some hit => rfl
      | none =>
        -- This thread finds nothing either, so its work may stand among that seen.
        apply ih
        intro frames member
        rcases List.mem_cons.mp member with rfl | member
        · exact Option.map_eq_none_iff.mp (found.symm.trans outcome)
        · exact idle frames member

theorem run_eq (threads : List Thread) (before : Option Char) (taken : Nat) (best : Option Hit)
    (text : List Char) :
    run threads before taken best text =
      ((threads.findSome? (·.preferred? before text)).map (·.later taken)).or best := by
  -- `best` is what threads found that were preferred less, so any thread left goes before it.
  induction text generalizing threads before taken best with
  | nil =>
    have alone : threads.findSome? (·.preferred? before []) =
        (threads.findSome? fun thread => finished? (thread.steps ⟨before, none⟩)).map (⟨0, ·⟩) :=
      (List.map_findSome?).symm
    simp only [run, betterHit]
    rw [alone, finished?_flatMap]
    cases threads.findSome? fun thread => finished? (thread.steps ⟨before, none⟩) with
    | none => rfl
    | some groups => simp [Hit.later]
  | cons c rest ih =>
    have alone : threads.findSome? (·.preferred? before (c :: rest)) =
        (threads.flatMap (·.steps ⟨before, some c⟩)).findSome?
          (Step.hit? c fun next => next.preferred? (some c) rest) :=
      (findSome?_flatMap threads _ _).symm
    simp only [run]
    -- From here on only the steps matter, not the threads that they come from.
    generalize threads.flatMap (·.steps ⟨before, some c⟩) = steps at alone ⊢
    have kept := findSome?_distinctFrom (some c) rest [] (readersOf c steps) (by simp)
    rw [alone, findSome?_hit?, ← kept]
    cases distinctFrom [] (readersOf c steps) with
    | nil => cases outcome : finished? steps <;> simp [betterHit, outcome, Hit.later]
    | cons first others =>
      simp only [ih]
      cases (first :: others).findSome? (·.preferred? (some c) rest) with
      | none => cases outcome : finished? steps <;> simp [betterHit, outcome, Hit.later]
      | some hit => simp [Nat.add_comm]

/-- The match of a pattern is the one that following it from place to place finds first. -/
theorem matchHere?_eq (pattern : Pattern) (before : Option Char) (text : List Char) :
    pattern.matchHere? before text = Thread.preferred? ⟨[.goal pattern], []⟩ before text := by
  unfold matchHere?
  rw [run_eq, Option.or_none, List.findSome?_cons]
  cases Thread.preferred? ⟨[.goal pattern], []⟩ before text <;> rfl

end Lexicon.Pattern
