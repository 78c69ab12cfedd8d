import Lexicon.Proofs.Pattern.Crossing
import Lexicon.Proofs.Pattern.Preference

/-! The names of groups.

Main statement: the groups that take part in a match are groups of the pattern
(`matchHere?_groups`). A thread takes its names from the work that it has left, and no step brings
in another one.
-/

set_option autoImplicit false

namespace Lexicon.Pattern

def groupNames : Pattern → List String
  | empty | set _ | look _ => []
  | cat first second => first.groupNames ++ second.groupNames
  | alt preferred other => preferred.groupNames ++ other.groupNames
  | times _ body | upTo _ _ body | many _ body | star _ body => body.groupNames
  | group name body => name :: body.groupNames

theorem groupNames_sequence (patterns : List Pattern) :
    (Pattern.sequence patterns).groupNames = patterns.flatMap groupNames := by
  induction patterns with
  | nil => rfl
  | cons first rest ih =>
    cases rest with
    | nil => simp [Pattern.sequence]
    | cons second rest => simp [Pattern.sequence, groupNames, ← ih]

theorem groupNames_oneOf (patterns : List Pattern) :
    (oneOf patterns).groupNames = patterns.flatMap groupNames := by
  induction patterns with
  | nil => rfl
  | cons first rest ih =>
    cases rest with
    | nil => simp [oneOf]
    | cons second rest => simp [oneOf, groupNames, ← ih]

theorem groupNames_repeated (body : Pattern) (reads : Bool) (count : Count) (greedy : Bool) :
    (body.repeated reads count greedy).groupNames ⊆ body.groupNames := by
  unfold repeated
  split
  · split <;> simp [groupNames]
  · simp [groupNames]
  · simp [groupNames]
  · split
    · simp [groupNames]
    · split <;> simp [groupNames]

def NamesApart (one other : Pattern) : Prop := ∀ name ∈ one.groupNames, name ∉ other.groupNames

def Frame.names : Frame → List String
  | goal pattern => pattern.groupNames
  | leave name => [name]
  | again _ body => body.groupNames

def frameNames (frames : List Frame) : List String := frames.flatMap Frame.names

@[simp] theorem frameNames_nil : frameNames [] = [] := rfl

@[simp] theorem frameNames_cons (frame : Frame) (rest : List Frame) :
    frameNames (frame :: rest) = frame.names ++ frameNames rest := rfl

theorem names_in_front {known : List String} (frame : Frame) {rest : List Frame}
    (first : frame.names ⊆ known) (behind : frameNames rest ⊆ known) :
    frameNames (frame :: rest) ⊆ known :=
  List.append_subset.mpr ⟨first, behind⟩

section Known

/-! ### Threads that know some names only -/

variable (known : List String)

/-- The thread has met no groups but known ones and has none but these before it. -/
def Thread.Knows (thread : Thread) : Prop :=
  thread.groups ⊆ known ∧ frameNames thread.frames ⊆ known

def Step.Knows : Step → Prop
  | .done groups => groups ⊆ known
  | .read _ next => next.Knows known

structure Crossing.Knows (crossing : Crossing) : Prop where
  reads : ∀ step ∈ crossing.reads, step.Knows known
  passage : ∀ route, crossing.passage = some route → route.groups ⊆ known

variable {known} {crossing preferred other : Crossing} {route : Route}

namespace Crossing

theorem knows_blocked : blocked.Knows known := ⟨by simp [blocked, reads], by simp [blocked]⟩

theorem knows_through (inside : route.groups ⊆ known) : (through route).Knows known :=
  ⟨by simp [through, reads], by
    rintro _ ⟨⟩
    exact inside⟩

theorem Knows.closed (own : crossing.Knows known) : crossing.closed.Knows known :=
  ⟨by simpa using own.reads, by simp [Crossing.closed]⟩

theorem Knows.andThen {next : Route → Crossing} (own : crossing.Knows known)
    (later : ∀ route, route.groups ⊆ known → (next route).Knows known) :
    (crossing.andThen next).Knows known := by
  constructor
  · intro step member
    rcases mem_reads_andThen.mp member with first | ⟨route, passage, second⟩
    · exact own.reads step first
    · exact (later route (own.passage route passage)).reads step second
  · intro last through
    rw [passage_andThen] at through
    obtain ⟨route, passage, second⟩ := Option.bind_eq_some_iff.mp through
    exact (later route (own.passage route passage)).passage last second

theorem Knows.orElse (own : preferred.Knows known) (second : other.Knows known) :
    (preferred.orElse other).Knows known := by
  constructor
  · intro step member
    rcases mem_reads_orElse.mp member with first | later
    · exact own.reads step first
    · exact second.reads step later
  · intro route through
    rw [passage_orElse] at through
    rcases Option.or_eq_some_iff.mp through with first | ⟨-, later⟩
    · exact own.passage route first
    · exact second.passage route later

theorem Knows.orNone {greedy : Bool} (own : crossing.Knows known)
    (inside : route.groups ⊆ known) : (crossing.orNone greedy route).Knows known := by
  unfold Crossing.orNone
  split
  · exact own.orElse (knows_through inside)
  · exact (knows_through inside).orElse own

theorem Knows.steps {next : Route → List Step} (own : crossing.Knows known)
    (later : ∀ route, route.groups ⊆ known → ∀ step ∈ next route, step.Knows known) :
    ∀ step ∈ crossing.steps next, step.Knows known := by
  intro step member
  unfold Crossing.steps at member
  cases passage : crossing.passage with
  | none =>
    rw [passage] at member
    exact own.reads step member
  | some route =>
    simp only [passage, List.mem_append] at member
    rcases member with (member | member) | member
    · exact own.reads step (List.mem_append_left _ member)
    · exact later route (own.passage route passage) step member
    · exact own.reads step (List.mem_append_right _ member)

end Crossing

theorem Route.explore?_groups {route next : Route} {frames : List Frame}
    (explored : route.explore? frames = some next) : next.groups = route.groups := by
  unfold explore? at explored
  split at explored
  · split at explored
    · cases explored
    · cases explored
      rfl
  · cases explored
    rfl

theorem Route.knows_crossing {frames : List Frame} {next : Route → Crossing}
    (inside : route.groups ⊆ known)
    (later : ∀ route, route.groups ⊆ known → (next route).Knows known) :
    (route.crossing frames next).Knows known := by
  unfold crossing
  cases explored : route.explore? frames with
  | none => exact Crossing.knows_blocked
  | some other => exact later other (Route.explore?_groups explored ▸ inside)

section Rounds

variable {crossBody : List Frame → Route → Crossing} {rounds : Nat → Pattern} {rest : List Frame}
  (body : ∀ rest route, frameNames rest ⊆ known → route.groups ⊆ known →
    (crossBody rest route).Knows known)
  (own : ∀ count, (rounds count).groupNames ⊆ known) (behind : frameNames rest ⊆ known)
include own behind

theorem names_roundsLeft (count : Nat) : frameNames (roundsLeft rounds count rest) ⊆ known := by
  unfold roundsLeft
  split
  · exact behind
  · exact List.append_subset.mpr ⟨own count, behind⟩

include body

theorem crossTimes_knows (count : Nat) {route : Route} (inside : route.groups ⊆ known) :
    (crossTimes crossBody rounds rest count route).Knows known := by
  induction count generalizing route with
  | zero => exact Crossing.knows_through inside
  | succ more ih =>
    exact (body _ route (names_roundsLeft own behind more) inside).andThen fun _ => ih

theorem crossUpTo_knows (greedy : Bool) (count : Nat) {route : Route}
    (inside : route.groups ⊆ known) :
    (crossUpTo crossBody rounds rest greedy count route).Knows known := by
  induction count generalizing route with
  | zero => exact Crossing.knows_through inside
  | succ more ih =>
    refine Route.knows_crossing inside fun route inside => ?_
    have round := body _ route (names_roundsLeft own behind more) inside
    exact (round.andThen fun _ => ih).orNone inside

end Rounds

theorem cross_knows (place : Surroundings) {pattern : Pattern} {rest : List Frame} {route : Route}
    (own : pattern.groupNames ⊆ known) (behind : frameNames rest ⊆ known)
    (inside : route.groups ⊆ known) : (pattern.cross place rest route).Knows known := by
  -- By the structure of the pattern; a part of it has the other parts as work behind it.
  induction pattern generalizing rest route with
  | empty => exact Crossing.knows_through inside
  | set members => exact ⟨by simpa [cross, Crossing.reads] using ⟨inside, behind⟩, by simp [cross]⟩
  | look assertion =>
    simp only [cross]
    split
    · exact Crossing.knows_through inside
    · exact Crossing.knows_blocked
  | cat first second ihFirst ihSecond =>
    obtain ⟨front, back⟩ := List.append_subset.mp own
    exact (ihFirst front (names_in_front (.goal second) back behind) inside).andThen
      fun route inside => ihSecond back behind inside
  | alt preferred other ihPreferred ihOther =>
    obtain ⟨left, right⟩ := List.append_subset.mp own
    exact Route.knows_crossing inside fun route inside =>
      (ihPreferred left behind inside).orElse (ihOther right behind inside)
  | times count body ih =>
    have rounds (count : Nat) : (times count body).groupNames ⊆ known := own
    exact crossTimes_knows (fun rest route => ih own) rounds behind count inside
  | upTo greedy count body ih =>
    have rounds (count : Nat) : (upTo greedy count body).groupNames ⊆ known := own
    exact crossUpTo_knows (fun rest route => ih own) rounds behind greedy count inside
  | many greedy body ih =>
    have repeated := names_in_front (.again greedy body) own behind
    exact (ih own repeated inside).andThen fun route inside =>
      Route.knows_crossing inside fun route inside => Crossing.knows_through inside
  | star greedy body ih =>
    exact Route.knows_crossing inside fun route inside =>
      (ih own (names_in_front (.goal (star greedy body)) own behind) inside).closed.orNone inside
  | group name body ih =>
    obtain ⟨first, others⟩ := List.cons_subset.mp own
    have left : (Frame.leave name).names ⊆ known := by simpa [Frame.names] using first
    exact (ih others (names_in_front (.leave name) left behind) inside).andThen fun route inside =>
      Crossing.knows_through (List.cons_subset.mpr ⟨first, inside⟩)

theorem framesSteps_knows (place : Surroundings) {frames : List Frame} {route : Route}
    (own : frameNames frames ⊆ known) (inside : route.groups ⊆ known) :
    ∀ step ∈ framesSteps place frames route, step.Knows known := by
  induction frames generalizing route with
  | nil => simpa [framesSteps, Step.Knows] using inside
  | cons frame rest ih =>
    obtain ⟨first, behind⟩ := List.append_subset.mp own
    cases frame with
    | goal pattern => exact (cross_knows place first behind inside).steps fun route => ih behind
    | leave name =>
      exact ih behind (List.cons_subset.mpr ⟨first List.mem_cons_self, inside⟩)
    | again greedy body =>
      simp only [framesSteps]
      cases explored : route.explore? (.again greedy body :: rest) with
      | none => simp
      | some next =>
        have kept : next.groups ⊆ known := Route.explore?_groups explored ▸ inside
        exact ((cross_knows place first own kept).closed.orNone kept).steps fun route => ih behind

theorem finished?_knows {steps : List Step} (inside : ∀ step ∈ steps, step.Knows known)
    {groups : List String} (found : finished? steps = some groups) : groups ⊆ known := by
  induction steps with
  | nil => cases found
  | cons step rest ih =>
    cases step with
    | done first =>
      cases found
      exact inside _ List.mem_cons_self
    | read members next =>
      exact ih (fun one member => inside one (List.mem_cons_of_mem _ member)) found

theorem Thread.Knows.steps_knows {thread : Thread} (own : thread.Knows known)
    (place : Surroundings) : ∀ step ∈ thread.steps place, step.Knows known :=
  framesSteps_knows place own.2 own.1

theorem Thread.preferred?_knows {thread : Thread} (own : thread.Knows known)
    {before : Option Char} {text : List Char} {hit : Hit}
    (found : thread.preferred? before text = some hit) : hit.groups ⊆ known := by
  induction text generalizing thread before hit with
  | nil =>
    obtain ⟨groups, last, rfl⟩ := Option.map_eq_some_iff.mp found
    exact finished?_knows (own.steps_knows _) last
  | cons c rest ih =>
    obtain ⟨step, member, goesOn⟩ := List.exists_of_findSome?_eq_some found
    have inside := own.steps_knows _ step member
    cases step with
    | done groups =>
      cases goesOn
      exact inside
    | read members next =>
      simp only [Step.hit?] at goesOn
      split at goesOn
      · obtain ⟨later, outcome, rfl⟩ := Option.map_eq_some_iff.mp goesOn
        have known : later.groups ⊆ known := ih inside outcome
        exact known
      · cases goesOn

end Known

theorem matchHere?_groups {pattern : Pattern} {before : Option Char} {text : List Char} {hit : Hit}
    (found : pattern.matchHere? before text = some hit) : hit.groups ⊆ pattern.groupNames := by
  rw [matchHere?_eq] at found
  refine Thread.preferred?_knows ⟨List.nil_subset _, ?_⟩ found
  simp [Frame.names]

end Lexicon.Pattern
