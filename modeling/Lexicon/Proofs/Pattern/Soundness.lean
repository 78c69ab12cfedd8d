import Lexicon.Proofs.Pattern.Crossing
import Lexicon.Proofs.Pattern.Moves
import Lexicon.Proofs.Pattern.Preference

/-! What a match has read.

Main statement: the text that a match takes is one that the pattern describes
(`describes_of_matchHere?`). Each step that a crossing lists goes on from where some moves of the
work have led.
-/

set_option autoImplicit false

namespace Lexicon.Pattern

/-- The step can go on to read the text to its end, where `after` is the character behind it. -/
def Step.Leads (text : List Char) (after : Option Char) : Step → Prop
  | .done _ => text = []
  | .read members next => ∃ c rest, text = c :: rest ∧ c ∈ members ∧
      Works next.frames (some c) rest after

def Crossing.ofSteps (steps : List Step) : Crossing := ⟨steps, none, []⟩

@[simp] theorem Crossing.reads_ofSteps (steps : List Step) : (ofSteps steps).reads = steps := by
  simp [ofSteps, reads]

theorem Crossing.steps_eq (crossing : Crossing) (next : Route → List Step) :
    ofSteps (crossing.steps next) =
      (crossing.andThen fun route => ofSteps (next route)).closed := by
  cases passage : crossing.passage with
  | none => simp [steps, andThen, passage, ofSteps, closed]
  | some route => simp [steps, andThen, passage, ofSteps, reads, closed]

section Sound

variable {before after : Option Char} {text : List Char} {frames middle rest : List Frame}
  {crossing preferred other : Crossing} {greedy : Bool} {route : Route}

/-- What the crossing of `frames` lists for a place, with a text behind it, can be done by moves.
Its passage leads to `rest`. -/
structure Crossing.Sound (before : Option Char) (text : List Char) (after : Option Char)
    (frames rest : List Frame) (crossing : Crossing) : Prop where
  reads : ∀ step ∈ crossing.reads, step.Leads text after → Works frames before text after
  passage : ∀ route, crossing.passage = some route → Works rest before text after →
    Works frames before text after

namespace Crossing

theorem sound_blocked : blocked.Sound before text after frames rest :=
  ⟨by simp, by simp [blocked]⟩

theorem sound_through (route : Route) : (through route).Sound before text after rest rest :=
  ⟨by simp, fun _ _ works => works⟩

namespace Sound

theorem move (own : crossing.Sound before text after middle rest)
    (step : ∀ {n}, Moves n middle before text after → Moves (n + 1) frames before text after) :
    crossing.Sound before text after frames rest :=
  ⟨fun one member leads => (own.reads one member leads).move step,
    fun route passage works => (own.passage route passage works).move step⟩

theorem closed (own : crossing.Sound before text after frames middle) :
    crossing.closed.Sound before text after frames rest :=
  ⟨by simpa using own.reads, by simp [Crossing.closed]⟩

theorem andThen {next : Route → Crossing} (own : crossing.Sound before text after frames middle)
    (later : ∀ route, (next route).Sound before text after middle rest) :
    (crossing.andThen next).Sound before text after frames rest := by
  constructor
  · intro step member leads
    rcases mem_reads_andThen.mp member with first | ⟨route, passage, second⟩
    · exact own.reads step first leads
    · exact own.passage route passage ((later route).reads step second leads)
  · intro last through works
    rw [passage_andThen] at through
    obtain ⟨route, passage, second⟩ := Option.bind_eq_some_iff.mp through
    exact own.passage route passage ((later route).passage last second works)

theorem orElse (own : preferred.Sound before text after frames rest)
    (second : other.Sound before text after frames rest) :
    (preferred.orElse other).Sound before text after frames rest := by
  constructor
  · intro step member
    rcases mem_reads_orElse.mp member with first | later
    · exact own.reads step first
    · exact second.reads step later
  · intro route through
    rw [passage_orElse] at through
    rcases Option.or_eq_some_iff.mp through with first | ⟨-, later⟩
    · exact own.passage route first
    · exact second.passage route later

theorem orNone (own : crossing.Sound before text after frames rest)
    (step : ∀ {n}, Moves n rest before text after → Moves (n + 1) frames before text after) :
    (crossing.orNone greedy route).Sound before text after frames rest := by
  have none := (sound_through route).move step
  unfold Crossing.orNone
  split
  · exact own.orElse none
  · exact none.orElse own

end Sound

end Crossing

theorem Route.crossing_sound {next : Route → Crossing} {explored : List Frame}
    (later : ∀ route, (next route).Sound before text after frames rest) :
    (route.crossing explored next).Sound before text after frames rest := by
  unfold crossing
  split
  · exact Crossing.sound_blocked
  · exact later _

section Rounds

variable {crossBody : List Frame → Route → Crossing} {body : Pattern}
  (own : ∀ rest route, (crossBody rest route).Sound before text after (.goal body :: rest) rest)
include own

theorem crossTimes_sound (count : Nat) (route : Route) :
    (crossTimes crossBody (fun count => .times count body) rest count route).Sound before text after
      (roundsLeft (fun count => .times count body) count rest) rest := by
  induction count generalizing route with
  | zero => exact Crossing.sound_through route
  | succ more ih => exact ((own _ route).andThen ih).move .moreTimes

theorem crossUpTo_sound (count : Nat) (route : Route) :
    (crossUpTo crossBody (fun count => .upTo greedy count body) rest greedy count route).Sound
      before text after (roundsLeft (fun count => .upTo greedy count body) count rest) rest := by
  induction count generalizing route with
  | zero => exact Crossing.sound_through route
  | succ more ih =>
    exact Route.crossing_sound fun route =>
      (((own _ route).andThen ih).move .upToMore).orNone .upToNone

end Rounds

theorem star_sound {body : Pattern} (own : ∀ rest route,
      (body.cross ⟨before, text.head?.or after⟩ rest route).Sound before text after
        (.goal body :: rest) rest)
    (more : ∀ {n}, Moves n (.goal body :: frames) before text after →
      Moves (n + 1) frames before text after)
    (none : ∀ {n}, Moves n rest before text after → Moves (n + 1) frames before text after) :
    ((body.cross ⟨before, text.head?.or after⟩ frames route).closed.orNone greedy route).Sound
      before text after frames rest :=
  ((own frames route).closed.move more).orNone none

theorem cross_sound (pattern : Pattern) (rest : List Frame) (route : Route) :
    (pattern.cross ⟨before, text.head?.or after⟩ rest route).Sound before text after
      (.goal pattern :: rest) rest := by
  induction pattern generalizing rest route with
  | empty => exact (Crossing.sound_through route).move .empty
  | set members =>
    refine ⟨fun step member => ?_, by simp [cross]⟩
    obtain rfl : step = .read members ⟨rest, route.groups⟩ := by
      simpa [cross, Crossing.reads] using member
    rintro ⟨c, later, rfl, member, works⟩
    exact works.move (.read member)
  | look assertion =>
    simp only [cross]
    split
    · next holds => exact (Crossing.sound_through route).move (.look holds)
    · exact Crossing.sound_blocked
  | cat first second ihFirst ihSecond =>
    exact ((ihFirst _ route).andThen fun route => ihSecond rest route).move .cat
  | alt preferred other ihPreferred ihOther =>
    exact Route.crossing_sound fun route =>
      ((ihPreferred rest route).move .preferred).orElse ((ihOther rest route).move .other)
  | times count body ih =>
    have rounds := @crossTimes_sound _ _ _ rest _ _ ih count route
    cases count with
    | zero => exact rounds.move .noTimes
    | succ more => exact rounds
  | upTo greedy count body ih =>
    have rounds := @crossUpTo_sound _ _ _ rest greedy _ _ ih count route
    cases count with
    | zero => exact rounds.move .upToNone
    | succ more => exact rounds
  | many greedy body ih =>
    refine Crossing.Sound.move ((ih _ route).andThen fun route => ?_) .many
    exact Route.crossing_sound fun route => (Crossing.sound_through route).move .stop
  | star greedy body ih => exact Route.crossing_sound fun route => star_sound ih .more .never
  | group name body ih =>
    refine Crossing.Sound.move ((ih _ route).andThen fun route => ?_) .group
    exact (Crossing.sound_through _).move .leave

theorem framesSteps_sound (frames : List Frame) (route : Route) :
    (Crossing.ofSteps (framesSteps ⟨before, text.head?.or after⟩ frames route)).Sound before text
      after frames [] := by
  induction frames generalizing route with
  | nil =>
    refine ⟨fun step member => ?_, by simp [Crossing.ofSteps]⟩
    obtain rfl : step = .done route.groups := by simpa [framesSteps] using member
    rintro rfl
    exact ⟨0, .done⟩
  | cons frame rest ih =>
    cases frame with
    | goal pattern =>
      rw [framesSteps, Crossing.steps_eq]
      exact ((cross_sound pattern rest route).andThen ih).closed
    | leave name => exact (ih (route.join name)).move .leave
    | again greedy body =>
      simp only [framesSteps]
      split
      · exact Crossing.sound_blocked
      · rw [Crossing.steps_eq]
        exact ((star_sound (cross_sound body) .again .stop).andThen ih).closed

end Sound

/-! ### Matches -/

theorem mem_of_finished? {steps : List Step} {groups : List String}
    (found : finished? steps = some groups) : .done groups ∈ steps := by
  induction steps with
  | nil => cases found
  | cons step rest ih =>
    cases step with
    | done first =>
      cases found
      exact List.mem_cons_self
    | read members next => exact List.mem_cons_of_mem _ (ih found)

theorem Thread.works_of_preferred? {thread : Thread} {before : Option Char} {text : List Char}
    {hit : Hit} (found : thread.preferred? before text = some hit) :
    Works thread.frames before (text.take hit.taken) (text.drop hit.taken).head? := by
  induction text generalizing thread before hit with
  | nil =>
    obtain ⟨groups, last, rfl⟩ := Option.map_eq_some_iff.mp found
    have sound := @framesSteps_sound before none [] thread.frames (.ofGroups thread.groups)
    refine sound.reads (.done groups) ?_ rfl
    rw [Crossing.reads_ofSteps]
    exact mem_of_finished? last
  | cons c rest ih =>
    obtain ⟨step, member, goesOn⟩ := List.exists_of_findSome?_eq_some found
    cases step with
    | done groups =>
      cases goesOn
      have sound := @framesSteps_sound before (some c) [] thread.frames (.ofGroups thread.groups)
      rw [← Crossing.reads_ofSteps (thread.steps _)] at member
      exact sound.reads (.done groups) member rfl
    | read members next =>
      simp only [Step.hit?] at goesOn
      split at goesOn
      · next reads =>
        obtain ⟨later, outcome, rfl⟩ := Option.map_eq_some_iff.mp goesOn
        have sound := @framesSteps_sound before (rest.drop later.taken).head?
          (c :: rest.take later.taken) thread.frames (.ofGroups thread.groups)
        rw [← Crossing.reads_ofSteps (thread.steps _)] at member
        exact sound.reads (.read members next) member ⟨c, _, rfl, reads, ih outcome⟩
      · cases goesOn

theorem describes_of_matchHere? {pattern : Pattern} {before : Option Char} {text : List Char}
    {hit : Hit} (found : pattern.matchHere? before text = some hit) :
    pattern.Describes before (text.take hit.taken) (text.drop hit.taken).head? := by
  rw [matchHere?_eq] at found
  exact works_iff.mp (Thread.works_of_preferred? found)

end Lexicon.Pattern
