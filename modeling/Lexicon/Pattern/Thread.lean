import Lexicon.Pattern.Basic

/-! Threads: the ways in which a match may go on from a place in a text.

A thread is the list of what is left to match. Its steps are listed in the order of
preference; each step either finishes the match or waits for a character. All threads that
are alive at a place move together, so a text is read once. Of two threads with the same
work left only the preferred one is kept: the other cannot find a match that the first does
not find.

Without reading anything, a repetition could come back to work that it is still at. Such a
detour ends there: it can lead to nothing that the way to that work does not lead to.
-/

set_option autoImplicit false

namespace Lexicon.Pattern

inductive Frame where
  | goal (pattern : Pattern)
  /-- The end of a group. -/
  | leave (name : String)
  /-- The end of a round of a repetition. -/
  | again (greedy : Bool) (body : Pattern)
  deriving DecidableEq, Repr

/-- The work left and the groups that have taken part so far, latest first. -/
structure Thread where
  frames : List Frame
  groups : List String
  deriving DecidableEq, Repr

inductive Step where
  | done (groups : List String)
  | read (members : CharSet) (thread : Thread)
  deriving DecidableEq, Repr

/-- Whether the work may be part of a repetition, to which it comes back. -/
def Frame.repeats : Frame → Bool
  | again _ _ | goal (star _ _) => true
  | goal _ | leave _ => false

/-- A way through work without reading anything: the groups that have taken part, and the work
with a choice that is being explored on the way, both latest first. -/
structure Route where
  groups : List String
  explored : List (List Frame)
  deriving DecidableEq, Repr

def Route.ofGroups (groups : List String) : Route := ⟨groups, []⟩

def Route.join (route : Route) (name : String) : Route :=
  { route with groups := name :: route.groups }

/-- Explore some work, unless that is already being done. What lies outside repetitions is met
only once, and nothing that came before it is met behind it. -/
def Route.explore? (route : Route) (frames : List Frame) : Option Route :=
  if frames.any Frame.repeats then
    if frames ∈ route.explored then none
    else some { route with explored := frames :: route.explored }
  else some { route with explored := [] }

/-- What a pattern can do at a place: steps that read a character, in two parts, and between
them in the order of preference the passage through the pattern without reading anything, if
there is one. A second passage would lead to the same work as the first and is not listed. -/
structure Crossing where
  before : List Step
  passage : Option Route
  after : List Step
  deriving DecidableEq, Repr

namespace Crossing

def blocked : Crossing := ⟨[], none, []⟩

def through (route : Route) : Crossing := ⟨[], some route, []⟩

def reads (crossing : Crossing) : List Step := crossing.before ++ crossing.after

def closed (crossing : Crossing) : Crossing := ⟨crossing.reads, none, []⟩

def andThen (crossing : Crossing) (next : Route → Crossing) : Crossing :=
  match crossing.passage with
  | none => crossing
  | some route =>
      let second := next route
      match second.passage with
      | none => ⟨crossing.before ++ second.reads ++ crossing.after, none, []⟩
      | some route =>
          ⟨crossing.before ++ second.before, some route, second.after ++ crossing.after⟩

def orElse (preferred other : Crossing) : Crossing :=
  match preferred.passage with
  | none => ⟨preferred.reads ++ other.before, other.passage, other.after⟩
  | some route => ⟨preferred.before, some route, preferred.after ++ other.reads⟩

/-- Prefer another round to none if greedy, and none to another round if not. -/
def orNone (greedy : Bool) (round : Crossing) (route : Route) : Crossing :=
  if greedy then round.orElse (through route) else (through route).orElse round

/-- The steps, with those of the passage in their place. -/
def steps (crossing : Crossing) (next : Route → List Step) : List Step :=
  match crossing.passage with
  | none => crossing.reads
  | some route => crossing.before ++ next route ++ crossing.after

end Crossing

def Route.crossing (route : Route) (frames : List Frame) (next : Route → Crossing) : Crossing :=
  match route.explore? frames with
  | none => .blocked
  | some route => next route

/-- A pattern for the rounds that are left, in front of other work. -/
def roundsLeft (rounds : Nat → Pattern) (count : Nat) (rest : List Frame) : List Frame :=
  if count = 0 then rest else .goal (rounds count) :: rest

def crossTimes (crossBody : List Frame → Route → Crossing) (rounds : Nat → Pattern)
    (rest : List Frame) : Nat → Route → Crossing
  | 0, route => .through route
  | more + 1, route =>
      (crossBody (roundsLeft rounds more rest) route).andThen
        (crossTimes crossBody rounds rest more)

def crossUpTo (crossBody : List Frame → Route → Crossing) (rounds : Nat → Pattern)
    (rest : List Frame) (greedy : Bool) : Nat → Route → Crossing
  | 0, route => .through route
  | more + 1, route =>
      route.crossing (.goal (rounds (more + 1)) :: rest) fun route =>
        ((crossBody (roundsLeft rounds more rest) route).andThen
          (crossUpTo crossBody rounds rest greedy more)).orNone greedy route

def cross (place : Surroundings) (rest : List Frame) (route : Route) : Pattern → Crossing
  | empty => .through route
  | set members => ⟨[.read members ⟨rest, route.groups⟩], none, []⟩
  | look assertion => if assertion.holds place then .through route else .blocked
  | cat first second =>
      (first.cross place (.goal second :: rest) route).andThen fun route =>
        second.cross place rest route
  | alt preferred other =>
      route.crossing (.goal (alt preferred other) :: rest) fun route =>
        (preferred.cross place rest route).orElse (other.cross place rest route)
  | times count body =>
      crossTimes (fun rest route => body.cross place rest route) (fun count => times count body)
        rest count route
  | upTo greedy count body =>
      crossUpTo (fun rest route => body.cross place rest route)
        (fun count => upTo greedy count body) rest greedy count route
  | many greedy body =>
      let repeated := .again greedy body :: rest
      (body.cross place repeated route).andThen fun route =>
        route.crossing repeated .through
  | star greedy body =>
      let repeated := .goal (star greedy body) :: rest
      route.crossing repeated fun route =>
        (body.cross place repeated route).closed.orNone greedy route
  | group name body =>
      (body.cross place (.leave name :: rest) route).andThen fun route =>
        .through (route.join name)

def framesSteps (place : Surroundings) : List Frame → Route → List Step
  | [], route => [.done route.groups]
  | .goal pattern :: rest, route =>
      (pattern.cross place rest route).steps (framesSteps place rest)
  | .leave name :: rest, route => framesSteps place rest (route.join name)
  | .again greedy body :: rest, route =>
      match route.explore? (.again greedy body :: rest) with
      | none => []
      | some route =>
          ((body.cross place (.again greedy body :: rest) route).closed.orNone greedy route).steps
            (framesSteps place rest)

def Thread.steps (place : Surroundings) (thread : Thread) : List Step :=
  framesSteps place thread.frames (.ofGroups thread.groups)

def finished? : List Step → Option (List String)
  | [] => none
  | .done groups :: _ => some groups
  | .read _ _ :: rest => finished? rest

/-- The threads that go on with `c`; what comes after a finished match is not preferred to it
and is dropped. -/
def readersOf (c : Char) : List Step → List Thread
  | [] => []
  | .done _ :: _ => []
  | .read members thread :: rest =>
      if c ∈ members then thread :: readersOf c rest else readersOf c rest

def distinctFrom (seen : List (List Frame)) : List Thread → List Thread
  | [] => []
  | thread :: rest =>
      if thread.frames ∈ seen then distinctFrom seen rest
      else thread :: distinctFrom (thread.frames :: seen) rest

/-- The size of a match in characters, and the groups that took part in it. -/
structure Hit where
  taken : Nat
  groups : List String
  deriving DecidableEq, Repr

def betterHit (taken : Nat) (best : Option Hit) (steps : List Step) : Option Hit :=
  match finished? steps with
  | some groups => some ⟨taken, groups⟩
  | none => best

/-- Move all threads over the text, `taken` characters of which have been read, and give the
preferred match; `best` is the one to fall back on. -/
def run (threads : List Thread) (before : Option Char) (taken : Nat) (best : Option Hit) :
    List Char → Option Hit
  | [] => betterHit taken best (threads.flatMap (·.steps ⟨before, none⟩))
  | c :: rest =>
      let steps := threads.flatMap (·.steps ⟨before, some c⟩)
      match distinctFrom [] (readersOf c steps) with
      | [] => betterHit taken best steps
      | live => run live (some c) (taken + 1) (betterHit taken best steps) rest

def matchHere? (pattern : Pattern) (before : Option Char) (text : List Char) : Option Hit :=
  run [⟨[.goal pattern], []⟩] before 0 none text

theorem betterHit_taken {taken : Nat} {best : Option Hit} {steps : List Step} {hit : Hit}
    (found : betterHit taken best steps = some hit) : hit.taken = taken ∨ best = some hit := by
  unfold betterHit at found
  split at found
  · exact .inl (by cases found; rfl)
  · exact .inr found

theorem run_taken {threads : List Thread} {before : Option Char} {taken : Nat}
    {best : Option Hit} {text : List Char} {hit : Hit}
    (found : run threads before taken best text = some hit) :
    hit.taken ≤ taken + text.length ∨ best = some hit := by
  induction text generalizing threads before taken best with
  | nil =>
    rcases betterHit_taken found with same | same
    · exact .inl (by omega)
    · exact .inr same
  | cons c rest ih =>
    have fallback {steps : List Step} (last : betterHit taken best steps = some hit) :
        hit.taken ≤ taken + (c :: rest).length ∨ best = some hit := by
      rcases betterHit_taken last with same | same
      · exact .inl (by omega)
      · exact .inr same
    simp only [run] at found
    split at found
    · exact fallback found
    · rcases ih found with bound | last
      · exact .inl (by simp only [List.length_cons]; omega)
      · exact fallback last

theorem matchHere?_taken {pattern : Pattern} {before : Option Char} {text : List Char}
    {hit : Hit} (found : pattern.matchHere? before text = some hit) :
    hit.taken ≤ text.length := by
  rcases run_taken found with bound | none
  · omega
  · cases none

end Lexicon.Pattern
