import Lexicon.Proofs.Pattern.Alternatives
import Lexicon.Proofs.Pattern.Sequence
import Lexicon.Proofs.Pattern.Soundness

/-! Which texts have a match.

Main statement: a pattern has a match where a text begins exactly if it describes a first part of
the text (`matchHere?_isSome_iff`). A detour back to work that is being explored is cut off, and a
passage through some work is listed once. Nothing is lost by that: what a detour leads to takes
fewer moves from the work that it comes back to.
-/

set_option autoImplicit false

namespace Lexicon.Pattern

section Complete

variable {before after : Option Char} {text : List Char} {known wider : List (List Frame)}
  {frames middle rest : List Frame} {crossing preferred other : Crossing} {next : Route → Crossing}
  {route : Route} {n m : Nat}

/-- A text that some work reads in `n` moves can be read by way of the crossing: by a step, by the
passage to `rest`, or from some known work. It takes fewer moves from there. -/
inductive Crossing.Reaches (before : Option Char) (text : List Char) (after : Option Char)
    (known : List (List Frame)) (rest : List Frame) (crossing : Crossing) (n : Nat) : Prop where
  | read {step : Step} : step ∈ crossing.reads → step.Leads text after →
      Reaches before text after known rest crossing n
  | pass {m : Nat} : crossing.passage.isSome → m < n → Moves m rest before text after →
      Reaches before text after known rest crossing n
  | back {frames : List Frame} {m : Nat} : frames ∈ known → m < n →
      Moves m frames before text after → Reaches before text after known rest crossing n

/-- All that the work can read is reached, if the work is not known itself. -/
def Crossing.Handles (before : Option Char) (text : List Char) (after : Option Char)
    (known : List (List Frame)) (rest : List Frame) (crossing : Crossing) (frames : List Frame) :
    Prop :=
  frames ∈ known ∨
    ∀ n, Moves n frames before text after → crossing.Reaches before text after known rest n

/-- The work explored on the way counts as known behind the passage: nothing that it can read is
left out either. -/
def Crossing.Passes (before : Option Char) (text : List Char) (after : Option Char)
    (known : List (List Frame)) (rest : List Frame) (crossing : Crossing) : Prop :=
  ∀ route, crossing.passage = some route → ∀ work ∈ route.explored,
    crossing.Handles before text after known rest work

/-- The crossing leaves out nothing that `frames` can read. -/
structure Crossing.Covers (before : Option Char) (text : List Char) (after : Option Char)
    (known : List (List Frame)) (frames rest : List Frame) (crossing : Crossing) : Prop where
  own : crossing.Handles before text after known rest frames
  passed : crossing.Passes before text after known rest

/-- The same although `frames` is known: what is known is being explored by this crossing. -/
structure Crossing.Explores (before : Option Char) (text : List Char) (after : Option Char)
    (known : List (List Frame)) (frames rest : List Frame) (crossing : Crossing) : Prop where
  own : ∀ n, Moves n frames before text after →
    crossing.Reaches before text after known rest n
  passed : crossing.Passes before text after known rest

namespace Crossing

theorem Reaches.imp (reaches : crossing.Reaches before text after known rest n) (bound : n ≤ m)
    (wide : ∀ work ∈ known, work ∈ wider) (reads : ∀ step ∈ crossing.reads, step ∈ other.reads)
    (passage : crossing.passage.isSome → other.passage.isSome) :
    other.Reaches before text after wider rest m := by
  cases reaches with
  | read member leads => exact .read (reads _ member) leads
  | pass through fewer moves => exact .pass (passage through) (by omega) moves
  | back member fewer moves => exact .back (wide _ member) (by omega) moves

theorem Reaches.mono (reaches : crossing.Reaches before text after known rest n) (bound : n ≤ m) :
    crossing.Reaches before text after known rest m :=
  reaches.imp bound (fun _ => id) (fun _ => id) id

theorem Handles.imp (handles : crossing.Handles before text after known rest frames)
    (wide : ∀ work ∈ known, work ∈ wider) (reads : ∀ step ∈ crossing.reads, step ∈ other.reads)
    (passage : crossing.passage.isSome → other.passage.isSome) :
    other.Handles before text after wider rest frames :=
  Or.imp (wide frames) (fun all n moves => (all n moves).imp (Nat.le_refl n) wide reads passage)
    handles

theorem Handles.reaches (handles : crossing.Handles before text after known rest frames)
    (fewer : m < n) (moves : Moves m frames before text after) :
    crossing.Reaches before text after known rest n := by
  rcases handles with member | all
  · exact .back member fewer moves
  · exact (all m moves).mono (by omega)

theorem passes_through (explored : ∀ work ∈ route.explored, work ∈ known) :
    (through route).Passes before text after known rest := by
  intro _ same work member
  cases same
  exact .inl (explored work member)

theorem covers_through (explored : ∀ work ∈ route.explored, work ∈ known)
    (first : ∀ n, Moves n frames before text after → ∃ m < n, Moves m rest before text after) :
    (through route).Covers before text after known frames rest := by
  refine ⟨.inr fun n moves => ?_, passes_through explored⟩
  obtain ⟨m, fewer, later⟩ := first n moves
  exact .pass rfl fewer later

theorem covers_blocked (member : frames ∈ known) :
    blocked.Covers before text after known frames rest :=
  ⟨.inl member, by simp [Passes, blocked]⟩

namespace Covers

theorem mono (covers : crossing.Covers before text after known frames rest)
    (wide : ∀ work ∈ known, work ∈ wider) :
    crossing.Covers before text after wider frames rest where
  own := covers.own.imp wide (fun _ => id) id
  passed route passage work member :=
    (covers.passed route passage work member).imp wide (fun _ => id) id

theorem move (covers : crossing.Covers before text after known middle rest)
    (first : ∀ n, Moves n frames before text after → ∃ m < n, Moves m middle before text after) :
    crossing.Covers before text after known frames rest where
  own := by
    refine .inr fun n moves => ?_
    obtain ⟨m, fewer, later⟩ := first n moves
    exact covers.own.reaches fewer later
  passed := covers.passed

theorem closed (covers : crossing.Covers before text after known frames rest)
    (passage : crossing.passage = none) :
    crossing.closed.Covers before text after known frames rest where
  own := covers.own.imp (fun _ => id) (by simp) (by simp [passage])
  passed _ impossible := by cases impossible

theorem detour (covers : crossing.Covers before text after known frames middle)
    (member : middle ∈ known) :
    crossing.closed.Covers before text after known frames rest := by
  refine ⟨Or.imp_right (fun all n moves => ?_) covers.own, fun _ impossible => by cases impossible⟩
  cases all n moves with
  | read member leads => exact .read (by simpa using member) leads
  | pass _ fewer moves => exact .back member fewer moves
  | back member fewer moves => exact .back member fewer moves

theorem reaches_andThen (first : crossing.Covers before text after known frames middle)
    (second : ∀ route, crossing.passage = some route →
      (next route).Covers before text after (frames :: route.explored) middle rest)
    (reaches : crossing.Reaches before text after known middle n) :
    (crossing.andThen next).Reaches before text after known rest n := by
  -- By the number of moves. Where the second part comes back to work that was explored before it,
  -- the first part is met again, with fewer moves to go.
  induction n using Nat.strongRecOn with
  | ind n ih =>
    cases reaches with
    | read member leads => exact .read (mem_reads_andThen.mpr (.inl member)) leads
    | back member fewer moves => exact .back member fewer moves
    | @pass m through fewer moves =>
      obtain ⟨route, passage⟩ := Option.isSome_iff_exists.mp through
      have again {work : List Frame} {m : Nat} (member : work ∈ frames :: route.explored)
          (fewer : m < n) (moves : Moves m work before text after) :
          (crossing.andThen next).Reaches before text after known rest n := by
        have handles : crossing.Handles before text after known middle work := by
          rcases List.mem_cons.mp member with rfl | explored
          · exact first.own
          · exact first.passed route passage work explored
        rcases handles with member | all
        · exact .back member fewer moves
        · exact (ih m fewer (all m moves)).mono (by omega)
      rcases (second route passage).own with member | all
      · exact again member fewer moves
      · cases all m moves with
        | read member leads =>
          exact .read (mem_reads_andThen.mpr (.inr ⟨route, passage, member⟩)) leads
        | pass last less moves =>
          exact .pass (by simpa [passage_andThen, passage] using last) (by omega) moves
        | back member less moves => exact again member (by omega) moves

theorem andThen (first : crossing.Covers before text after known frames middle)
    (second : ∀ route, crossing.passage = some route →
      (next route).Covers before text after (frames :: route.explored) middle rest) :
    (crossing.andThen next).Covers before text after known frames rest := by
  have lift {work : List Frame} (handles : crossing.Handles before text after known middle work) :
      (crossing.andThen next).Handles before text after known rest work :=
    Or.imp_right (fun all n moves => first.reaches_andThen second (all n moves)) handles
  refine ⟨lift first.own, fun last through work member => ?_⟩
  rw [passage_andThen] at through
  obtain ⟨route, passage, later⟩ := Option.bind_eq_some_iff.mp through
  have known {work : List Frame} (member : work ∈ frames :: route.explored) :
      (crossing.andThen next).Handles before text after known rest work := by
    rcases List.mem_cons.mp member with rfl | explored
    · exact lift first.own
    · exact lift (first.passed route passage work explored)
  rcases (second route passage).passed last later work member with member | all
  · exact known member
  · refine .inr fun n moves => ?_
    cases all n moves with
    | read member leads =>
      exact .read (mem_reads_andThen.mpr (.inr ⟨route, passage, member⟩)) leads
    | pass _ less moves => exact .pass (by simp [passage_andThen, passage, later]) less moves
    | back member less moves => exact (known member).reaches less moves

end Covers

theorem explores_orElse (ways : ∀ n, Moves n frames before text after →
      preferred.Reaches before text after known rest n ∨
        other.Reaches before text after known rest n)
    (first : preferred.Passes before text after known rest)
    (second : other.Passes before text after known rest) :
    (preferred.orElse other).Explores before text after known frames rest := by
  have readsFirst : ∀ step ∈ preferred.reads, step ∈ (preferred.orElse other).reads :=
    fun step member => mem_reads_orElse.mpr (.inl member)
  have readsSecond : ∀ step ∈ other.reads, step ∈ (preferred.orElse other).reads :=
    fun step member => mem_reads_orElse.mpr (.inr member)
  have passFirst : preferred.passage.isSome → (preferred.orElse other).passage.isSome := by
    rw [passage_orElse, Option.isSome_or]
    exact fun through => by simp [through]
  have passSecond : other.passage.isSome → (preferred.orElse other).passage.isSome := by
    rw [passage_orElse, Option.isSome_or]
    exact fun through => by simp [through]
  constructor
  · intro n moves
    rcases ways n moves with reaches | reaches
    · exact reaches.imp (Nat.le_refl n) (fun _ => id) readsFirst passFirst
    · exact reaches.imp (Nat.le_refl n) (fun _ => id) readsSecond passSecond
  · intro route through work member
    rw [passage_orElse] at through
    rcases Option.or_eq_some_iff.mp through with passage | ⟨-, passage⟩
    · exact (first route passage work member).imp (fun _ => id) readsFirst passFirst
    · exact (second route passage work member).imp (fun _ => id) readsSecond passSecond

theorem explores_orNone {greedy : Bool} (explored : ∀ work ∈ route.explored, work ∈ known)
    (round : crossing.Covers before text after known middle rest)
    (ways : ∀ n, Moves n frames before text after →
      ∃ m < n, Moves m middle before text after ∨ Moves m rest before text after) :
    (crossing.orNone greedy route).Explores before text after known frames rest := by
  have both : ∀ n, Moves n frames before text after →
      crossing.Reaches before text after known rest n ∨
        (through route).Reaches before text after known rest n := by
    intro n moves
    obtain ⟨m, fewer, more | none⟩ := ways n moves
    · exact .inl (round.own.reaches fewer more)
    · exact .inr (.pass rfl fewer none)
  unfold orNone
  split
  · exact explores_orElse both round.passed (passes_through explored)
  · exact explores_orElse (fun n moves => (both n moves).symm) (passes_through explored)
      round.passed

end Crossing

/-- Work that offers a choice counts as known while it is explored. -/
theorem Route.crossing_covers (explored : ∀ work ∈ route.explored, work ∈ known)
    (inside : ∀ inner : Route, (∀ work ∈ inner.explored, work ∈ frames :: known) →
      (next inner).Explores before text after (frames :: known) frames rest) :
    (route.crossing frames next).Covers before text after known frames rest := by
  unfold crossing
  cases opened : route.explore? frames with
  | none =>
    refine Crossing.covers_blocked (explored frames ?_)
    unfold explore? at opened
    grind
  | some inner =>
    have seen : ∀ work ∈ inner.explored, work ∈ frames :: known := by
      unfold explore? at opened
      grind
    have whole := inside inner seen
    -- Coming back to the work itself takes fewer moves.
    have forget {n : Nat}
        (reaches : (next inner).Reaches before text after (frames :: known) rest n) :
        (next inner).Reaches before text after known rest n := by
      induction n using Nat.strongRecOn with
      | ind n ih =>
        cases reaches with
        | read member leads => exact .read member leads
        | pass through fewer moves => exact .pass through fewer moves
        | back member fewer moves =>
          rcases List.mem_cons.mp member with rfl | member
          · exact (ih _ fewer (whole.own _ moves)).mono (by omega)
          · exact .back member fewer moves
    refine ⟨.inr fun n moves => forget (whole.own n moves), fun last through work member => ?_⟩
    rcases whole.passed last through work member with member | all
    · rcases List.mem_cons.mp member with rfl | member
      · exact .inr fun n moves => forget (whole.own n moves)
      · exact .inl member
    · exact .inr fun n moves => forget (all n moves)

section Rounds

variable {crossBody : List Frame → Route → Crossing} {body : Pattern}
  (own : ∀ rest route, (crossBody rest route).Covers before text after route.explored
    (.goal body :: rest) rest)
include own

theorem round_covers (rounds : Nat → Pattern) {others : Nat → Route → Crossing} {count : Nat}
    (route : Route) (none : others 0 = .through)
    (more : count ≠ 0 → ∀ route, (others count route).Covers before text after route.explored
      (.goal (rounds count) :: rest) rest) :
    ((crossBody (roundsLeft rounds count rest) route).andThen (others count)).Covers before text
      after route.explored (.goal body :: roundsLeft rounds count rest) rest := by
  cases count with
  | zero =>
    rw [none, Crossing.andThen_through]
    exact own rest route
  | succ m =>
    exact (own _ route).andThen fun route _ =>
      (more (Nat.succ_ne_zero m) route).mono fun _ => List.mem_cons_of_mem _

theorem crossTimes_covers (count : Nat) (route : Route) :
    (crossTimes crossBody (fun count => .times count body) rest count route).Covers before text
      after route.explored (.goal (.times count body) :: rest) rest := by
  induction count generalizing route with
  | zero =>
    refine Crossing.covers_through (fun _ => id) fun n moves => ?_
    cases moves with
    | noTimes moves => exact ⟨_, Nat.lt_succ_self _, moves⟩
  | succ count ih =>
    refine (round_covers own (fun count => .times count body) route rfl fun _ => ih).move
      fun n moves => ?_
    cases moves with
    | moreTimes moves => exact ⟨_, Nat.lt_succ_self _, moves⟩

theorem crossUpTo_covers (greedy : Bool) (count : Nat) (route : Route) :
    (crossUpTo crossBody (fun count => .upTo greedy count body) rest greedy count route).Covers
      before text after route.explored (.goal (.upTo greedy count body) :: rest) rest := by
  induction count generalizing route with
  | zero =>
    refine Crossing.covers_through (fun _ => id) fun n moves => ?_
    cases moves with
    | upToNone moves => exact ⟨_, Nat.lt_succ_self _, moves⟩
  | succ count ih =>
    refine Route.crossing_covers (fun _ => id) fun inner seen => ?_
    have round := round_covers own (fun count => .upTo greedy count body) inner rfl fun _ => ih
    refine Crossing.explores_orNone seen (round.mono seen) fun n moves => ?_
    cases moves with
    | upToNone moves => exact ⟨_, Nat.lt_succ_self _, .inr moves⟩
    | upToMore moves => exact ⟨_, Nat.lt_succ_self _, .inl moves⟩

end Rounds

theorem star_covers {body : Pattern} {greedy : Bool} (own : ∀ rest route,
      (body.cross ⟨before, text.head?.or after⟩ rest route).Covers before text after route.explored
        (.goal body :: rest) rest)
    (ways : ∀ n, Moves n frames before text after → ∃ m < n,
      Moves m (.goal body :: frames) before text after ∨ Moves m rest before text after)
    (route : Route) :
    (route.crossing frames fun route =>
      (body.cross ⟨before, text.head?.or after⟩ frames route).closed.orNone greedy route).Covers
        before text after route.explored frames rest :=
  Route.crossing_covers (fun _ => id) fun inner seen =>
    Crossing.explores_orNone seen (((own frames inner).mono seen).detour List.mem_cons_self) ways

theorem cross_covers (pattern : Pattern) (rest : List Frame) (route : Route) :
    (pattern.cross ⟨before, text.head?.or after⟩ rest route).Covers before text after route.explored
      (.goal pattern :: rest) rest := by
  induction pattern generalizing rest route with
  | empty =>
    refine Crossing.covers_through (fun _ => id) fun n moves => ?_
    cases moves with
    | empty moves => exact ⟨_, Nat.lt_succ_self _, moves⟩
  | set members =>
    refine ⟨.inr fun n moves => ?_, by simp [Crossing.Passes, cross]⟩
    cases moves with
    | @read _ _ _ _ later c _ member moves =>
      have first : Step.read members ⟨rest, route.groups⟩ ∈ (cross ⟨before, some c⟩ rest route
          (.set members)).reads := List.mem_cons_self
      exact .read first ⟨c, later, rfl, member, _, moves⟩
  | look assertion =>
    simp only [cross]
    split
    · refine Crossing.covers_through (fun _ => id) fun n moves => ?_
      cases moves with
      | look _ moves => exact ⟨_, Nat.lt_succ_self _, moves⟩
    · next fails =>
      refine ⟨.inr fun n moves => ?_, by simp [Crossing.Passes, Crossing.blocked]⟩
      cases moves with
      | look holds _ => exact absurd holds fails
  | cat first second ihFirst ihSecond =>
    have both := (ihFirst (.goal second :: rest) route).andThen fun route _ =>
      (ihSecond rest route).mono fun _ => List.mem_cons_of_mem _
    refine both.move fun n moves => ?_
    cases moves with
    | cat moves => exact ⟨_, Nat.lt_succ_self _, moves⟩
  | alt preferred other ihPreferred ihOther =>
    refine Route.crossing_covers (fun _ => id) fun inner seen => ?_
    have first := (ihPreferred rest inner).mono seen
    have second := (ihOther rest inner).mono seen
    refine Crossing.explores_orElse (fun n moves => ?_) first.passed second.passed
    cases moves with
    | preferred moves => exact .inl (first.own.reaches (Nat.lt_succ_self _) moves)
    | other moves => exact .inr (second.own.reaches (Nat.lt_succ_self _) moves)
  | times count body ih => exact crossTimes_covers ih count route
  | upTo greedy count body ih => exact crossUpTo_covers ih greedy count route
  | many greedy body ih =>
    refine Crossing.Covers.move ((ih _ route).andThen fun route _ => ?_) fun n moves => ?_
    · refine Route.crossing_covers (fun _ => List.mem_cons_of_mem _) fun inner seen => ?_
      refine ⟨fun n moves => ?_, Crossing.passes_through seen⟩
      cases moves with
      | stop moves => exact .pass rfl (Nat.lt_succ_self _) moves
      -- The body in front of further rounds is where the first part began.
      | again moves =>
        exact .back (List.mem_cons_of_mem _ List.mem_cons_self) (Nat.lt_succ_self _) moves
    · cases moves with
      | many moves => exact ⟨_, Nat.lt_succ_self _, moves⟩
  | star greedy body ih =>
    refine star_covers ih (fun n moves => ?_) route
    cases moves with
    | never moves => exact ⟨_, Nat.lt_succ_self _, .inr moves⟩
    | more moves => exact ⟨_, Nat.lt_succ_self _, .inl moves⟩
  | group name body ih =>
    refine Crossing.Covers.move ((ih _ route).andThen fun route _ => ?_) fun n moves => ?_
    · refine @Crossing.covers_through _ _ _ _ _ _ (route.join name)
        (fun _ => List.mem_cons_of_mem _) fun n moves => ?_
      cases moves with
      | leave moves => exact ⟨_, Nat.lt_succ_self _, moves⟩
    · cases moves with
      | group moves => exact ⟨_, Nat.lt_succ_self _, moves⟩

theorem framesSteps_covers (frames : List Frame) (route : Route) :
    (Crossing.ofSteps (framesSteps ⟨before, text.head?.or after⟩ frames route)).Covers before text
      after route.explored frames [] := by
  induction frames generalizing route with
  | nil =>
    refine ⟨.inr fun n moves => ?_, by simp [Crossing.Passes, Crossing.ofSteps]⟩
    cases moves with
    | done =>
      have last : Step.done route.groups ∈
          (Crossing.ofSteps (framesSteps ⟨before, none.or after⟩ [] route)).reads :=
        List.mem_cons_self
      exact .read last rfl
  | cons frame rest ih =>
    have behind {first : List Frame} {crossing : Crossing}
        (covers : crossing.Covers before text after route.explored first rest) :
        (Crossing.ofSteps (crossing.steps (framesSteps ⟨before, text.head?.or after⟩ rest))).Covers
          before text after route.explored first [] := by
      rw [Crossing.steps_eq]
      have whole := covers.andThen fun route _ => (ih route).mono fun _ => List.mem_cons_of_mem _
      exact whole.closed (by simp [Crossing.passage_andThen, Crossing.ofSteps])
    cases frame with
    | goal pattern => exact behind (cross_covers pattern rest route)
    | leave name =>
      refine (ih (route.join name)).move fun n moves => ?_
      cases moves with
      | leave moves => exact ⟨_, Nat.lt_succ_self _, moves⟩
    | again greedy body =>
      have round := behind (@star_covers before after text (.again greedy body :: rest) rest body
        greedy (cross_covers body) (fun n moves => by
          cases moves with
          | stop moves => exact ⟨_, Nat.lt_succ_self _, .inr moves⟩
          | again moves => exact ⟨_, Nat.lt_succ_self _, .inl moves⟩) route)
      simp only [framesSteps]
      unfold Route.crossing at round
      split
      · next closed => simpa [closed, Crossing.blocked, Crossing.steps, Crossing.reads] using round
      · next opened => simpa [opened] using round

end Complete

/-! ### Matches -/

theorem Thread.exists_step {n : Nat} {thread : Thread} {before after : Option Char}
    {text : List Char} (moves : Moves n thread.frames before text after) :
    ∃ step ∈ thread.steps ⟨before, text.head?.or after⟩, step.Leads text after := by
  have covers := @framesSteps_covers before after text thread.frames (.ofGroups thread.groups)
  rcases covers.own with impossible | all
  · cases impossible
  · cases all n moves with
    | read member leads =>
      rw [Crossing.reads_ofSteps] at member
      exact ⟨_, member, leads⟩
    | pass through _ _ => cases through
    | back member _ _ => cases member

theorem Thread.preferred?_isSome {n : Nat} {thread : Thread} {before : Option Char}
    {left right : List Char} (moves : Moves n thread.frames before left right.head?) :
    (thread.preferred? before (left ++ right)).isSome := by
  induction left generalizing thread before n with
  | nil =>
    obtain ⟨step, member, leads⟩ := Thread.exists_step moves
    cases step with
    | read members next =>
      obtain ⟨_, _, impossible, _⟩ := leads
      cases impossible
    | done groups =>
      cases right with
      | nil =>
        rw [List.append_nil, preferred?, Option.isSome_map]
        exact finished?_isSome member
      | cons c rest => exact findSome?_hit?_isSome c _ member
  | cons c left ih =>
    obtain ⟨step, member, leads⟩ := Thread.exists_step moves
    cases step with
    | done groups => cases leads
    | read members next =>
      obtain ⟨_, _, same, reads, _, later⟩ := leads
      cases same
      rw [List.cons_append, preferred?, List.findSome?_isSome_iff]
      refine ⟨.read members next, member, ?_⟩
      simpa [Step.hit?, reads] using ih later

theorem matchHere?_isSome_iff {pattern : Pattern} {before : Option Char} {text : List Char} :
    (pattern.matchHere? before text).isSome ↔
      ∃ left right, text = left ++ right ∧ pattern.Describes before left right.head? := by
  constructor
  · intro found
    obtain ⟨hit, found⟩ := Option.isSome_iff_exists.mp found
    exact ⟨text.take hit.taken, text.drop hit.taken, (List.take_append_drop ..).symm,
      describes_of_matchHere? found⟩
  · rintro ⟨left, right, rfl, described⟩
    obtain ⟨_, moves⟩ := works_iff.mpr described
    rw [matchHere?_eq]
    exact Thread.preferred?_isSome moves

theorem occursIn_iff {pattern : Pattern} {text : List Char} :
    pattern.occursIn text ↔ ∃ front part back, text = front ++ (part ++ back) ∧
      pattern.Describes front.getLast? part back.head? := by
  unfold occursIn
  constructor
  · intro occurs
    obtain ⟨⟨skipped, hit⟩, found⟩ := Option.isSome_iff_exists.mp occurs
    obtain ⟨-, here⟩ := search_leftmost found
    have described := describes_of_matchHere? here
    rw [Cursor.advance_before, Cursor.advance_rest, Cursor.ofText, Option.or_none] at described
    exact ⟨text.take skipped, _, _, by rw [List.take_append_drop, List.take_append_drop], described⟩
  · rintro ⟨front, part, back, rfl, described⟩
    have here := matchHere?_isSome_iff.mpr ⟨part, back, rfl, described⟩
    cases searched : pattern.search (.ofText (front ++ (part ++ back))) with
    | some outcome => rfl
    | none =>
      have nowhere := search_none searched front.length
      rw [Cursor.advance_before, Cursor.advance_rest, Cursor.ofText, List.take_left,
        List.drop_left, Option.or_none] at nowhere
      rw [nowhere] at here
      cases here

end Lexicon.Pattern
