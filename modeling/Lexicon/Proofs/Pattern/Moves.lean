import Lexicon.Pattern.Thread
import Lexicon.Proofs.Pattern.Description

/-! The moves by which work reads a text.

Work here is a list of frames, as a thread has it left. In one move it takes its first frame apart,
in any of the ways there are: no way is preferred and none is tried only once. Main statement: the
work of a pattern can read exactly the texts that the pattern describes (`works_iff`).
-/

set_option autoImplicit false

namespace Lexicon.Pattern

/-- `Moves n frames before text after` says that the work can read `text` to its end in `n` moves,
where `before` and `after` are the characters around the text. -/
inductive Moves : Nat → List Frame → Option Char → List Char → Option Char → Prop where
  | done {before after : Option Char} : Moves 0 [] before [] after
  | empty {n : Nat} {rest : List Frame} {before after : Option Char} {text : List Char} :
      Moves n rest before text after → Moves (n + 1) (.goal .empty :: rest) before text after
  | read {n : Nat} {rest : List Frame} {before after : Option Char} {text : List Char} {c : Char}
      {members : CharSet} : c ∈ members → Moves n rest (some c) text after →
      Moves (n + 1) (.goal (.set members) :: rest) before (c :: text) after
  | look {n : Nat} {rest : List Frame} {before after : Option Char} {text : List Char}
      {assertion : Assertion} : assertion.holds ⟨before, text.head?.or after⟩ = true →
      Moves n rest before text after →
      Moves (n + 1) (.goal (.look assertion) :: rest) before text after
  | cat {n : Nat} {rest : List Frame} {before after : Option Char} {text : List Char}
      {first second : Pattern} : Moves n (.goal first :: .goal second :: rest) before text after →
      Moves (n + 1) (.goal (.cat first second) :: rest) before text after
  | preferred {n : Nat} {rest : List Frame} {before after : Option Char} {text : List Char}
      {preferred other : Pattern} : Moves n (.goal preferred :: rest) before text after →
      Moves (n + 1) (.goal (.alt preferred other) :: rest) before text after
  | other {n : Nat} {rest : List Frame} {before after : Option Char} {text : List Char}
      {preferred other : Pattern} : Moves n (.goal other :: rest) before text after →
      Moves (n + 1) (.goal (.alt preferred other) :: rest) before text after
  | noTimes {n : Nat} {rest : List Frame} {before after : Option Char} {text : List Char}
      {body : Pattern} : Moves n rest before text after →
      Moves (n + 1) (.goal (.times 0 body) :: rest) before text after
  | moreTimes {n count : Nat} {rest : List Frame} {before after : Option Char} {text : List Char}
      {body : Pattern} :
      Moves n (.goal body :: roundsLeft (fun count => .times count body) count rest) before text
        after →
      Moves (n + 1) (.goal (.times (count + 1) body) :: rest) before text after
  | upToNone {n count : Nat} {rest : List Frame} {before after : Option Char} {text : List Char}
      {greedy : Bool} {body : Pattern} : Moves n rest before text after →
      Moves (n + 1) (.goal (.upTo greedy count body) :: rest) before text after
  | upToMore {n count : Nat} {rest : List Frame} {before after : Option Char} {text : List Char}
      {greedy : Bool} {body : Pattern} :
      Moves n (.goal body :: roundsLeft (fun count => .upTo greedy count body) count rest) before
        text after →
      Moves (n + 1) (.goal (.upTo greedy (count + 1) body) :: rest) before text after
  | many {n : Nat} {rest : List Frame} {before after : Option Char} {text : List Char}
      {greedy : Bool} {body : Pattern} :
      Moves n (.goal body :: .again greedy body :: rest) before text after →
      Moves (n + 1) (.goal (.many greedy body) :: rest) before text after
  | never {n : Nat} {rest : List Frame} {before after : Option Char} {text : List Char}
      {greedy : Bool} {body : Pattern} : Moves n rest before text after →
      Moves (n + 1) (.goal (.star greedy body) :: rest) before text after
  | more {n : Nat} {rest : List Frame} {before after : Option Char} {text : List Char}
      {greedy : Bool} {body : Pattern} :
      Moves n (.goal body :: .goal (.star greedy body) :: rest) before text after →
      Moves (n + 1) (.goal (.star greedy body) :: rest) before text after
  | stop {n : Nat} {rest : List Frame} {before after : Option Char} {text : List Char}
      {greedy : Bool} {body : Pattern} : Moves n rest before text after →
      Moves (n + 1) (.again greedy body :: rest) before text after
  | again {n : Nat} {rest : List Frame} {before after : Option Char} {text : List Char}
      {greedy : Bool} {body : Pattern} :
      Moves n (.goal body :: .again greedy body :: rest) before text after →
      Moves (n + 1) (.again greedy body :: rest) before text after
  | group {n : Nat} {rest : List Frame} {before after : Option Char} {text : List Char}
      {name : String} {body : Pattern} :
      Moves n (.goal body :: .leave name :: rest) before text after →
      Moves (n + 1) (.goal (.group name body) :: rest) before text after
  | leave {n : Nat} {rest : List Frame} {before after : Option Char} {text : List Char}
      {name : String} : Moves n rest before text after →
      Moves (n + 1) (.leave name :: rest) before text after

/-- The work can read the text. -/
def Works (frames : List Frame) (before : Option Char) (text : List Char) (after : Option Char) :
    Prop :=
  ∃ n, Moves n frames before text after

/-! ### What work describes -/

/-- The texts of one frame. The end of a round describes the rounds behind it. -/
def Frame.Describes (frame : Frame) (before : Option Char) (text : List Char)
    (after : Option Char) : Prop :=
  match frame with
  | goal pattern => pattern.Describes before text after
  | leave _ => text = []
  | again greedy body => (star greedy body).Describes before text after

def FramesDescribe : List Frame → Option Char → List Char → Option Char → Prop
  | [], _, text, _ => text = []
  | frame :: rest, before, text, after => ∃ left right, text = left ++ right ∧
      frame.Describes before left (right.head?.or after) ∧
      FramesDescribe rest (left.getLast?.or before) right after

theorem head?_append_or (left right : List Char) (after : Option Char) :
    (left ++ right).head?.or after = left.head?.or (right.head?.or after) := by
  rw [List.head?_append, Option.or_assoc]

theorem getLast?_append_or (left right : List Char) (before : Option Char) :
    (left ++ right).getLast?.or before = right.getLast?.or (left.getLast?.or before) := by
  rw [List.getLast?_append, Option.or_assoc]

section Frames

variable {frame first second : Frame} {rest : List Frame} {before after : Option Char}
  {text : List Char}

theorem FramesDescribe.imp (described : FramesDescribe (first :: rest) before text after)
    (wider : ∀ {before after : Option Char} {text : List Char},
      first.Describes before text after → frame.Describes before text after) :
    FramesDescribe (frame :: rest) before text after := by
  obtain ⟨left, right, split, own, behind⟩ := described
  exact ⟨left, right, split, wider own, behind⟩

theorem FramesDescribe.skip (described : FramesDescribe rest before text after)
    (nothing : frame.Describes before [] (text.head?.or after)) :
    FramesDescribe (frame :: rest) before text after :=
  ⟨[], text, rfl, nothing, described⟩

theorem FramesDescribe.join (described : FramesDescribe (first :: second :: rest) before text after)
    (both : ∀ {before after : Option Char} {left right : List Char},
      first.Describes before left (right.head?.or after) →
      second.Describes (left.getLast?.or before) right after →
      frame.Describes before (left ++ right) after) :
    FramesDescribe (frame :: rest) before text after := by
  obtain ⟨left, _, rfl, own, middle, right, rfl, other, behind⟩ := described
  rw [head?_append_or] at own
  rw [← getLast?_append_or] at behind
  exact ⟨left ++ middle, right, (List.append_assoc ..).symm, both own other, behind⟩

theorem FramesDescribe.round {rounds : Nat → Pattern} {count : Nat} {body : Pattern}
    (described : FramesDescribe (.goal body :: roundsLeft rounds count rest) before text after)
    (none : ∀ before after, (rounds 0).Describes before [] after)
    (more : ∀ {before after : Option Char} {left right : List Char},
      body.Describes before left (right.head?.or after) →
      (rounds count).Describes (left.getLast?.or before) right after →
      (rounds (count + 1)).Describes before (left ++ right) after) :
    FramesDescribe (.goal (rounds (count + 1)) :: rest) before text after := by
  cases count with
  | zero =>
    obtain ⟨left, right, split, own, behind⟩ := described
    refine ⟨left, right, split, ?_, behind⟩
    have whole := @more before (right.head?.or after) left [] own (none _ _)
    rwa [List.append_nil] at whole
  | succ count => exact described.join more

end Frames

theorem Describes.many_of_star {greedy : Bool} {body : Pattern} {before last after : Option Char}
    {left right : List Char} (round : body.Describes before left (right.head?.or after))
    (rounds : (star greedy body).Describes last right after)
    (between : last = left.getLast?.or before) :
    (many greedy body).Describes before (left ++ right) after := by
  generalize same : star greedy body = pattern at rounds
  induction rounds generalizing before left with
  | never =>
    rw [List.append_nil]
    exact .once round
  | more next others _ ih =>
    cases same
    subst between
    exact .again round (ih next rfl rfl)
  | _ => cases same

theorem Moves.describes {n : Nat} {frames : List Frame} {before after : Option Char}
    {text : List Char} (moves : Moves n frames before text after) :
    FramesDescribe frames before text after := by
  induction moves with
  | done => rfl
  | empty moves ih => exact ih.skip .empty
  | @read _ _ _ _ text c _ member moves ih => exact ⟨[c], text, rfl, .set member, ih⟩
  | look holds moves ih => exact ih.skip (.look holds)
  | cat moves ih => exact ih.join .cat
  | preferred moves ih => exact ih.imp .preferred
  | other moves ih => exact ih.imp .other
  | noTimes moves ih => exact ih.skip .noTimes
  | moreTimes moves ih => exact ih.round (fun _ _ => .noTimes) .moreTimes
  | upToNone moves ih => exact ih.skip .upToNone
  | upToMore moves ih => exact ih.round (fun _ _ => .upToNone) .upToMore
  | many moves ih => exact ih.join fun round rounds => round.many_of_star rounds rfl
  | never moves ih => exact ih.skip .never
  | more moves ih => exact ih.join .more
  | stop moves ih => exact ih.skip .never
  | again moves ih => exact ih.join .more
  | group moves ih =>
    refine ih.join fun own nothing => ?_
    cases nothing
    rw [List.append_nil]
    exact .group own
  | leave moves ih => exact ih.skip rfl

/-! ### What is described can be read -/

section Works

variable {rest : List Frame} {before after : Option Char} {text : List Char}

theorem Works.move {frames next : List Frame} {first last : Option Char} {whole : List Char}
    (works : Works frames before text after)
    (step : ∀ {n}, Moves n frames before text after → Moves (n + 1) next first whole last) :
    Works next first whole last := by
  obtain ⟨n, moves⟩ := works
  exact ⟨n + 1, step moves⟩

theorem Works.roundsLeft {rounds : Nat → Pattern} {count : Nat}
    (works : Works (.goal (rounds count) :: rest) before text after)
    (none : Works (.goal (rounds 0) :: rest) before text after → Works rest before text after) :
    Works (roundsLeft rounds count rest) before text after := by
  cases count with
  | zero => exact none works
  | succ count => exact works

theorem works_of_noTimes {body : Pattern}
    (works : Works (.goal (.times 0 body) :: rest) before text after) :
    Works rest before text after := by
  obtain ⟨_, moves⟩ := works
  cases moves with
  | noTimes moves => exact ⟨_, moves⟩

theorem works_of_upToNone {greedy : Bool} {body : Pattern}
    (works : Works (.goal (.upTo greedy 0 body) :: rest) before text after) :
    Works rest before text after := by
  obtain ⟨_, moves⟩ := works
  cases moves with
  | upToNone moves => exact ⟨_, moves⟩

theorem Works.again {greedy : Bool} {body : Pattern}
    (works : Works (.goal (.many greedy body) :: rest) before text after) :
    Works (.again greedy body :: rest) before text after := by
  obtain ⟨_, moves⟩ := works
  cases moves with
  | many moves => exact ⟨_, .again moves⟩

theorem Describes.works {pattern : Pattern} {left right : List Char} {next : Option Char}
    (described : pattern.Describes before left next) (same : next = right.head?.or after)
    (behind : Works rest (left.getLast?.or before) right after) :
    Works (.goal pattern :: rest) before (left ++ right) after := by
  -- By the derivation. The work behind is general: a part of a pattern has the other parts there.
  induction described generalizing rest right with
  | empty => exact behind.move .empty
  | set member => exact behind.move (.read member)
  | look holds => exact behind.move (.look (same ▸ holds))
  | preferred inner ih => exact (ih same behind).move .preferred
  | other inner ih => exact (ih same behind).move .other
  | noTimes => exact behind.move .noTimes
  | upToNone => exact behind.move .upToNone
  | never => exact behind.move .never
  | once round ih => exact (ih same (behind.move .stop)).move .many
  | group inner ih => exact (ih same (behind.move .leave)).move .group
  -- What consists of two parts.
  | cat first second ihFirst ihSecond =>
    rw [getLast?_append_or] at behind
    rw [List.append_assoc]
    exact (ihFirst (by rw [head?_append_or, same]) (ihSecond same behind)).move .cat
  | moreTimes round rounds ihRound ihRounds =>
    rw [getLast?_append_or] at behind
    rw [List.append_assoc]
    have left := @Works.roundsLeft _ _ _ _ (fun count => .times count _) _ (ihRounds same behind)
      works_of_noTimes
    exact (ihRound (by rw [head?_append_or, same]) left).move .moreTimes
  | upToMore round rounds ihRound ihRounds =>
    rw [getLast?_append_or] at behind
    rw [List.append_assoc]
    have left := @Works.roundsLeft _ _ _ _ (fun count => .upTo _ count _) _ (ihRounds same behind)
      works_of_upToNone
    exact (ihRound (by rw [head?_append_or, same]) left).move .upToMore
  | again round rounds ihRound ihRounds =>
    rw [getLast?_append_or] at behind
    rw [List.append_assoc]
    exact (ihRound (by rw [head?_append_or, same]) (ihRounds same behind).again).move .many
  | more round rounds ihRound ihRounds =>
    rw [getLast?_append_or] at behind
    rw [List.append_assoc]
    exact (ihRound (by rw [head?_append_or, same]) (ihRounds same behind)).move .more

theorem works_iff {pattern : Pattern} :
    Works [.goal pattern] before text after ↔ pattern.Describes before text after := by
  constructor
  · rintro ⟨n, moves⟩
    obtain ⟨left, _, rfl, own, rfl⟩ := moves.describes
    rwa [List.append_nil]
  · intro described
    have works := @Describes.works [] before after pattern text [] after described rfl ⟨0, .done⟩
    rwa [List.append_nil] at works

end Works

end Lexicon.Pattern
