import Lexicon.Pattern.Basic

/-! The texts that a pattern describes.

Here a pattern is no more than a set of texts: no match is preferred to another, and the order
of alternatives and the greed of repetitions do not count. An assertion depends on the
characters around the text, so these are part of the relation.
-/

set_option autoImplicit false

namespace Lexicon.Pattern

/-- `pattern.Describes before text after` says that `text` is one of the texts of the pattern,
where `before` and `after` are the characters around it. -/
inductive Describes : Pattern → Option Char → List Char → Option Char → Prop where
  | empty {before after : Option Char} : Describes .empty before [] after
  | set {members : CharSet} {before after : Option Char} {c : Char} :
      c ∈ members → Describes (.set members) before [c] after
  | look {assertion : Assertion} {before after : Option Char} :
      assertion.holds ⟨before, after⟩ = true → Describes (.look assertion) before [] after
  | cat {first second : Pattern} {before after : Option Char} {left right : List Char} :
      Describes first before left (right.head?.or after) →
      Describes second (left.getLast?.or before) right after →
      Describes (.cat first second) before (left ++ right) after
  | preferred {preferred other : Pattern} {before after : Option Char} {text : List Char} :
      Describes preferred before text after → Describes (.alt preferred other) before text after
  | other {preferred other : Pattern} {before after : Option Char} {text : List Char} :
      Describes other before text after → Describes (.alt preferred other) before text after
  | noTimes {body : Pattern} {before after : Option Char} : Describes (.times 0 body) before [] after
  | moreTimes {count : Nat} {body : Pattern} {before after : Option Char}
      {left right : List Char} :
      Describes body before left (right.head?.or after) →
      Describes (.times count body) (left.getLast?.or before) right after →
      Describes (.times (count + 1) body) before (left ++ right) after
  | upToNone {greedy : Bool} {count : Nat} {body : Pattern} {before after : Option Char} :
      Describes (.upTo greedy count body) before [] after
  | upToMore {greedy : Bool} {count : Nat} {body : Pattern} {before after : Option Char}
      {left right : List Char} :
      Describes body before left (right.head?.or after) →
      Describes (.upTo greedy count body) (left.getLast?.or before) right after →
      Describes (.upTo greedy (count + 1) body) before (left ++ right) after
  | once {greedy : Bool} {body : Pattern} {before after : Option Char} {text : List Char} :
      Describes body before text after → Describes (.many greedy body) before text after
  | again {greedy : Bool} {body : Pattern} {before after : Option Char} {left right : List Char} :
      Describes body before left (right.head?.or after) →
      Describes (.many greedy body) (left.getLast?.or before) right after →
      Describes (.many greedy body) before (left ++ right) after
  | never {greedy : Bool} {body : Pattern} {before after : Option Char} :
      Describes (.star greedy body) before [] after
  | more {greedy : Bool} {body : Pattern} {before after : Option Char} {left right : List Char} :
      Describes body before left (right.head?.or after) →
      Describes (.star greedy body) (left.getLast?.or before) right after →
      Describes (.star greedy body) before (left ++ right) after
  | group {name : String} {body : Pattern} {before after : Option Char} {text : List Char} :
      Describes body before text after → Describes (.group name body) before text after

section Laws

variable {greedy : Bool} {before after : Option Char} {text : List Char}

theorem describes_set {members : CharSet} :
    (set members).Describes before text after ↔ ∃ c ∈ members, text = [c] := by
  constructor
  · intro described
    cases described with
    | set member => exact ⟨_, member, rfl⟩
  · rintro ⟨c, member, rfl⟩
    exact .set member

theorem describes_cat {first second : Pattern} :
    (cat first second).Describes before text after ↔
      ∃ left right, text = left ++ right ∧
        first.Describes before left (right.head?.or after) ∧
        second.Describes (left.getLast?.or before) right after := by
  constructor
  · intro described
    cases described with
    | cat left right => exact ⟨_, _, rfl, left, right⟩
  · rintro ⟨left, right, rfl, first, second⟩
    exact .cat first second

theorem describes_alt {preferred other : Pattern} :
    (alt preferred other).Describes before text after ↔
      preferred.Describes before text after ∨ other.Describes before text after := by
  constructor
  · intro described
    cases described with
    | preferred inner => exact .inl inner
    | other inner => exact .inr inner
  · rintro (inner | inner)
    · exact .preferred inner
    · exact .other inner

theorem describes_optional {body : Pattern} :
    (upTo greedy 1 body).Describes before text after ↔
      text = [] ∨ body.Describes before text after := by
  constructor
  · intro described
    cases described with
    | upToNone => exact .inl rfl
    | upToMore first rest =>
      cases rest
      rw [List.append_nil]
      exact .inr first
  · rintro (rfl | inner)
    · exact .upToNone
    · have whole := @Describes.upToMore greedy 0 body before after text [] inner .upToNone
      rwa [List.append_nil] at whole

/-! ### Repetitions, round by round -/

theorem Describes.star_rounds {body : Pattern} {motive : List Char → Prop}
    (described : (star greedy body).Describes before text after) (none : motive [])
    (more : ∀ {before after : Option Char} {round rest : List Char},
      body.Describes before round after → motive rest → motive (round ++ rest)) :
    motive text := by
  -- The induction is on the derivation, so the pattern has to be a variable.
  generalize same : star greedy body = pattern at described
  induction described with
  | never => exact none
  | more round rest ihRound ihRest =>
    cases same
    exact more round (ihRest rfl)
  | _ => cases same

theorem Describes.many_rounds {body : Pattern} {motive : List Char → Prop}
    (described : (many greedy body).Describes before text after)
    (once : ∀ {before after : Option Char} {round : List Char},
      body.Describes before round after → motive round)
    (more : ∀ {before after : Option Char} {round rest : List Char},
      body.Describes before round after → motive rest → motive (round ++ rest)) :
    motive text := by
  generalize same : many greedy body = pattern at described
  induction described with
  | once round ih =>
    cases same
    exact once round
  | again round rest ihRound ihRest =>
    cases same
    exact more round (ihRest rfl)
  | _ => cases same

theorem Describes.star_cons {body : Pattern} {c : Char} {rest : List Char}
    (round : body.Describes before [c] (rest.head?.or after))
    (rounds : (star greedy body).Describes (some c) rest after) :
    (star greedy body).Describes before (c :: rest) after :=
  @Describes.more greedy body before after [c] rest round rounds

theorem describes_star_set {members : CharSet} :
    (star greedy (set members)).Describes before text after ↔ ∀ c ∈ text, c ∈ members := by
  constructor
  · intro described
    apply described.star_rounds
    · simp
    · intro before after round rest inner others
      obtain ⟨c, member, rfl⟩ := describes_set.mp inner
      simpa [member] using others
  · intro inside
    induction text generalizing before with
    | nil => exact .never
    | cons c rest ih =>
      have round : c ∈ members := inside c List.mem_cons_self
      exact .star_cons (.set round) (ih fun d member => inside d (List.mem_cons_of_mem c member))

theorem describes_many_set {members : CharSet} :
    (many greedy (set members)).Describes before text after ↔
      text ≠ [] ∧ ∀ c ∈ text, c ∈ members := by
  constructor
  · intro described
    apply described.many_rounds
    · intro before after round inner
      obtain ⟨c, member, rfl⟩ := describes_set.mp inner
      simpa using member
    · intro before after round rest inner others
      obtain ⟨c, member, rfl⟩ := describes_set.mp inner
      simpa [member] using others.2
  · rintro ⟨filled, inside⟩
    -- The last character is the one that needs no further round.
    induction text generalizing before with
    | nil => exact absurd rfl filled
    | cons c rest ih =>
      have round : c ∈ members := inside c List.mem_cons_self
      cases rest with
      | nil => exact .once (.set round)
      | cons d rest =>
        have rounds : (many greedy (set members)).Describes (some c) (d :: rest) after :=
          ih (by simp) fun d member => inside d (List.mem_cons_of_mem c member)
        exact @Describes.again greedy (set members) before after [c] (d :: rest) (.set round) rounds

end Laws

end Lexicon.Pattern
