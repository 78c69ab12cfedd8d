import Lexicon.Pattern.CharSet

/-! Patterns: what a text is matched against.

The order of two alternatives and the greed of a repetition do not change which texts a
pattern describes; they say which match is preferred.
-/

set_option autoImplicit false

namespace Lexicon

inductive WordEdge where
  | atEdge
  | notAtEdge
  | start
  | stop
  /-- No word character before the place. -/
  | startHalf
  /-- No word character after the place. -/
  | stopHalf
  deriving DecidableEq, Repr

def WordEdge.holds (before after : Bool) : WordEdge → Bool
  | .atEdge => before != after
  | .notAtEdge => before == after
  | .start => !before && after
  | .stop => before && !after
  | .startHalf => !before
  | .stopHalf => !after

/-- A condition on the place between two characters. -/
inductive Assertion where
  | textStart
  | textEnd
  /-- With `returns`, lines also end with a carriage return, and no place inside a carriage
  return and the newline behind it is at the end of a line. -/
  | lineStart (returns : Bool)
  | lineEnd (returns : Bool)
  /-- The word characters are those of a class. -/
  | word (edge : WordEdge) (members : CharSet)
  deriving DecidableEq, Repr

structure Surroundings where
  before : Option Char
  after : Option Char

def Surroundings.atLineStart (place : Surroundings) (returns : Bool) : Bool :=
  match place.before with
  | none => true
  | some c => c == '\n' || returns && c == '\r' && place.after != some '\n'

def Surroundings.atLineEnd (place : Surroundings) (returns : Bool) : Bool :=
  match place.after with
  | none => true
  | some c =>
      if returns then c == '\r' || c == '\n' && place.before != some '\r' else c == '\n'

def Assertion.holds (place : Surroundings) : Assertion → Bool
  | .textStart => place.before.isNone
  | .textEnd => place.after.isNone
  | .lineStart returns => place.atLineStart returns
  | .lineEnd returns => place.atLineEnd returns
  | .word edge members =>
      edge.holds (place.before.any members.contains) (place.after.any members.contains)

inductive Pattern where
  | empty
  | set (members : CharSet)
  | look (assertion : Assertion)
  | cat (first second : Pattern)
  /-- The first alternative is preferred. -/
  | alt (preferred other : Pattern)
  /-- Exactly `count` rounds of the body. -/
  | times (count : Nat) (body : Pattern)
  /-- Up to `count` rounds, each one only after the one before it; as many as possible if
  greedy. -/
  | upTo (greedy : Bool) (count : Nat) (body : Pattern)
  /-- One or more rounds. -/
  | many (greedy : Bool) (body : Pattern)
  /-- Any number of rounds of a body that always reads something. -/
  | star (greedy : Bool) (body : Pattern)
  | group (name : String) (body : Pattern)
  deriving DecidableEq, Repr, Inhabited

namespace Pattern

def never : Pattern := set .none

def sequence : List Pattern → Pattern
  | [] => empty
  | [only] => only
  | first :: rest => cat first (sequence rest)

/-- Earlier alternatives are preferred. -/
def oneOf : List Pattern → Pattern
  | [] => never
  | [only] => only
  | preferred :: rest => alt preferred (oneOf rest)

end Pattern

/-- How often a repeated pattern may occur; no `most` means no limit. -/
structure Count where
  least : Nat
  most : Option Nat
  deriving DecidableEq, Repr

def Count.optional : Count := ⟨0, some 1⟩
def Count.any : Count := ⟨0, none⟩
def Count.oneOrMore : Count := ⟨1, none⟩

/-- The count of a body that reads nothing: a second round would be like the first. -/
def Count.atMostOnce (count : Count) : Count :=
  ⟨min count.least 1, some (min (count.most.getD 1) 1)⟩

namespace Pattern

/-- The required rounds come first, then the optional ones. `reads` says that the body always
reads something. -/
def repeated (body : Pattern) (reads : Bool) (count : Count) (greedy : Bool) : Pattern :=
  match count.least, count.most with
  | 0, none => if reads then star greedy body else upTo greedy 1 (many greedy body)
  | 1, none => many greedy body
  | more + 1, none => cat (times more body) (many greedy body)
  | least, some most =>
      if most = least then times least body
      else if least = 0 then upTo greedy most body
      else cat (times least body) (upTo greedy (most - least) body)

end Pattern

end Lexicon
