/-! Conditions under which an operation gives no answer at all. -/

set_option autoImplicit false

namespace Lexicon

inductive Crash where
  /-- A line tracker was asked for a place before one it has answered for. -/
  | backwardsQuery (target reached : Nat)
  /-- A line was to be cut inside a character. -/
  | splitCharacter (column : Nat)
  /-- A caret was to be set further to the right than a diagnostic allows. -/
  | caretTooFar (column : Nat)
  deriving DecidableEq, Repr

def Crash.message : Crash → String
  | .backwardsQuery target reached =>
      "line tracker queried backwards: " ++ toString target ++ " < " ++ toString reached
  | .splitCharacter column => "byte " ++ toString column ++ " of the line is inside a character"
  | .caretTooFar column => "the caret cannot be set " ++ toString column ++ " columns in"

end Lexicon
