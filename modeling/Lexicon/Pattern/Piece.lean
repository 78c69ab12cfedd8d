import Lexicon.Pattern.Footprint

/-! Pieces: the parts of a pattern under reading.

A piece has the pattern that it means, the plan of its automaton, and the depth to which its
text nests one construct in another.
-/

set_option autoImplicit false

namespace Lexicon.Pattern

structure Piece where
  pattern : Pattern
  plan : Plan
  depth : Nat
  deriving DecidableEq, Repr

inductive GroupKind where
  | plain
  | marked
  | named (name : String)
  deriving DecidableEq, Repr

def depthLimit : Nat := 250

namespace Piece

def nothing : Piece := ⟨.empty, .empty, 0⟩

def ofChar (c : Char) : Piece := ⟨.set (.single c), .text [c], 0⟩

def ofSet (members : CharSet) (depth : Nat) : Piece :=
  ⟨.set members, .ofCodes members.codes, depth⟩

def ofAssertion (assertion : Assertion) : Piece := ⟨.look assertion, .look assertion, 0⟩

def depthAround (pieces : List Piece) : Nat :=
  pieces.foldl (fun depth piece => max depth piece.depth) 0 + 1

def sequence (pieces : List Piece) : Piece :=
  match pieces with
  | [only] => only
  | [] => nothing
  | _ =>
      ⟨.sequence (pieces.map Piece.pattern), .sequence (pieces.map Piece.plan),
        depthAround pieces⟩

def oneOf (branches : List Piece) : Piece :=
  match branches with
  | [only] => only
  | _ =>
      ⟨.oneOf (branches.map Piece.pattern), .oneOf (branches.map Piece.plan),
        depthAround branches⟩

def group (kind : GroupKind) (body : Piece) : Piece :=
  let depth := body.depth + 1
  match kind with
  | .plain => { body with depth := depth }
  | .marked => ⟨body.pattern, .group body.plan, depth⟩
  | .named name => ⟨.group name body.pattern, .group body.plan, depth⟩

/-- A body that is never wanted is gone, with the groups in it. -/
def repeated (body : Piece) (count : Count) (greedy : Bool) : Piece :=
  let depth := body.depth + 1
  let count := body.plan.effectiveCount count
  if count.most = some 0 then { nothing with depth := depth }
  else if count = ⟨1, some 1⟩ then { body with depth := depth }
  else
    ⟨body.pattern.repeated body.plan.alwaysReads count greedy, .repeated greedy count body.plan,
      depth⟩

end Piece

end Lexicon.Pattern
