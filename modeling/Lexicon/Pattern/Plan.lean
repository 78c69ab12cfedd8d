import Lexicon.Pattern.Basic

/-! Plans: patterns in the form from which their automata are laid out.

A plan forgets which groups have names. Characters that follow each other are one text,
alternatives that read single characters are one set, and what all alternatives begin with
stands in front of them.
-/

set_option autoImplicit false

namespace Lexicon.Pattern

inductive Plan where
  | empty
  | text (chars : List Char)
  /-- No character, or one of several. -/
  | set (codes : Text.CodeRanges)
  | look (assertion : Assertion)
  | repeated (greedy : Bool) (count : Count) (body : Plan)
  | group (body : Plan)
  /-- Two or more items; the first one is no `cat` itself. -/
  | cat (first rest : Plan)
  /-- Two or more alternatives; the first one is no `alt` itself. -/
  | alt (first rest : Plan)
  deriving DecidableEq, Repr, Inhabited

namespace Plan

/-- The least number of characters that are read; none if a part of the plan never matches. -/
def least? : Plan → Option Nat
  | empty | look _ => some 0
  | text chars => some chars.length
  | set codes => if codes.isEmpty then none else some 1
  | repeated _ count body => body.least?.map (· * count.least)
  | group body => body.least?
  | cat first rest => first.least?.bind fun least => rest.least?.map (least + ·)
  | alt first rest => first.least?.bind fun least => rest.least?.map (min least)

def alwaysReads (plan : Plan) : Bool := plan.least?.any (0 < ·)

def neverReads : Plan → Bool
  | empty | look _ => true
  | text _ | set _ => false
  | repeated _ count body => count.most.isSome && body.neverReads
  | group body => body.neverReads
  | cat first rest | alt first rest => first.neverReads && rest.neverReads

def hasGroup : Plan → Bool
  | empty | text _ | set _ | look _ => false
  | repeated _ _ body => body.hasGroup
  | group _ => true
  | cat first rest | alt first rest => first.hasGroup || rest.hasGroup

def ofCodes (codes : Text.CodeRanges) : Plan :=
  match codes with
  | [(first, last)] => if first = last then text [Char.ofNat first] else set codes
  | _ => set codes

def items : Plan → List Plan
  | empty => []
  | cat first rest => first :: rest.items
  | plan => [plan]

def branches : Plan → List Plan
  | alt first rest => first :: rest.branches
  | plan => [plan]

def ofItems : List Plan → Plan
  | [] => empty
  | [only] => only
  | first :: rest => cat first (ofItems rest)

def ofBranches : List Plan → Plan
  | [] => set []
  | [only] => only
  | first :: rest => alt first (ofBranches rest)

/-- Put an item in front of others; texts that meet become one. -/
def joinItem (item : Plan) (rest : List Plan) : List Plan :=
  match item, rest with
  | text left, text right :: rest => text (left ++ right) :: rest
  | item, rest => item :: rest

def sequence (plans : List Plan) : Plan := ofItems ((plans.flatMap items).foldr joinItem [])

def onlyChar? : Plan → Option Char
  | text [c] => some c
  | _ => none

def codes? : Plan → Option Text.CodeRanges
  | set codes => some codes
  | _ => none

/-- All alternatives as one set, if each is a single character or each is a set. -/
def mergedSet? (branches : List Plan) : Option Plan :=
  match branches.mapM onlyChar? with
  | some chars =>
      some (ofCodes (chars.foldr (fun c codes => codes.add c.toNat c.toNat) []))
  | none => (branches.mapM codes?).map fun sets => ofCodes (sets.foldr .union [])

def ofFlatBranches (branches : List Plan) : Plan :=
  match branches with
  | [] | [_] => ofBranches branches
  | _ => (mergedSet? branches).getD (ofBranches branches)

/-- The items with which two lists begin alike. Groups are never alike. -/
def sharedItems : List Plan → List Plan → List Plan
  | first :: rest, other :: others =>
      if first = other ∧ first.hasGroup = false then first :: sharedItems rest others else []
  | _, _ => []

def sharedPrefix (branches : List Plan) : List Plan :=
  match branches.map items with
  | [] => []
  | first :: rest =>
      if (first :: rest).all (2 ≤ ·.length) then rest.foldl sharedItems first else []

def oneOf (plans : List Plan) : Plan :=
  let branches := plans.flatMap branches
  match ofFlatBranches branches with
  | alt first rest =>
      match sharedPrefix branches with
      | [] => alt first rest
      | shared =>
          let others := branches.map fun branch => ofItems (branch.items.drop shared.length)
          sequence (shared ++ [ofFlatBranches (others.flatMap Plan.branches)])
  | plan => plan

/-- The count that matters: what reads nothing need not be repeated. -/
def effectiveCount (plan : Plan) (count : Count) : Count :=
  if plan.neverReads then count.atMostOnce else count

end Plan

end Lexicon.Pattern
