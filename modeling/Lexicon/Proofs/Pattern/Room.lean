import Lexicon.Pattern.Footprint
import Lexicon.Pattern.Reading
import Mathlib.Algebra.GroupWithZero.Nat

/-! The room and the depth of choices among groups.

The automaton of a choice takes the room of all its branches, in whatever order they stand. So if a
choice among groups is admitted, it is admitted in any other order too (`admit_reordered`).
-/

set_option autoImplicit false

namespace Lexicon.Pattern

namespace Plan

def isGroup : Plan → Bool
  | group _ => true
  | _ => false

section Groups

variable {first second : Plan} {rest plans others : List Plan} {direction : Direction}

theorem branches_of_isGroup {plan : Plan} (isGroup : plan.isGroup) : plan.branches = [plan] := by
  cases plan <;> first | rfl | cases isGroup

theorem flatMap_branches (groups : ∀ plan ∈ plans, plan.isGroup) :
    plans.flatMap branches = plans := by
  induction plans with
  | nil => rfl
  | cons plan rest ih =>
    obtain ⟨own, later⟩ := List.forall_mem_cons.mp groups
    rw [List.flatMap_cons, branches_of_isGroup own, ih later, List.singleton_append]

theorem oneOf_groups (groups : ∀ plan ∈ first :: second :: rest, plan.isGroup) :
    oneOf (first :: second :: rest) = alt first (ofBranches (second :: rest)) := by
  have own := groups first List.mem_cons_self
  unfold oneOf
  rw [flatMap_branches groups]
  cases first with
  | group body =>
    simp [ofFlatBranches, mergedSet?, onlyChar?, codes?, ofBranches, sharedPrefix, items]
  | _ => cases own

theorem room_ofBranches (first : Plan) (rest : List Plan) (direction : Direction) :
    (ofBranches (first :: rest)).room direction true =
      ((first :: rest).map (room direction · true)).sum := by
  induction rest generalizing first with
  | nil => simp [ofBranches]
  | cons second rest ih =>
    rw [List.map_cons, List.sum_cons, ← ih second]
    simp [ofBranches, room]

theorem anchored_ofBranches (first : Plan) (rest : List Plan) (direction : Direction) :
    (ofBranches (first :: rest)).anchored direction =
      (first :: rest).all (anchored direction ·) := by
  induction rest generalizing first with
  | nil => simp [ofBranches]
  | cons second rest ih =>
    rw [List.all_cons, ← ih second]
    rfl

/-- The room of a choice among groups: only the sum of its branches counts. -/
theorem room_oneOf (groups : ∀ plan ∈ first :: second :: rest, plan.isGroup)
    (direction : Direction) : (oneOf (first :: second :: rest)).room direction false =
      branchesRoom 0 + stateRoom + ((first :: second :: rest).map (room direction · true)).sum := by
  have own := groups first List.mem_cons_self
  rw [oneOf_groups groups, List.map_cons, List.sum_cons, ← room_ofBranches]
  cases first with
  | group body => simp [room, text?]
  | _ => cases own

theorem anchored_oneOf (groups : ∀ plan ∈ first :: second :: rest, plan.isGroup)
    (direction : Direction) : (oneOf (first :: second :: rest)).anchored direction =
      (first :: second :: rest).all (anchored direction ·) := by
  rw [oneOf_groups groups]
  exact anchored_ofBranches first (second :: rest) direction

theorem footprint_reordered (perm : others.Perm plans) (groups : ∀ plan ∈ plans, plan.isGroup)
    (several : 2 ≤ plans.length) (direction : Direction) :
    (oneOf others).footprint direction = (oneOf plans).footprint direction := by
  have same := perm.length_eq
  have all : others.all (anchored direction ·) = plans.all (anchored direction ·) :=
    perm.all_eq
  have sum : (others.map (room direction · true)).sum = (plans.map (room direction · true)).sum :=
    (perm.map _).sum_nat
  match plans, others with
  | first :: second :: rest, one :: other :: more =>
    have moved : ∀ plan ∈ one :: other :: more, plan.isGroup :=
      fun plan member => groups plan (perm.mem_iff.mp member)
    rw [footprint, footprint, anchored_oneOf groups, anchored_oneOf moved, room_oneOf groups,
      room_oneOf moved, all, sum]

end Groups

end Plan

namespace Piece

theorem depthAround_reordered {pieces others : List Piece} (perm : others.Perm pieces) :
    depthAround others = depthAround pieces := by
  have most := perm.foldl_eq' (f := fun depth piece => max depth piece.depth)
    (fun one _ other _ depth => Nat.max_right_comm depth one.depth other.depth) 0
  rw [depthAround, most, depthAround]

theorem oneOf_depth {pieces : List Piece} (several : 2 ≤ pieces.length) :
    (oneOf pieces).depth = depthAround pieces := by
  match pieces with
  | _ :: _ :: _ => rfl

theorem oneOf_plan {pieces : List Piece} (several : 2 ≤ pieces.length) :
    (oneOf pieces).plan = .oneOf (pieces.map Piece.plan) := by
  match pieces with
  | _ :: _ :: _ => rfl

theorem admit_reordered {pieces others : List Piece} (perm : others.Perm pieces)
    (groups : ∀ piece ∈ pieces, piece.plan.isGroup) (several : 2 ≤ pieces.length)
    {pattern : Pattern} (admitted : Piece.admit (oneOf pieces) = .ok pattern) :
    Piece.admit (oneOf others) = .ok (oneOf others).pattern := by
  have moved : 2 ≤ others.length := perm.length_eq ▸ several
  have depth : (oneOf others).depth = (oneOf pieces).depth := by
    rw [oneOf_depth several, oneOf_depth moved, depthAround_reordered perm]
  have plans : ∀ plan ∈ pieces.map Piece.plan, plan.isGroup := by
    simpa using groups
  have fits : (oneOf others).plan.fits = (oneOf pieces).plan.fits := by
    have footprint := Plan.footprint_reordered (perm.map Piece.plan) plans (by simpa using several)
    rw [oneOf_plan several, oneOf_plan moved, Plan.fits, Plan.fits, footprint, footprint]
  unfold Piece.admit at admitted ⊢
  rw [depth, fits]
  split at admitted
  · cases admitted
  · next shallow =>
    split at admitted
    · next small => rw [if_neg shallow, if_pos small]
    · cases admitted

end Piece

end Lexicon.Pattern
