import Lexicon.Proofs.Pattern.Sequence

/-! What the matches in a text depend on.

Main statements: patterns that match alike at every place have the same matches in every text
(`allMatches_congr`), and a match where the text begins is the first of them (`allMatches_head`).
-/

set_option autoImplicit false

namespace Lexicon.Pattern

section Steps

variable {pattern : Pattern} {cursor : Cursor} {barred : Bool} {skipped : Nat} {hit : Hit}

theorem matchesFrom_none (outcome : pattern.search cursor = none) (found : List Match) :
    pattern.matchesFrom cursor barred found = found.reverse := by
  rw [matchesFrom]
  split
  · rfl
  · next other =>
    rw [outcome] at other
    cases other

theorem matchesFrom_repeated (outcome : pattern.search cursor = some (skipped, hit))
    (repeated : barred = true ∧ skipped + hit.taken = 0) (found : List Match) :
    pattern.matchesFrom cursor barred found =
      if cursor.rest = [] then found.reverse
      else pattern.matchesFrom (cursor.advance 1) false found := by
  rw [matchesFrom]
  split
  · next other =>
    rw [outcome] at other
    cases other
  · next other =>
    rw [outcome] at other
    cases other
    rw [dif_pos repeated]
    split
    · next ahead => rw [if_pos ahead]
    · next ahead => rw [if_neg (by simp [ahead])]

theorem matchesFrom_free (outcome : pattern.search cursor = some (skipped, hit))
    (free : ¬ (barred = true ∧ skipped + hit.taken = 0)) (found : List Match) :
    pattern.matchesFrom cursor barred found =
      let start := cursor.advance skipped
      let stop := start.advance hit.taken
      let text := String.ofList (start.rest.take hit.taken)
      pattern.matchesFrom stop true (⟨start.offset, stop.offset, text, hit.groups⟩ :: found) := by
  rw [matchesFrom]
  split
  · next other =>
    rw [outcome] at other
    cases other
  · next other =>
    rw [outcome] at other
    cases other
    rw [dif_neg free]

end Steps

section Alike

variable {one other : Pattern}

theorem searchFrom_congr
    (same : ∀ before text, one.matchHere? before text = other.matchHere? before text)
    (before : Option Char) (skipped : Nat) (text : List Char) :
    one.searchFrom before skipped text = other.searchFrom before skipped text := by
  induction text generalizing before skipped with
  | nil => rw [searchFrom, searchFrom, same]
  | cons c rest ih => rw [searchFrom, searchFrom, same, ih]

theorem matchesFrom_congr (same : ∀ cursor, one.search cursor = other.search cursor)
    (cursor : Cursor) (barred : Bool) (found : List Match) :
    one.matchesFrom cursor barred found = other.matchesFrom cursor barred found := by
  fun_induction one.matchesFrom cursor barred found with
  | case1 cursor barred found outcome =>
    rw [same] at outcome
    rw [matchesFrom_none outcome]
  | case2 cursor barred found skipped hit outcome repeated ahead =>
    rw [same] at outcome
    rw [matchesFrom_repeated outcome repeated, if_pos ahead]
  | case3 cursor barred found skipped hit outcome repeated c rest ahead ih =>
    rw [same] at outcome
    rw [matchesFrom_repeated outcome repeated, if_neg (by simp [ahead]), ih]
  | case4 cursor barred found skipped hit outcome free start stop text ih =>
    rw [same] at outcome
    rw [matchesFrom_free outcome free, ih]

theorem allMatches_congr
    (same : ∀ before text, one.matchHere? before text = other.matchHere? before text)
    (text : List Char) : one.allMatches text = other.allMatches text :=
  matchesFrom_congr (fun cursor => searchFrom_congr same cursor.before 0 cursor.rest) _ _ _

end Alike

theorem matchesFrom_end {pattern : Pattern} {cursor : Cursor} (ended : cursor.rest = [])
    (found : List Match) : pattern.matchesFrom cursor true found = found.reverse := by
  cases outcome : pattern.search cursor with
  | none => exact matchesFrom_none outcome found
  | some one =>
    obtain ⟨skipped, hit⟩ := one
    have bound := search_bound outcome
    rw [ended, List.length_nil, Nat.le_zero] at bound
    rw [matchesFrom_repeated outcome ⟨rfl, bound⟩, if_pos ended]

section Start

variable {pattern : Pattern} {text : List Char} {hit : Hit}
  (here : pattern.matchHere? none text = some hit)
include here

theorem allMatches_of_here : pattern.allMatches text =
    pattern.matchesFrom ((Cursor.ofText text).advance hit.taken) true
      [⟨0, Text.width (text.take hit.taken), String.ofList (text.take hit.taken), hit.groups⟩] := by
  have outcome : pattern.search (.ofText text) = some (0, hit) := by
    cases text <;> simp [search, Cursor.ofText, searchFrom, here]
  have free : ¬ (false = true ∧ 0 + hit.taken = 0) := fun repeated => Bool.false_ne_true repeated.1
  rw [allMatches, matchesFrom_free outcome free]
  simp [Cursor.advance, Cursor.advance_offset, Cursor.ofText]

theorem allMatches_head : ∃ found later, pattern.allMatches text = found :: later ∧
    found.text = String.ofList (text.take hit.taken) ∧ found.groups = hit.groups := by
  obtain ⟨later, behind, -⟩ := pattern.matchesFrom_placed _ true _
  exact ⟨_, later, (allMatches_of_here here).trans behind, rfl, rfl⟩

theorem allMatches_whole (whole : hit.taken = text.length) :
    pattern.allMatches text = [⟨0, Text.width text, String.ofList text, hit.groups⟩] := by
  have ended : ((Cursor.ofText text).advance hit.taken).rest = [] := by
    rw [Cursor.advance_rest, whole]
    exact List.drop_length
  rw [allMatches_of_here here, matchesFrom_end ended, whole, List.take_length]
  rfl

end Start

end Lexicon.Pattern
